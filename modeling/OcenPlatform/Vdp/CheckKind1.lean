import OcenPlatform.Vdp.Kind1

/-! `check_kind1` on a stored invoice, against what the ingestion of the invoice has reported: the
service skips the gate only where the gate fails. -/

namespace OcenPlatform.Vdp

open Rules

/-! ## Model -/

structure Kind1CheckResponse where
  invoiceId : Uuid
  outcome : String
  reason : String
  rulesetHash : String
  receiptId : Option String := none

/-- A field of a response that is a text. -/
def requiredText : Json → Except String String
  | .str s => .ok s
  | _ => .error "ValidationError"

/-- `check_kind1`. The event that it makes of a pass goes nowhere. -/
def VDPWedgeService.checkKind1 (s : VDPWedgeService) (invoiceId : Uuid) :
    Except String Kind1CheckResponse :=
  match PyDict.find? s.invoices invoiceId with
  | none => .error ("Invoice " ++ invoiceId.str ++ " not found")
  | some invoice => do
    let result ← s.evaluateKind1 invoice
    let outcome ← result.output.get "outcome" (.str "error")
    let reason ← result.output.get "reason" (.str "evaluation_error")
    return {
      invoiceId
      outcome := ← requiredText outcome
      reason := ← requiredText reason
      rulesetHash := result.rulesetHash }

/-! ## The gate -/

/-- The engine evaluates D0 on every context, by the table. -/
def EvaluatesD0 (zen : ZenDecisionEngine) : Prop :=
  Loaded zen "d0-kind1-gate" Rules.d0Kind1Gate ∧
    ∀ context, ∃ result, zen.evaluate "d0-kind1-gate" context = .ok result

/-- What the gate says of an invoice, whichever engine evaluates it. -/
structure Gate (invoice : Invoice) (reason : String) : Prop where
  evaluated : ∀ zen, EvaluatesD0 zen → ∃ result, zen.evaluate "d0-kind1-gate" invoice.context = .ok result ∧
    result.output = .obj [("outcome", .str (d0Outcome invoice)), ("reason", .str reason)]

theorem exists_gate (invoice : Invoice) : ∃ reason, Gate invoice reason := by
  obtain ⟨rule, reason, hhead, houtput⟩ := head?_matching_d0 invoice
  refine ⟨reason, ⟨fun zen hzen => ?_⟩⟩
  obtain ⟨result, hresult⟩ := hzen.2 invoice.context
  obtain ⟨fields, hfields, hfirst⟩ := hzen.1.yields hresult
  exact ⟨result, hresult, by rw [hfields, hfirst rule hhead, houtput]⟩

section Gate

variable {s : VDPWedgeService} {invoice : Invoice} {reason : String} {invoiceId : Uuid}

theorem Gate.checkKind1 (h : Gate invoice reason) (hzen : EvaluatesD0 s.zen)
    (hstored : PyDict.find? s.invoices invoiceId = some invoice) :
    ∃ check, s.checkKind1 invoiceId = .ok check ∧ check.invoiceId = invoiceId ∧
      check.outcome = d0Outcome invoice ∧ check.reason = reason := by
  obtain ⟨result, hresult, houtput⟩ := h.evaluated s.zen hzen
  refine ⟨{ invoiceId, outcome := d0Outcome invoice, reason, rulesetHash := result.rulesetHash },
    ?_, rfl, rfl, rfl⟩
  unfold VDPWedgeService.checkKind1
  rw [hstored]
  simp only [VDPWedgeService.evaluateKind1, hresult]
  change (do let outcome ← result.output.get "outcome" (.str "error"); _) = _
  rw [houtput]
  rfl

/-- An invoice that is not checked would fail. -/
theorem d0Outcome_of_not_checks {request : InvoiceIngestionRequest}
    (h : VDPWedgeService.checksKind1 request = false) :
    d0Outcome (VDPWedgeService.newInvoice request invoiceId) = "fail" := by
  by_contra hfail
  have hchecks : VDPWedgeService.checksKind1 request = true := by
    rcases (d0Outcome_cases _).mp hfail with hpass | hflag
    · obtain ⟨hsound, hstatus⟩ := d0Outcome_pass_iff.mp hpass
      exact checksKind1_of_sound hsound (.inl hstatus)
    · obtain ⟨hsound, hstatus⟩ := d0Outcome_flag_iff.mp hflag
      exact checksKind1_of_sound hsound (.inr hstatus)
  rw [h] at hchecks
  cases hchecks

/-- The gate, where the ingestion evaluates it. -/
theorem Gate.kind1 {request : InvoiceIngestionRequest}
    (h : Gate (VDPWedgeService.newInvoice request invoiceId) reason) (hzen : EvaluatesD0 s.zen)
    (hchecks : VDPWedgeService.checksKind1 request) :
    s.kind1 request invoiceId = .ok {
      outcome := .str (d0Outcome (VDPWedgeService.newInvoice request invoiceId))
      reason := .str reason
      eligible := d0Outcome (VDPWedgeService.newInvoice request invoiceId) == "pass" } := by
  obtain ⟨result, hresult, houtput⟩ := h.evaluated s.zen hzen
  unfold VDPWedgeService.kind1
  rw [if_pos hchecks, VDPWedgeService.evaluateKind1, hresult]
  change (do let outcome ← result.output.get "outcome" .null; _) = _
  rw [houtput]
  rfl

/-- What the ingestion reports of the gate. -/
theorem Gate.response {request : InvoiceIngestionRequest}
    (h : Gate (VDPWedgeService.newInvoice request invoiceId) reason) (hzen : EvaluatesD0 s.zen) :
    ∃ response, s.response request invoiceId = .ok response ∧
      if VDPWedgeService.checksKind1 request then
        response.kind1Outcome = some (d0Outcome (VDPWedgeService.newInvoice request invoiceId)) ∧
          response.kind1Reason = some reason
      else response.kind1Outcome = none ∧ response.kind1Reason = none := by
  unfold VDPWedgeService.response
  split
  · rename_i hchecks
    rw [h.kind1 hzen hchecks]
    exact ⟨_, rfl, rfl, rfl⟩
  · rename_i hchecks
    rw [VDPWedgeService.kind1, if_neg hchecks]
    exact ⟨_, rfl, rfl, rfl⟩

end Gate

/-! ## Later ingestions -/

/-- **Run lemma.** Calls that draw other ids leave an invoice as it is. -/
theorem find?_after {s : VDPWedgeService} {invoice : Invoice} {invoiceId : Uuid}
    {calls : List IngestCall} (hother : ∀ call ∈ calls, call.invoiceId ≠ invoiceId)
    (hstored : PyDict.find? s.invoices invoiceId = some invoice) :
    PyDict.find? (s.after calls).invoices invoiceId = some invoice := by
  refine List.foldlRecOn calls _ (motive := fun s : VDPWedgeService =>
    PyDict.find? s.invoices invoiceId = some invoice) hstored fun s hs call hcall => ?_
  exact (PyDict.find?_set_ne (hother call hcall).symm).trans hs

theorem evaluatesD0_after {s : VDPWedgeService} {calls : List IngestCall} (hzen : EvaluatesD0 s.zen)
    (hcalls : ∀ call ∈ calls, EvaluatesD0 call.zen) : EvaluatesD0 (s.after calls).zen :=
  List.foldlRecOn calls _ (motive := fun s : VDPWedgeService => EvaluatesD0 s.zen) hzen
    fun _ _ call hcall => hcalls call hcall

/-- **The ingestion and the check of an invoice agree:** the invoice is reported as eligible exactly
if its check passes, where the gate has been evaluated both report the same, and where it has been
skipped the check fails. Later ingestions do not change what the check says. -/
theorem checkKind1_agrees (s : VDPWedgeService) (hzen : EvaluatesD0 s.zen)
    (request : InvoiceIngestionRequest) (invoiceId : Uuid) :
    ∃ response outcome reason, (s.ingestInvoice request invoiceId).1 = .ok response ∧
      response.invoiceId = invoiceId ∧ (response.kind1Eligible ↔ outcome = "pass") ∧
      (if VDPWedgeService.checksKind1 request then
        response.kind1Outcome = some outcome ∧ response.kind1Reason = some reason
      else response.kind1Outcome = none ∧ response.kind1Reason = none ∧ outcome = "fail") ∧
      ∀ later : List IngestCall,
        (∀ call ∈ later, call.invoiceId ≠ invoiceId ∧ EvaluatesD0 call.zen) →
        ∃ check, ((s.ingestInvoice request invoiceId).2.after later).checkKind1 invoiceId = .ok check ∧
          check.invoiceId = invoiceId ∧ check.outcome = outcome ∧ check.reason = reason := by
  obtain ⟨reason, hgate⟩ := exists_gate (VDPWedgeService.newInvoice request invoiceId)
  obtain ⟨response, hresponse, hreported⟩ := hgate.response hzen
  refine ⟨response, _, reason, hresponse, (response_ok hresponse).2,
    kind1Eligible_iff hzen.1 hresponse, ?_, fun later hlater => ?_⟩
  · split
    · rename_i hchecks
      rwa [if_pos hchecks] at hreported
    · rename_i hchecks
      rw [if_neg hchecks] at hreported
      exact ⟨hreported.1, hreported.2, d0Outcome_of_not_checks (Bool.eq_false_iff.mpr hchecks)⟩
  · exact hgate.checkKind1 (evaluatesD0_after hzen fun call hcall => (hlater call hcall).2)
      (find?_after (fun call hcall => (hlater call hcall).1)
        (VDPWedgeService.find?_ingestInvoice s request invoiceId))

/-- The engine with the table evaluates it. -/
theorem evaluatesD0_d0Engine : EvaluatesD0 d0Engine :=
  ⟨loaded_tableEngine _ _, fun _ => ⟨_, evaluate_tableEngine _ _ _⟩⟩

/-- An invoice of which the acceptance is only deemed, checked after another ingestion. -/
theorem checkKind1_agrees_deemed : ∃ response outcome reason,
    (VDPWedgeService.ingestInvoice { zen := d0Engine } deemedInvoice ⟨1⟩).1 = .ok response ∧
    response.kind1Outcome = some outcome ∧ response.kind1Reason = some reason ∧
    ∃ check, ((VDPWedgeService.ingestInvoice { zen := d0Engine } deemedInvoice ⟨1⟩).2.after
        [{ request := validInvoice, invoiceId := ⟨2⟩, zen := d0Engine }]).checkKind1 ⟨1⟩ = .ok check ∧
      check.outcome = outcome ∧ check.reason = reason := by
  obtain ⟨response, outcome, reason, hresponse, -, -, hreported, hlater⟩ :=
    checkKind1_agrees { zen := d0Engine } evaluatesD0_d0Engine deemedInvoice ⟨1⟩
  have hchecks : VDPWedgeService.checksKind1 deemedInvoice = true := rfl
  rw [if_pos hchecks] at hreported
  obtain ⟨check, hcheck, -, hsame⟩ := hlater
    [{ request := validInvoice, invoiceId := ⟨2⟩, zen := d0Engine }] fun call hcall => by
      obtain rfl := List.mem_singleton.mp hcall
      exact ⟨by decide, evaluatesD0_d0Engine⟩
  exact ⟨response, outcome, reason, hresponse, hreported.1, hreported.2, check, hcheck, hsame⟩

end OcenPlatform.Vdp
