import OcenPlatform.Origination.Decision
import OcenPlatform.Origination.HitPolicies
import OcenPlatform.Vdp.Receivables

/-! The two Kind 1 decisions on one invoice: what the service reports, and whether the workflow
goes past D0. -/

namespace OcenPlatform.Vdp

open Durable
open Origination (EvaluateDecisionInput Workflow WorkerProcess Activities.evaluateDecision)
open Rules

/-! ## The D0 step -/

/-- The D0 step, once its activity has given a result. -/
def d0Step (loanApplicationId : String) (r : Json) : Workflow Unit :=
  match Origination.d0Kind1Gate loanApplicationId with
  | .activity _ next => next r
  | step => step

def GoesPastD0 (loanApplicationId : String) (r : Json) : Prop :=
  d0Step loanApplicationId r = .ret ()

/-- D0 on the facts of an invoice. -/
def d0Input (loanApplicationId : String) (invoice : Invoice) : EvaluateDecisionInput where
  loanApplicationId
  gate := "d0_kind1_gate"
  rulesetName := "d0-kind1-gate"
  context := some invoice.context

theorem d0Step_eq {loanApplicationId : String} {r outcome : Json}
    (h : r.subscript "outcome" = .ok outcome) :
    d0Step loanApplicationId r = if outcome.isStr "fail" then do
        let reason ← Program.ofExcept (r.get "reason" (.str "kind1_conditions_not_met"))
        .exit (.rejected .d0Kind1Gate reason)
      else .ret () := by
  have hstep : d0Step loanApplicationId r = (do
      let outcome ← Program.ofExcept (r.subscript "outcome")
      if outcome.isStr "fail" then
        let reason ← Program.ofExcept (r.get "reason" (.str "kind1_conditions_not_met"))
        .exit (.rejected .d0Kind1Gate reason)) := rfl
  rw [hstep, h]
  rfl

/-- Every outcome but `fail` goes past the gate. -/
theorem goesPastD0_iff {loanApplicationId : String} {r : Json} {outcome : String}
    (h : r.subscript "outcome" = .ok (.str outcome)) :
    GoesPastD0 loanApplicationId r ↔ outcome ≠ "fail" := by
  rw [GoesPastD0, d0Step_eq h]
  by_cases hfail : outcome = "fail"
  · subst hfail
    refine iff_of_false ?_ (not_not_intro rfl)
    cases r.get "reason" (.str "kind1_conditions_not_met") with
    | error e => exact nofun
    | ok reason => exact nofun
  · refine iff_of_true ?_ hfail
    rw [if_neg (by simpa [Json.isStr] using hfail)]

/-! ## The table -/

/-- The conditions of D0 besides the status. -/
def Invoice.sound (invoice : Invoice) : Bool :=
  invoice.irnValid && invoice.repaymentRoutingActive && invoice.gstinValid

/-- The outcome of D0. -/
def d0Outcome (invoice : Invoice) : String :=
  if invoice.sound then
    if invoice.imsStatus = "accepted" then "pass"
    else if invoice.imsStatus = "deemed_accepted" then "flag"
    else "fail"
  else "fail"

/-- A row of D0 that tests all fields. -/
def d0Row (status outcome reason : String) : Rule where
  tests := [.isBool true, .isStr status, .isBool true, .isBool true]
  values := [.str outcome, .str reason]

def d0Default : Rule where
  tests := [.any, .any, .any, .any]
  values := [.str "fail", .str "kind1_conditions_not_met"]

theorem matchesRule_d0Row (invoice : Invoice) (status outcome reason : String) :
    Rules.d0Kind1Gate.matchesRule invoice.context (d0Row status outcome reason) =
      (invoice.sound && invoice.imsStatus = status) := by
  cases hirn : invoice.irnValid <;> cases hrouting : invoice.repaymentRoutingActive <;>
    simp [DecisionTable.matchesRule, Rules.d0Kind1Gate, d0Row, Invoice.context, kind1Context,
      PyDict.get, Invoice.sound, hirn, hrouting, Bool.and_comm]

/-- The first matching row of D0 has this outcome. -/
theorem head?_matching_d0 (invoice : Invoice) :
    ∃ rule reason, (Rules.d0Kind1Gate.matching invoice.context).head? = some rule ∧
      Rules.d0Kind1Gate.output rule =
        [("outcome", .str (d0Outcome invoice)), ("reason", .str reason)] := by
  have hrules : Rules.d0Kind1Gate.rules =
      [d0Row "accepted" "pass" "kind1_all_conditions_met",
        d0Row "deemed_accepted" "flag" "deemed_accepted_weaker_signal", d0Default] := rfl
  have hdefault : Rules.d0Kind1Gate.matchesRule invoice.context d0Default = true := rfl
  unfold DecisionTable.matching d0Outcome
  rw [hrules]
  simp only [List.filter_cons, matchesRule_d0Row, hdefault]
  cases invoice.sound with
  | false => exact ⟨d0Default, _, rfl, rfl⟩
  | true =>
    by_cases haccepted : invoice.imsStatus = "accepted"
    · exact ⟨d0Row "accepted" "pass" "kind1_all_conditions_met", _, by simp [haccepted],
        by simp [haccepted]; rfl⟩
    · by_cases hdeemed : invoice.imsStatus = "deemed_accepted"
      · exact ⟨d0Row "deemed_accepted" "flag" "deemed_accepted_weaker_signal", _, by simp [hdeemed],
          by simp [hdeemed]; rfl⟩
      · exact ⟨d0Default, _, by simp [haccepted, hdeemed], by simp [haccepted, hdeemed]; rfl⟩

theorem d0Outcome_of_yields {invoice : Invoice} {output : Json}
    (h : Rules.d0Kind1Gate.Yields invoice.context output) :
    ∃ reason, output = .obj [("outcome", .str (d0Outcome invoice)), ("reason", .str reason)] := by
  obtain ⟨fields, rfl, hfirst⟩ := h
  obtain ⟨rule, reason, hhead, houtput⟩ := head?_matching_d0 invoice
  exact ⟨reason, by rw [hfirst rule hhead, houtput]⟩

/-! ## The two decisions -/

section Decisions

variable {s : VDPWedgeService} {request : InvoiceIngestionRequest} {invoiceId : Uuid}
  {process : WorkerProcess} {loanApplicationId : String}

/-- What the service reports. -/
theorem response_reports (hloaded : Loaded s.zen "d0-kind1-gate" Rules.d0Kind1Gate)
    {response : InvoiceIngestionResponse} (h : s.response request invoiceId = .ok response) :
    response.kind1Eligible = (VDPWedgeService.checksKind1 request &&
      d0Outcome (VDPWedgeService.newInvoice request invoiceId) = "pass") ∧
    response.kind1Outcome = if VDPWedgeService.checksKind1 request then
      some (d0Outcome (VDPWedgeService.newInvoice request invoiceId)) else none := by
  obtain ⟨kind1, outcome, reason, hkind1, houtcome, -, rfl⟩ := VDPWedgeService.response_cases h
  unfold VDPWedgeService.kind1 at hkind1
  split at hkind1
  · rename_i hchecks
    obtain ⟨result, hresult, hkind1⟩ := exists_of_bind_ok hkind1
    obtain ⟨tableReason, houtput⟩ := d0Outcome_of_yields (hloaded.yields hresult)
    rw [houtput] at hkind1
    obtain rfl := Except.ok.inj hkind1
    have hsome : some (d0Outcome (VDPWedgeService.newInvoice request invoiceId)) = outcome :=
      Except.ok.inj houtcome
    rw [hchecks]
    exact ⟨rfl, hsome.symm⟩
  · rename_i hchecks
    obtain rfl := Except.ok.inj hkind1
    obtain rfl := Except.ok.inj houtcome
    simp [hchecks]

/-- What the activity returns on the facts of an invoice. -/
theorem subscript_outcome_d0 (hloaded : Loaded process.zen "d0-kind1-gate" Rules.d0Kind1Gate)
    {invoice : Invoice} {r : Json}
    (hr : (Activities.evaluateDecision process (d0Input loanApplicationId invoice)).Returns r) :
    r.subscript "outcome" = .ok (.str (d0Outcome invoice)) := by
  have heval : Origination.Evaluable process (d0Input loanApplicationId invoice) :=
    ⟨invoice.context, rfl, List.cons_ne_nil _ _, hloaded.mem_loadedRulesets⟩
  obtain ⟨output, ⟨context, result, hcontext, -, hresult, houtput⟩, hstated⟩ :=
    Origination.evaluateDecision_evaluated heval hr
  obtain rfl : invoice.context = context := Option.some.inj hcontext
  obtain ⟨reason, hyields⟩ := d0Outcome_of_yields (hloaded.yields hresult)
  obtain rfl := Json.obj.inj (houtput.symm.trans hyields)
  exact hstated _ rfl

theorem d0Outcome_pass_iff {invoice : Invoice} :
    d0Outcome invoice = "pass" ↔ invoice.sound ∧ invoice.imsStatus = "accepted" := by
  unfold d0Outcome
  split_ifs <;> simp_all

theorem d0Outcome_flag_iff {invoice : Invoice} :
    d0Outcome invoice = "flag" ↔ invoice.sound ∧ invoice.imsStatus = "deemed_accepted" := by
  unfold d0Outcome
  split_ifs <;> simp_all

theorem d0Outcome_cases (invoice : Invoice) :
    d0Outcome invoice ≠ "fail" ↔ d0Outcome invoice = "pass" ∨ d0Outcome invoice = "flag" := by
  unfold d0Outcome
  split_ifs <;> decide

/-- An invoice that D0 does not fail is one that the service checks. -/
theorem checksKind1_of_sound (hsound : (VDPWedgeService.newInvoice request invoiceId).sound)
    (hstatus : request.imsStatus = "accepted" ∨ request.imsStatus = "deemed_accepted") :
    VDPWedgeService.checksKind1 request := by
  unfold Invoice.sound at hsound
  simp only [VDPWedgeService.newInvoice, Bool.and_eq_true] at hsound
  simp [VDPWedgeService.checksKind1, hsound.1, hstatus]

theorem kind1Eligible_iff (hloaded : Loaded s.zen "d0-kind1-gate" Rules.d0Kind1Gate)
    {response : InvoiceIngestionResponse} (h : s.response request invoiceId = .ok response) :
    response.kind1Eligible ↔ d0Outcome (VDPWedgeService.newInvoice request invoiceId) = "pass" := by
  rw [(response_reports hloaded h).1, Bool.and_eq_true, decide_eq_true_eq]
  refine and_iff_right_of_imp fun hpass => ?_
  obtain ⟨hsound, hstatus⟩ := d0Outcome_pass_iff.mp hpass
  exact checksKind1_of_sound hsound (.inl hstatus)

theorem kind1Outcome_flag_iff (hloaded : Loaded s.zen "d0-kind1-gate" Rules.d0Kind1Gate)
    {response : InvoiceIngestionResponse} (h : s.response request invoiceId = .ok response) :
    response.kind1Outcome = some "flag" ↔
      d0Outcome (VDPWedgeService.newInvoice request invoiceId) = "flag" := by
  rw [(response_reports hloaded h).2]
  constructor
  · intro hsome
    split at hsome
    · exact Option.some.inj hsome
    · cases hsome
  · intro hflag
    obtain ⟨hsound, hstatus⟩ := d0Outcome_flag_iff.mp hflag
    rw [if_pos (checksKind1_of_sound hsound (.inr hstatus)), hflag]

end Decisions

/-- **The workflow goes past D0 exactly if** the service reports the invoice as eligible or with
a flag, which is for a sound invoice whose acceptance is only deemed. -/
theorem goesPastD0_iff_reported (s : VDPWedgeService) (process : WorkerProcess)
    (hservice : Loaded s.zen "d0-kind1-gate" Rules.d0Kind1Gate)
    (hworker : Loaded process.zen "d0-kind1-gate" Rules.d0Kind1Gate)
    (request : InvoiceIngestionRequest) (invoiceId : Uuid) (response : InvoiceIngestionResponse)
    (hresponse : (s.ingestInvoice request invoiceId).1 = .ok response)
    (loanApplicationId : String) (r : Json)
    (hr : (Activities.evaluateDecision process
      (d0Input loanApplicationId (VDPWedgeService.newInvoice request invoiceId))).Returns r) :
    (GoesPastD0 loanApplicationId r ↔
      response.kind1Eligible ∨ response.kind1Outcome = some "flag") ∧
    (response.kind1Outcome = some "flag" ↔ irnPattern request.irn ∧
      request.imsStatus = "deemed_accepted" ∧ request.repaymentRoutingActive ∧
      request.vendorGstin.length = 15) ∧
    (response.kind1Outcome = some "flag" → response.kind1Eligible = false) := by
  have heligible := kind1Eligible_iff hservice hresponse
  have hflag := kind1Outcome_flag_iff hservice hresponse
  refine ⟨?_, ?_, fun h => ?_⟩
  · rw [goesPastD0_iff (subscript_outcome_d0 hworker hr), d0Outcome_cases, heligible, hflag]
  · rw [hflag, d0Outcome_flag_iff]
    simp only [Invoice.sound, VDPWedgeService.newInvoice, Bool.and_eq_true, decide_eq_true_eq]
    tauto
  · rw [hflag] at h
    rw [Bool.eq_false_iff, ne_eq, heligible, h]
    decide

/-! An invoice that is accepted, and one whose acceptance is only deemed. -/

def d0Worker : WorkerProcess := Origination.workerWith "d0-kind1-gate" Rules.d0Kind1Gate

def deemedInvoice : InvoiceIngestionRequest := { validInvoice with imsStatus := "deemed_accepted" }

def flagged (invoiceId : Uuid) : InvoiceIngestionResponse where
  invoiceId
  irn := validInvoice.irn
  irnValid := true
  imsStatus := "deemed_accepted"
  kind1Eligible := false
  kind1Outcome := some "flag"
  kind1Reason := some "deemed_accepted_weaker_signal"

/-- The activity returns on every invoice. -/
theorem exists_returns_d0Worker (loanApplicationId : String) (invoice : Invoice) :
    ∃ r, (Activities.evaluateDecision d0Worker (d0Input loanApplicationId invoice)).Returns r := by
  obtain ⟨fields, houtput, -⟩ := DecisionTable.yields_evaluate Rules.d0Kind1Gate invoice.context
  have hreturns : (Activities.evaluateDecision d0Worker (d0Input loanApplicationId invoice)).NeverRaises :=
    Origination.neverRaises_of_obj rfl (List.cons_ne_nil _ _)
      (loaded_tableEngine _ _).mem_loadedRulesets (evaluate_tableEngine _ _ _) houtput rfl
  exact hreturns.exists_returns

theorem goesPastD0_iff_reported_accepted :
    ∃ r, (Activities.evaluateDecision d0Worker
        (d0Input "LA-1" (VDPWedgeService.newInvoice validInvoice ⟨1⟩))).Returns r ∧
      GoesPastD0 "LA-1" r := by
  obtain ⟨r, hr⟩ := exists_returns_d0Worker "LA-1" (VDPWedgeService.newInvoice validInvoice ⟨1⟩)
  exact ⟨r, hr, (goesPastD0_iff_reported { zen := d0Engine } d0Worker (loaded_tableEngine _ _)
    (loaded_tableEngine _ _) validInvoice ⟨1⟩ (attested ⟨1⟩) rfl "LA-1" r hr).1.mpr (.inl rfl)⟩

/-- The workflow goes past D0, and the service reports that the invoice is not eligible. -/
theorem deemedInvoice_disagrees :
    Loaded d0Engine "d0-kind1-gate" Rules.d0Kind1Gate ∧
    Loaded d0Worker.zen "d0-kind1-gate" Rules.d0Kind1Gate ∧
    (VDPWedgeService.ingestInvoice { zen := d0Engine } deemedInvoice ⟨1⟩).1 = .ok (flagged ⟨1⟩) ∧
    (flagged ⟨1⟩).kind1Eligible = false ∧
    ∃ r, (Activities.evaluateDecision d0Worker
        (d0Input "LA-1" (VDPWedgeService.newInvoice deemedInvoice ⟨1⟩))).Returns r ∧
      GoesPastD0 "LA-1" r := by
  obtain ⟨r, hr⟩ := exists_returns_d0Worker "LA-1" (VDPWedgeService.newInvoice deemedInvoice ⟨1⟩)
  refine ⟨loaded_tableEngine _ _, loaded_tableEngine _ _, rfl, rfl, r, hr, ?_⟩
  exact (goesPastD0_iff (subscript_outcome_d0 (loaded_tableEngine _ _) hr)).mpr (by decide)

end OcenPlatform.Vdp
