import Mathlib.Data.List.Nodup
import OcenPlatform.Rules.Rulesets
import OcenPlatform.Vdp.Service

/-! One receivable, one attestation: the store is keyed by new ids, so an invoice is stored as
often as it is ingested. -/

namespace OcenPlatform.Vdp

open Rules

/-! ## Runs -/

/-- A call of `ingest_invoice`: the engine as the call finds it, and the UUID that it draws. -/
structure IngestCall where
  request : InvoiceIngestionRequest
  invoiceId : Uuid
  zen : ZenDecisionEngine

namespace VDPWedgeService

def apply (s : VDPWedgeService) (call : IngestCall) :
    Except String InvoiceIngestionResponse × VDPWedgeService :=
  ingestInvoice { s with zen := call.zen } call.request call.invoiceId

/-- The service after the calls. -/
def after (s : VDPWedgeService) (calls : List IngestCall) : VDPWedgeService :=
  calls.foldl (fun s call => (s.apply call).2) s

/-- What the calls return. -/
def results (s : VDPWedgeService) : List IngestCall → List (Except String InvoiceIngestionResponse)
  | [] => []
  | call :: calls => (s.apply call).1 :: results (s.apply call).2 calls

end VDPWedgeService

/-! ## One invoice per IRN -/

section Irn

variable {κ : Type} (canonical : String → κ)

/-- At most one stored invoice per IRN, where `canonical` says which texts are one IRN. -/
def StoredOnce (s : VDPWedgeService) : Prop :=
  ∀ p ∈ s.invoices, ∀ q ∈ s.invoices, canonical p.2.irn = canonical q.2.irn → p.1 = q.1

/-- No two ids with one IRN are reported as eligible. -/
def EligibleOnce (results : List (Except String InvoiceIngestionResponse)) : Prop :=
  ∀ r r', .ok r ∈ results → .ok r' ∈ results → r.kind1Eligible → r'.kind1Eligible →
    canonical r.irn = canonical r'.irn → r.invoiceId = r'.invoiceId

end Irn

section Runs

variable {s : VDPWedgeService} {calls : List IngestCall}

/-- The entry that a call stores. -/
def IngestCall.entry (call : IngestCall) : Uuid × Invoice :=
  (call.invoiceId, VDPWedgeService.newInvoice call.request call.invoiceId)

/-- **Run lemma.** Calls with new ids store an invoice each. -/
theorem invoices_after (hnew : ∀ call ∈ calls, call.invoiceId ∉ s.invoices.map Prod.fst)
    (hfresh : (calls.map (·.invoiceId)).Nodup) :
    (s.after calls).invoices = s.invoices ++ calls.map IngestCall.entry := by
  induction calls generalizing s with
  | nil => exact (List.append_nil _).symm
  | cons call calls ih =>
    obtain ⟨hcall, hfresh⟩ := List.nodup_cons.mp hfresh
    have hstep : (s.apply call).2.invoices = s.invoices ++ [call.entry] :=
      PyDict.set_of_not_mem (hnew call (.head _))
    have hnew' : ∀ c ∈ calls, c.invoiceId ∉ (s.apply call).2.invoices.map Prod.fst := by
      intro c hc
      rw [hstep, List.map_append, List.mem_append, not_or]
      refine ⟨hnew c (.tail _ hc), fun hid => hcall ?_⟩
      have heq : c.invoiceId = call.invoiceId := List.mem_singleton.mp hid
      exact List.mem_map.mpr ⟨c, hc, heq⟩
    exact (ih hnew' hfresh).trans (by rw [hstep, List.append_assoc]; rfl)

/-- A response is about the invoice of its request. -/
theorem response_ok {request : InvoiceIngestionRequest} {invoiceId : Uuid}
    {response : InvoiceIngestionResponse} (h : s.response request invoiceId = .ok response) :
    response.irn = request.irn ∧ response.invoiceId = invoiceId := by
  obtain ⟨kind1, outcome, reason, -, -, -, rfl⟩ := VDPWedgeService.response_cases h
  exact ⟨rfl, rfl⟩

theorem exists_call_of_mem_results {response : InvoiceIngestionResponse}
    (h : .ok response ∈ s.results calls) :
    ∃ call ∈ calls, response.irn = call.request.irn ∧ response.invoiceId = call.invoiceId := by
  induction calls generalizing s with
  | nil => cases h
  | cons call calls ih =>
    rcases List.mem_cons.mp h with hfirst | hrest
    · exact ⟨call, .head _, response_ok hfirst.symm⟩
    · obtain ⟨c, hc, hsame⟩ := ih hrest
      exact ⟨c, .tail _ hc, hsame⟩

end Runs

/-- **A receivable is stored once, and attested once, exactly if** no two requests have its IRN,
in every run with new ids. -/
theorem storedOnce_iff {κ : Type} (canonical : String → κ) (zen : ZenDecisionEngine)
    (calls : List IngestCall) (hfresh : (calls.map (·.invoiceId)).Nodup) :
    StoredOnce canonical (VDPWedgeService.after { zen } calls) ∧
        EligibleOnce canonical (VDPWedgeService.results { zen } calls) ↔
      (calls.map fun call => canonical call.request.irn).Nodup := by
  have hinvoices : (VDPWedgeService.after { zen } calls).invoices = calls.map IngestCall.entry :=
    invoices_after (fun _ _ => List.not_mem_nil) hfresh
  constructor
  · rintro ⟨hstored, -⟩
    refine (List.Nodup.of_map _ hfresh).map_on fun call hcall call' hcall' heq => ?_
    have hid := hstored call.entry (hinvoices ▸ List.mem_map_of_mem hcall) call'.entry
      (hinvoices ▸ List.mem_map_of_mem hcall') heq
    exact List.inj_on_of_nodup_map hfresh hcall hcall' hid
  · intro hnodup
    have hsame : ∀ call ∈ calls, ∀ call' ∈ calls,
        canonical call.request.irn = canonical call'.request.irn → call = call' :=
      fun call hcall call' hcall' heq => List.inj_on_of_nodup_map hnodup hcall hcall' heq
    constructor
    · intro p hp q hq heq
      rw [hinvoices] at hp hq
      obtain ⟨call, hcall, rfl⟩ := List.mem_map.mp hp
      obtain ⟨call', hcall', rfl⟩ := List.mem_map.mp hq
      rw [hsame call hcall call' hcall' heq]
    · intro r r' hr hr' _ _ heq
      obtain ⟨call, hcall, hirn, hid⟩ := exists_call_of_mem_results hr
      obtain ⟨call', hcall', hirn', hid'⟩ := exists_call_of_mem_results hr'
      rw [hirn, hirn'] at heq
      rw [hid, hid', hsame call hcall call' hcall' heq]

/-! One invoice that is ingested twice. -/

def validInvoice : InvoiceIngestionRequest where
  irn := String.ofList (List.replicate 64 'a')
  anchorGstin := "27AABCU9603R1ZM"
  vendorGstin := "27AADCB2230M1ZT"
  amount := 500000
  issueDate := 739768
  dueDate := 739860
  imsStatus := "accepted"
  repaymentRoutingActive := true

def d0Engine : ZenDecisionEngine := tableEngine "d0-kind1-gate" d0Kind1Gate

def ingestTwice : List IngestCall :=
  [{ request := validInvoice, invoiceId := ⟨1⟩, zen := d0Engine },
    { request := validInvoice, invoiceId := ⟨2⟩, zen := d0Engine }]

def otherInvoice : InvoiceIngestionRequest :=
  { validInvoice with irn := String.ofList (List.replicate 64 'b') }

/-- Two invoices of one vendor. -/
def ingestBoth : List IngestCall :=
  [{ request := validInvoice, invoiceId := ⟨1⟩, zen := d0Engine },
    { request := otherInvoice, invoiceId := ⟨2⟩, zen := d0Engine }]

theorem storedOnce_iff_once :
    StoredOnce id (VDPWedgeService.after { zen := d0Engine } ingestBoth) ∧
      EligibleOnce id (VDPWedgeService.results { zen := d0Engine } ingestBoth) :=
  (storedOnce_iff id d0Engine ingestBoth (by decide)).mpr (by decide)

def attested (invoiceId : Uuid) : InvoiceIngestionResponse where
  invoiceId
  irn := validInvoice.irn
  irnValid := true
  imsStatus := "accepted"
  kind1Eligible := true
  kind1Outcome := some "pass"
  kind1Reason := some "kind1_all_conditions_met"

/-- Both are stored and both are eligible. -/
theorem ingestTwice_attested : (ingestTwice.map (·.invoiceId)).Nodup ∧
    ¬ StoredOnce id (VDPWedgeService.after { zen := d0Engine } ingestTwice) ∧
    ¬ EligibleOnce id (VDPWedgeService.results { zen := d0Engine } ingestTwice) := by
  have hresults : VDPWedgeService.results { zen := d0Engine } ingestTwice =
      [.ok (attested ⟨1⟩), .ok (attested ⟨2⟩)] := rfl
  have hids : (⟨1⟩ : Uuid) ≠ ⟨2⟩ := by decide
  refine ⟨by decide, fun h => ?_, fun h => ?_⟩
  · exact hids (h (ingestTwice[0].entry) (.head _) (ingestTwice[1].entry) (.tail _ (.head _)) rfl)
  · rw [hresults] at h
    exact hids (h (attested ⟨1⟩) (attested ⟨2⟩) (.head _) (.tail _ (.head _)) rfl rfl rfl)

end OcenPlatform.Vdp
