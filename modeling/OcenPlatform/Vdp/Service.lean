import OcenPlatform.Rules.Engine
import OcenPlatform.Uuid

/-! `VDPWedgeService`: the ingestion of invoices and their Kind 1 eligibility. -/

namespace OcenPlatform.Vdp

open Rules

/-! ## Requests and responses -/

/-- A date is its ordinal. Pydantic also checks that the GSTINs have 15 characters and that the
amount is positive; nothing here depends on it. -/
structure InvoiceIngestionRequest where
  irn : String
  anchorGstin : String
  vendorGstin : String
  amount : Rat
  currency : String := "INR"
  issueDate : Int
  dueDate : Int
  imsStatus : String := "pending"
  repaymentRoutingActive : Bool := false

structure InvoiceIngestionResponse where
  invoiceId : Uuid
  irn : String
  irnValid : Bool
  imsStatus : String
  kind1Eligible : Bool
  kind1Outcome : Option String := none
  kind1Reason : Option String := none

/-- A stored invoice. -/
structure Invoice where
  id : Uuid
  irn : String
  irnValid : Bool
  anchorGstin : String
  vendorGstin : String
  amount : Rat
  currency : String
  issueDate : Int
  dueDate : Int
  imsStatus : String
  repaymentRoutingActive : Bool
  gstinValid : Bool

def isHexDigit (c : Char) : Bool := c ∈ "0123456789abcdefABCDEF".toList

/-- `IRN_PATTERN.match`: the pattern's `$` also matches before a newline at the end. -/
def irnPattern (irn : String) : Bool :=
  let cs := irn.toList
  (cs.take 64).all isHexDigit && (cs.length = 64 || cs.drop 64 = ['\n'])

/-! ## The service -/

structure VDPWedgeService where
  zen : ZenDecisionEngine
  invoices : PyDict Uuid Invoice := []

def kind1Context (irnValid : Bool) (imsStatus : String) (repaymentRoutingActive gstinValid : Bool) :
    Dict :=
  [("irn_valid", .bool irnValid), ("ims_status", .str imsStatus),
    ("repayment_routing_active", .bool repaymentRoutingActive), ("gstin_valid", .bool gstinValid)]

def Invoice.context (invoice : Invoice) : Dict :=
  kind1Context invoice.irnValid invoice.imsStatus invoice.repaymentRoutingActive invoice.gstinValid

/-- A field of a response that is a text or `None`. -/
def optionalText : Json → Except String (Option String)
  | .null => .ok none
  | .str s => .ok (some s)
  | _ => .error "ValidationError"

namespace VDPWedgeService

variable (s : VDPWedgeService)

/-- `_evaluate_kind1`. -/
def evaluateKind1 (invoice : Invoice) : Except String EvaluationResult :=
  s.zen.evaluate "d0-kind1-gate" invoice.context

def newInvoice (request : InvoiceIngestionRequest) (invoiceId : Uuid) : Invoice where
  id := invoiceId
  irn := request.irn
  irnValid := irnPattern request.irn
  anchorGstin := request.anchorGstin
  vendorGstin := request.vendorGstin
  amount := request.amount
  currency := request.currency
  issueDate := request.issueDate
  dueDate := request.dueDate
  imsStatus := request.imsStatus
  repaymentRoutingActive := request.repaymentRoutingActive
  gstinValid := request.vendorGstin.length = 15

/-- The outcome and the reason of the gate, and whether the invoice is eligible. -/
structure Kind1 where
  outcome : Json := .null
  reason : Json := .null
  eligible : Bool := false

/-- The condition under which `ingest_invoice` evaluates the gate. -/
def checksKind1 (request : InvoiceIngestionRequest) : Bool :=
  irnPattern request.irn && request.imsStatus ∈ ["accepted", "deemed_accepted"] &&
    request.repaymentRoutingActive

def kind1 (request : InvoiceIngestionRequest) (invoiceId : Uuid) : Except String Kind1 := do
  if checksKind1 request then
    let result ← s.evaluateKind1 (newInvoice request invoiceId)
    let outcome ← result.output.get "outcome" .null
    let reason ← result.output.get "reason" .null
    return { outcome, reason, eligible := outcome.isStr "pass" }
  return {}

def response (request : InvoiceIngestionRequest) (invoiceId : Uuid) :
    Except String InvoiceIngestionResponse := do
  let kind1 ← s.kind1 request invoiceId
  let kind1Outcome ← optionalText kind1.outcome
  let kind1Reason ← optionalText kind1.reason
  return {
    invoiceId
    irn := request.irn
    irnValid := irnPattern request.irn
    imsStatus := request.imsStatus
    kind1Eligible := kind1.eligible
    kind1Outcome
    kind1Reason }

/-- `ingest_invoice`, with the UUID that it draws. The invoice is stored before the evaluation,
which may raise. -/
def ingestInvoice (request : InvoiceIngestionRequest) (invoiceId : Uuid) :
    Except String InvoiceIngestionResponse × VDPWedgeService :=
  (s.response request invoiceId,
    { s with invoices := PyDict.set s.invoices invoiceId (newInvoice request invoiceId) })

variable {s}

/-- What a response is made of. -/
theorem response_cases {request : InvoiceIngestionRequest} {invoiceId : Uuid}
    {response : InvoiceIngestionResponse} (h : s.response request invoiceId = .ok response) :
    ∃ kind1 kind1Outcome kind1Reason, s.kind1 request invoiceId = .ok kind1 ∧
      optionalText kind1.outcome = .ok kind1Outcome ∧ optionalText kind1.reason = .ok kind1Reason ∧
      response = {
        invoiceId
        irn := request.irn
        irnValid := irnPattern request.irn
        imsStatus := request.imsStatus
        kind1Eligible := kind1.eligible
        kind1Outcome
        kind1Reason } := by
  obtain ⟨kind1, hkind1, h⟩ := exists_of_bind_ok h
  obtain ⟨kind1Outcome, houtcome, h⟩ := exists_of_bind_ok h
  obtain ⟨kind1Reason, hreason, h⟩ := exists_of_bind_ok h
  exact ⟨kind1, kind1Outcome, kind1Reason, hkind1, houtcome, hreason, (Except.ok.inj h).symm⟩

theorem find?_ingestInvoice (s : VDPWedgeService) (request : InvoiceIngestionRequest)
    (invoiceId : Uuid) : PyDict.find? (s.ingestInvoice request invoiceId).2.invoices invoiceId =
      some (newInvoice request invoiceId) := PyDict.find?_set_self

end VDPWedgeService

end OcenPlatform.Vdp
