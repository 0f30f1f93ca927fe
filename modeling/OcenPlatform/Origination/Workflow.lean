import OcenPlatform.Json
import OcenPlatform.Durable.Program

/-! The loan origination saga. Each section of the run method is a definition of
its own, under the name of its banner, and `run` puts them in order. -/

namespace OcenPlatform.Origination

open Durable
open Durable.Program (execute waitCondition self ofExcept)

/-! ## Input and output -/

structure LoanOriginationInput where
  loanApplicationId : String
  dataPrincipalId : String := ""
  vendorGstin : String := ""

/-- The structured input or the legacy bare application id. -/
inductive WorkflowInput where
  | bareString (loanApplicationId : String)
  | structured (input : LoanOriginationInput)

/-- A bare string stands for an application without principal and GSTIN. -/
def WorkflowInput.resolve : WorkflowInput → LoanOriginationInput
  | .bareString loanApplicationId =>
    { loanApplicationId, dataPrincipalId := "", vendorGstin := "" }
  | .structured input => input

/-- The gate that a rejection names. -/
inductive Gate where
  | dpdpConsent
  | d0Kind1Gate
  | aaFetch
  | d1DataSufficiency
  | d3LenderPrescreen
  | opsHold
  | d4LenderUnderwriting
  deriving DecidableEq, Repr

def Gate.name : Gate → String
  | .dpdpConsent => "dpdp_consent"
  | .d0Kind1Gate => "d0_kind1_gate"
  | .aaFetch => "aa_fetch"
  | .d1DataSufficiency => "d1_data_sufficiency"
  | .d3LenderPrescreen => "d3_lender_prescreen"
  | .opsHold => "ops_hold"
  | .d4LenderUnderwriting => "d4_lender_underwriting"

inductive RunResult where
  | rejected (gate : Gate) (reason : Json)
  | offerReceived (offer matchedLenders : Json)

/-- The dict that the run method returns. -/
def RunResult.toDict : RunResult → Dict
  | .rejected gate reason =>
    [("status", .str "rejected"), ("gate", .str gate.name), ("reason", reason)]
  | .offerReceived offer matchedLenders =>
    [("status", .str "offer_received"), ("offer", offer), ("matched_lenders", matchedLenders)]

/-! ## Activities and their inputs -/

structure EvaluateDecisionInput where
  loanApplicationId : String
  gate : String
  rulesetName : String
  context : Option Dict := none

structure CheckDPDPConsentInput where
  loanApplicationId : String
  dataPrincipalId : String
  purposes : List String

/-- The purposes that the consent gate asks for. -/
def requiredPurposes : List String := ["loan_origination", "kind1_attestation"]

structure FetchAADataInput where
  loanApplicationId : String
  vendorGstin : String := ""
  dataPrincipalId : String := ""

structure SubmitToLenderInput where
  loanApplicationId : String
  lenderIds : Json

structure SubmitOcenLoanRequestInput where
  loanApplicationId : String
  borrowerGstin : String := ""
  borrowerName : String := ""

inductive Activity where
  | checkDpdpConsent (input : CheckDPDPConsentInput)
  | evaluateDecision (input : EvaluateDecisionInput)
  | fetchAaData (input : FetchAADataInput)
  | submitToLender (input : SubmitToLenderInput)
  | submitOcenLoanRequest (input : SubmitOcenLoanRequestInput)

/-- The retry policy an activity is scheduled with. -/
def Activity.retryPolicy : Activity → RetryPolicy
  | .fetchAaData _ => { maximumAttempts := 2 }
  | _ =>
    { maximumAttempts := 3
      nonRetryableErrorTypes := ["DecisionGateFailError", "ValidationError"] }

/-! ## Attributes and signals -/

structure LoanOriginationWorkflow where
  lenderResponse : Option Dict := none
  opsHold : Bool := false
  opsHoldReason : String := ""

inductive Signal where
  | lenderResponseReceived (response : Dict)
  | opsHoldRequested (reason : String)
  | opsHoldReleased

def LoanOriginationWorkflow.handle (w : LoanOriginationWorkflow) :
    Signal → LoanOriginationWorkflow
  | .lenderResponseReceived response => { w with lenderResponse := some response }
  | .opsHoldRequested reason => { w with opsHold := true, opsHoldReason := reason }
  | .opsHoldReleased => { w with opsHold := false, opsHoldReason := "" }

def handlers : Handlers LoanOriginationWorkflow Signal where
  init := {}
  handle := LoanOriginationWorkflow.handle

/-! ## The run method -/

abbrev Workflow (α : Type) := Program LoanOriginationWorkflow Activity Json RunResult α

/-- DPDP consent gate (hard block). -/
def dpdpConsentGate (loanApplicationId dataPrincipalId : String) : Workflow Unit := do
  if dataPrincipalId ≠ "" then
    let consentResult ← execute (.checkDpdpConsent
      { loanApplicationId, dataPrincipalId, purposes := requiredPurposes })
    let allowed ← ofExcept (consentResult.subscript "allowed")
    if !allowed.truthy then
      let reason ← ofExcept (consentResult.get "reason" (.str "consent_not_granted"))
      .exit (.rejected .dpdpConsent reason)

/-- A gate that evaluates a ruleset, without a context, and rejects on `fail`. -/
def decisionGate (loanApplicationId gate rulesetName : String) (rejection : Gate)
    (defaultReason : String) : Workflow Unit := do
  let result ← execute (.evaluateDecision { loanApplicationId, gate, rulesetName })
  let outcome ← ofExcept (result.subscript "outcome")
  if outcome.isStr "fail" then
    let reason ← ofExcept (result.get "reason" (.str defaultReason))
    .exit (.rejected rejection reason)

/-- D0: Kind 1 gate. -/
def d0Kind1Gate (loanApplicationId : String) : Workflow Unit :=
  decisionGate loanApplicationId "d0_kind1_gate" "d0-kind1-gate" .d0Kind1Gate
    "kind1_conditions_not_met"

/-- AA consent and data fetch. -/
def aaDataFetch (loanApplicationId vendorGstin dataPrincipalId : String) : Workflow Unit := do
  let aaResult ← execute (.fetchAaData { loanApplicationId, vendorGstin, dataPrincipalId })
  let dataReceived ← ofExcept (aaResult.subscript "data_received")
  if !dataReceived.truthy then
    .exit (.rejected .aaFetch (.str "aa_consent_denied_or_timeout"))

/-- D1: data sufficiency gate. -/
def d1DataSufficiency (loanApplicationId : String) : Workflow Unit :=
  decisionGate loanApplicationId "d1_data_sufficiency" "d1-data-sufficiency" .d1DataSufficiency
    "insufficient_data"

/-- D2: derived attributes and flags. It does not gate. -/
def d2DerivedAttributes (loanApplicationId : String) : Workflow Unit := do
  let _ ← execute (.evaluateDecision
    { loanApplicationId, gate := "d2_derived_attributes", rulesetName := "d2-derived-flags" })

/-- D3: lender pre-screen. -/
def d3LenderPrescreen (loanApplicationId : String) : Workflow Json := do
  let d3Result ← execute (.evaluateDecision
    { loanApplicationId, gate := "d3_lender_prescreen", rulesetName := "d3-lender-prescreen" })
  let matchedLenders ← ofExcept (d3Result.get "matched_lender_ids" (.arr []))
  if !matchedLenders.truthy then
    .exit (.rejected .d3LenderPrescreen (.str "no_eligible_lenders"))
  return matchedLenders

/-- Ops hold check (between D3 and OCEN submit): the flag is read once. -/
def opsHoldCheck : Workflow Unit := do
  if (← self).opsHold then
    let released ← waitCondition (fun w => !w.opsHold) 72
    if !released then
      .exit (.rejected .opsHold (.str "ops_hold_expired"))

/-- Submit to lender(s) via OCEN, then via the OCEN network protocol. -/
def submitToLenders (loanApplicationId : String) (matchedLenders : Json) : Workflow Json := do
  let submitResult ← execute (.submitToLender { loanApplicationId, lenderIds := matchedLenders })
  let _ ← execute (.submitOcenLoanRequest { loanApplicationId })
  return submitResult

/-- The immediate offer of `submit_to_lender`, if there is one. -/
def immediateOffer (submitResult matchedLenders : Json) : Workflow Unit := do
  let offerReceived ← ofExcept (submitResult.get "offer_received" .null)
  if offerReceived.truthy then
    let offer ← ofExcept (submitResult.subscript "offer")
    .exit (.offerReceived offer matchedLenders)

/-- What the run makes of the lender's response. `None` and the empty dict are
both false, so either is read as a dict without keys. -/
def lenderDecision (lenderResponse : Option Dict) (matchedLenders : Json) : RunResult :=
  let response := lenderResponse.getD []
  if (PyDict.get response "offer" .null).truthy then
    .offerReceived (PyDict.get response "offer" .null) matchedLenders
  else
    .rejected .d4LenderUnderwriting (PyDict.get response "reason" (.str "lender_declined"))

/-- The response has an `offer` that Python takes for true. -/
def carriesOffer (response : Dict) : Bool := (PyDict.get response "offer" .null).truthy

theorem lenderDecision_offer {response : Dict} (h : carriesOffer response = true)
    (matchedLenders : Json) : lenderDecision (some response) matchedLenders =
      .offerReceived (PyDict.get response "offer" .null) matchedLenders :=
  if_pos h

theorem lenderDecision_decline {response : Dict} (h : carriesOffer response = false)
    (matchedLenders : Json) : lenderDecision (some response) matchedLenders =
      .rejected .d4LenderUnderwriting (PyDict.get response "reason" (.str "lender_declined")) :=
  if_neg (by simpa [carriesOffer] using h)

/-- Await lender decision (D4). -/
def awaitLenderDecision (matchedLenders : Json) : Workflow RunResult := do
  let responded ← waitCondition (fun w => w.lenderResponse.isSome) 24
  if !responded then
    .exit (.rejected .d4LenderUnderwriting (.str "lender_response_timeout"))
  return lenderDecision (← self).lenderResponse matchedLenders

/-- `LoanOriginationWorkflow.run`. -/
def runMethod (input : WorkflowInput) : Workflow RunResult := do
  let { loanApplicationId, dataPrincipalId, vendorGstin } := input.resolve
  dpdpConsentGate loanApplicationId dataPrincipalId
  d0Kind1Gate loanApplicationId
  aaDataFetch loanApplicationId vendorGstin dataPrincipalId
  d1DataSufficiency loanApplicationId
  d2DerivedAttributes loanApplicationId
  let matchedLenders ← d3LenderPrescreen loanApplicationId
  opsHoldCheck
  let submitResult ← submitToLenders loanApplicationId matchedLenders
  immediateOffer submitResult matchedLenders
  awaitLenderDecision matchedLenders

abbrev Run := Exec LoanOriginationWorkflow Activity Json Signal RunResult

/-- A run of the workflow: its input, the signals that are there before its
first activation, and everything that reaches it afterwards. -/
def runWorkflow (input : WorkflowInput) (early : List Signal) (events : List (Event Json Signal)) :
    Run :=
  Durable.run handlers (runMethod input) early events

end OcenPlatform.Origination
