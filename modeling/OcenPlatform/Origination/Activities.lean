import OcenPlatform.Durable.Worker
import OcenPlatform.Origination.Workflow
import OcenPlatform.Rules.Engine
import OcenPlatform.Uuid

/-! The activities of the loan origination workflow. Each is a process whose calls
go to the integration clients; `origination` puts them together with the workflow. -/

namespace OcenPlatform.Origination

open Durable
open Durable.Proc (ofExcept)
open Rules

/-! ## Integration clients -/

structure ConsentCheckResult where
  allowed : Bool
  reason : String := ""

structure FinancialData where
  monthsAvailable : Int
  bankStatements : List Dict := []
  gstReturns : List Dict := []

/-- The `loan.decision_evaluated` event. -/
structure LoanDecisionEvaluated where
  loanApplicationId : String
  gate : String
  outcome : Json
  rulesetHash : String
  inputHash : String
  receiptId : Uuid

/-- The part of OCEN's `CreateLoanApplicationRequest` that differs from request to
request. -/
structure CreateLoanApplicationRequest where
  traceId : String
  requestId : String
  loanApplicationId : String
  borrowerPrimaryId : String
  borrowerName : String

/-- What an activity asks of the world outside: a client of the factory, a method of
a client, a random UUID, or the publication of an event. -/
inductive Call where
  | getConsentClient
  | getAaClient
  | getOcenClient
  | getOcenNetworkClient
  | checkConsent (dataPrincipalId : String) (purposes : List String)
  | linkAaConsent (dataPrincipalId aaConsentId loanApplicationId : String)
  | createConsent (vendorGstin purpose : String) (durationMonths : Nat)
  | checkConsentStatus (consentId : String)
  | fetchFinancialData (consentId : String)
  | submitApplication (applicationId : String) (lenderIds : Json) (payload : Dict)
  | checkOfferStatus (submissionId : String)
  | uuid4
  | submitLoanApplication (request : CreateLoanApplicationRequest)
  | publish (event : LoanDecisionEvaluated)

/-- The fields that the activities read of each answer: an id, a status, offers, or
the trace ids of the acknowledgements. -/
@[reducible] def Call.Reply : Call → Type
  | .getConsentClient | .getAaClient | .getOcenClient | .getOcenNetworkClient => Unit
  | .checkConsent _ _ => ConsentCheckResult
  | .linkAaConsent _ _ _ => Unit
  | .createConsent _ _ _ => String
  | .checkConsentStatus _ => String
  | .fetchFinancialData _ => FinancialData
  | .submitApplication _ _ _ => String
  | .checkOfferStatus _ => List Json
  | .uuid4 => Uuid
  | .submitLoanApplication _ => List String
  | .publish _ => Unit

/-- The calls of the Account Aggregator client. -/
def Call.reachesAa : Call → Bool
  | .createConsent _ _ _ | .checkConsentStatus _ | .fetchFinancialData _ => true
  | _ => false

/-! ## Activities -/

abbrev ActivityCode := Proc Call Call.Reply Json

abbrev await (c : Call) : Proc Call Call.Reply c.Reply := .ask c

/-- What an attempt finds on the worker process that it runs on: the rules engine
loaded there, and the hash functions, of which `hash` depends on the process. -/
structure WorkerProcess where
  zen : ZenDecisionEngine
  /-- `orjson.dumps` with sorted keys. -/
  dumps : Dict → Except String String
  /-- `hashlib.sha256(...).hexdigest()`. -/
  sha256 : String → String
  hash : String → Int

namespace Activities

def receiptId (input : EvaluateDecisionInput) : String :=
  "receipt-" ++ input.loanApplicationId ++ "-" ++ input.gate

/-- The result of a gate that has no ruleset or no context. -/
def noRulesetOrContext (input : EvaluateDecisionInput) : Json :=
  .obj [("outcome", .str "pass"), ("reason", .str "no_ruleset_or_context"),
    ("ruleset_hash", .str "none"), ("input_hash", .str "none"),
    ("receipt_id", .str (receiptId input)), ("matched_lender_ids", .arr [])]

/-- `evaluate_decision`. `None` and the empty context are both false. -/
def evaluateDecision (process : WorkerProcess) (input : EvaluateDecisionInput) :
    ActivityCode := do
  let context := input.context.getD []
  if !context.isEmpty && input.rulesetName ∈ process.zen.loadedRulesets then
    let result ← ofExcept (process.zen.evaluate input.rulesetName context)
    let contextBytes ← ofExcept (process.dumps context)
    let inputHash := ((process.sha256 contextBytes).take 16).toString
    -- The call stands for the whole `try` block, which may fail before it publishes. An
    -- output that is no dict fails there first, and again after it, for good.
    let outcome ← ofExcept (result.output.get "outcome" (.str "pass"))
    Proc.tryAsk (Call.publish
      { loanApplicationId := input.loanApplicationId
        gate := input.gate
        outcome
        rulesetHash := result.rulesetHash
        inputHash
        receiptId := ⟨BitVec.ofInt 128 (process.hash (receiptId input))⟩ })
    let reason ← ofExcept (result.output.get "reason" (.str "evaluated"))
    let matchedLenderIds ← ofExcept (result.output.get "matched_lender_ids" (.arr []))
    return .obj [("outcome", outcome), ("reason", reason),
      ("ruleset_hash", .str result.rulesetHash), ("input_hash", .str inputHash),
      ("receipt_id", .str (receiptId input)), ("matched_lender_ids", matchedLenderIds)]
  return noRulesetOrContext input

/-- `check_dpdp_consent`. -/
def checkDpdpConsent (input : CheckDPDPConsentInput) : ActivityCode := do
  await .getConsentClient
  let purposes := if input.purposes.isEmpty then requiredPurposes else input.purposes
  let result ← await (.checkConsent input.dataPrincipalId purposes)
  return .obj [("allowed", .bool result.allowed), ("reason", .str result.reason)]

def noDataReceived : Json :=
  .obj [("data_received", .bool false), ("months_available", .num 0), ("fips_responded", .arr [])]

/-- `fetch_aa_data`. -/
def fetchAaData (input : FetchAADataInput) : ActivityCode := do
  if input.vendorGstin = "" then
    return noDataReceived
  await .getAaClient
  let consentId ← await (.createConsent input.vendorGstin "loan_origination" 12)
  if input.dataPrincipalId ≠ "" then
    await .getConsentClient
    await (.linkAaConsent input.dataPrincipalId consentId input.loanApplicationId)
  let status ← await (.checkConsentStatus consentId)
  if status ≠ "approved" then
    return noDataReceived
  let data ← await (.fetchFinancialData consentId)
  return .obj [("data_received", .bool true), ("months_available", .num data.monthsAvailable),
    ("fips_responded", .arr (data.bankStatements.map fun s =>
      PyDict.get s "bank_name" (.str "unknown"))),
    ("gst_returns_count", .num data.gstReturns.length), ("aa_consent_id", .str consentId)]

/-- `len(lender_ids)`, which only a sized value has. -/
def len : Json → Except String Nat
  | .str s => .ok s.length
  | .arr items => .ok items.length
  | .obj fields => .ok fields.length
  | .null | .bool _ | .num _ => .error "TypeError"

/-- `submit_to_lender`. -/
def submitToLender (input : SubmitToLenderInput) : ActivityCode := do
  let lenderIds := if input.lenderIds.truthy then input.lenderIds else .arr []
  let _ ← ofExcept (len lenderIds)
  await .getOcenClient
  let submissionId ← await (.submitApplication input.loanApplicationId lenderIds
    [("application_id", .str input.loanApplicationId)])
  let offers ← await (.checkOfferStatus submissionId)
  match offers with
  | offer :: _ => return .obj [("offer_received", .bool true), ("offer", offer),
      ("submission_id", .str submissionId)]
  | [] => return .obj [("offer_received", .bool false), ("offer", .null),
      ("submission_id", .str submissionId)]

/-- `submit_ocen_loan_request`, with `build_metadata`'s new ids. -/
def submitOcenLoanRequest (input : SubmitOcenLoanRequestInput) : ActivityCode := do
  await .getOcenNetworkClient
  let traceId ← await .uuid4
  let requestId ← await .uuid4
  let acks ← await (.submitLoanApplication
    { traceId := traceId.str
      requestId := requestId.str
      loanApplicationId := input.loanApplicationId
      borrowerPrimaryId := if input.borrowerGstin ≠ "" then input.borrowerGstin else "UNKNOWN"
      borrowerName := input.borrowerName })
  return .obj [("submitted", .bool true), ("ack_count", .num acks.length),
    ("trace_ids", .arr (acks.map .str))]

end Activities

/-- The activity's function, run on a worker process. -/
def Activity.code (process : WorkerProcess) : Activity → ActivityCode
  | .checkDpdpConsent input => Activities.checkDpdpConsent input
  | .evaluateDecision input => Activities.evaluateDecision process input
  | .fetchAaData input => Activities.fetchAaData input
  | .submitToLender input => Activities.submitToLender input
  | .submitOcenLoanRequest input => Activities.submitOcenLoanRequest input

/-! ## The deployment -/

/-- Whether the ledger allows a principal's data to be used for these purposes. -/
abbrev ConsentLedger := String → List String → Bool

/-- Any call can fail or answer anything, but a consent check that succeeds says
what the ledger says at that moment. -/
def answers (ledger : ConsentLedger) : (c : Call) → Except String c.Reply → Bool
  | .checkConsent dataPrincipalId purposes, .ok result =>
    result.allowed == ledger dataPrincipalId purposes
  | _, _ => true

/-- The workflow with its activities, their retry policies and the consent ledger. -/
def origination (input : WorkflowInput) :
    Deployment LoanOriginationWorkflow Activity Json Signal RunResult WorkerProcess
      ConsentLedger Call Call.Reply where
  handlers := handlers
  program := runMethod input
  code := Activity.code
  retryPolicy := Activity.retryPolicy
  answers := answers

/-- A run of the workflow together with the workers that execute its activities and
the ledger that they ask. -/
abbrev OriginationWorld := World LoanOriginationWorkflow Activity Json Signal RunResult
  WorkerProcess ConsentLedger Call Call.Reply

abbrev OriginationHappening := Happening Signal WorkerProcess ConsentLedger Call Call.Reply

abbrev OriginationLog := Log WorkerProcess Activity Call Call.Reply Json ConsentLedger

def runOrigination (input : WorkflowInput) (early : List Signal) (ledger : ConsentLedger)
    (happenings : List OriginationHappening) : OriginationWorld :=
  World.run (origination input) early ledger happenings

theorem runOrigination_coherent (input : WorkflowInput) (early : List Signal)
    (ledger : ConsentLedger) (happenings : List OriginationHappening) :
    Coherent (origination input) early ledger (runOrigination input early ledger happenings) :=
  coherent_run (origination input) early ledger happenings

/-- The workflow inside is a run of its own. -/
theorem runOrigination_exec (input : WorkflowInput) (early : List Signal)
    (ledger : ConsentLedger) (happenings : List OriginationHappening) :
    ∃ events, (runOrigination input early ledger happenings).exec = runWorkflow input early events :=
  (runOrigination_coherent input early ledger happenings).reachable

/-! A worker and the answers of the sandbox, for the concrete runs of the modules
that build on this one. -/

/-- Its one ruleset is loaded and fails on every context. -/
def sampleWorker : WorkerProcess where
  zen :=
    { engines := [("d0-kind1-gate", "jdm")]
      hashes := [("d0-kind1-gate", "cafe")]
      engineVersion := "zen-engine-python"
      zen := fun _ _ => .ok (.dict [("result", .obj [("outcome", .str "fail")])]) }
  dumps _ := .ok "context"
  sha256 _ := "deadbeefdeadbeefdeadbeefdeadbeef"
  hash _ := 42

def sandbox : (c : Call) → Except String c.Reply
  | .getConsentClient | .getAaClient | .getOcenClient | .getOcenNetworkClient => .ok ()
  | .checkConsent _ _ => .ok { allowed := true, reason := "sandbox_auto_grant" }
  | .linkAaConsent _ _ _ => .ok ()
  | .createConsent _ _ _ => .ok "sandbox-consent-1"
  | .checkConsentStatus _ => .ok "approved"
  | .fetchFinancialData _ => .ok { monthsAvailable := 6 }
  | .submitApplication _ _ _ => .ok "sandbox-submission-1"
  | .checkOfferStatus _ => .ok []
  | .uuid4 => .ok ⟨0⟩
  | .submitLoanApplication _ => .ok []
  | .publish _ => .ok ()

/-- An attempt on the sample worker that makes `calls` calls and returns. -/
def attempt (calls : Nat) : List OriginationHappening :=
  .attemptStarted sampleWorker :: (List.replicate calls (.answered sandbox) ++ [.attemptLeft])

end OcenPlatform.Origination
