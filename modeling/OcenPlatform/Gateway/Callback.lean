import OcenPlatform.Gateway.Service
import OcenPlatform.Origination.Workflow

/-! The gateway's dealings with workflows: `apply_for_loan` starts one, the ops
commands and the lenders' `createLoanResponse` callback signal one. Each derives
the workflow id from the application id by itself. -/

namespace OcenPlatform.Gateway

open Origination (LoanOriginationInput Signal)

/-! ## Calls to Temporal -/

/-- How a call to Temporal ends: no connection, so that no call is made, or a call
that is refused or accepted. -/
inductive TemporalOutcome where
  | unreachable
  | refused
  | accepted
  deriving DecidableEq, Repr

/-- `temporal.start_workflow(workflow, input, id=id, task_queue=task_queue)`. -/
structure StartCall where
  workflow : String
  input : LoanOriginationInput
  id : Option String
  taskQueue : String

/-- `temporal.get_workflow_handle(workflow_id).signal(...)`. -/
structure SignalCall where
  workflowId : String
  signal : Signal

/-! ## Applying for a loan -/

/-- What `apply_for_loan` asks Temporal for. The GSTIN also stands for the data
principal. -/
def startCall (taskQueue : String) (request : LoanApplicationRequest)
    (response : LoanApplicationResponse) : StartCall where
  workflow := "LoanOriginationWorkflow"
  input := {
    loanApplicationId := response.applicationId.str
    dataPrincipalId := request.vendorGstin
    vendorGstin := request.vendorGstin }
  id := response.workflowId
  taskQueue := taskQueue

/-- `apply_for_loan`: the response does not depend on whether the start went well. -/
def applyForLoan (taskQueue : String) (s : BorrowerGatewayService)
    (request : LoanApplicationRequest) (env : Ambient) (temporal : TemporalOutcome) :
    Except String (LoanApplicationResponse × BorrowerGatewayService × Option StartCall) := do
  let (response, s') ← s.initiateApplication request env
  let call := if temporal = .unreachable then none else some (startCall taskQueue request response)
  return (response, s', call)

/-- What an application that goes well returns: the service's response, and the start, unless
Temporal cannot be reached. -/
theorem applyForLoan_ok {taskQueue : String} {s s' : BorrowerGatewayService}
    {request : LoanApplicationRequest} {env : Ambient} {temporal : TemporalOutcome}
    {response : LoanApplicationResponse} {call : Option StartCall}
    (h : applyForLoan taskQueue s request env temporal = .ok (response, s', call)) :
    s.initiateApplication request env = .ok (response, s') ∧
      call = if temporal = .unreachable then none else some (startCall taskQueue request response) := by
  obtain ⟨⟨response', service'⟩, hinitiate, hcall⟩ := exists_of_bind_ok h
  obtain ⟨rfl, hpair⟩ := Prod.mk.inj (Except.ok.inj hcall)
  obtain ⟨rfl, rfl⟩ := Prod.mk.inj hpair
  exact ⟨hinitiate, rfl⟩

/-! ## Ops commands -/

def opsHold (applicationId : Uuid) (reason : String) : SignalCall where
  workflowId := "loan-" ++ applicationId.str
  signal := .opsHoldRequested reason

def opsRelease (applicationId : Uuid) : SignalCall where
  workflowId := "loan-" ++ applicationId.str
  signal := .opsHoldReleased

/-! ## The lender's callback -/

structure MetaData where
  originatorOrgId : String
  originatorParticipantId : String
  traceId : String
  requestId : String
  version : String := "4.0.0alpha"
  timestamp : String := ""

structure ResponseStatus where
  status : String := "SUCCESS"
  responseDetail : String := ""

/-- `response.model_dump()`, under the field names. -/
def ResponseStatus.modelDump (r : ResponseStatus) : Dict :=
  [("status", .str r.status), ("response_detail", .str r.responseDetail)]

structure LoanApplication where
  loanApplicationId : String
  loanApplicationStatus : String := "CREATED"

structure CreateLoanApplicationResponse where
  metadata : MetaData
  response : ResponseStatus
  loanApplications : List LoanApplication

structure OcenAckResponse where
  traceId : String
  timestamp : String
  error : Option String := none

/-- The payload for one application. A pydantic model is true, so the offer is the
dump of the response status, whatever the status says. -/
def lenderResponse (response : CreateLoanApplicationResponse) (loanApp : LoanApplication) : Dict :=
  [("offer", .obj response.response.modelDump),
    ("loan_application_id", .str loanApp.loanApplicationId)]

def lenderSignal (response : CreateLoanApplicationResponse) (loanApp : LoanApplication) :
    SignalCall where
  workflowId := "loan-origination-" ++ loanApp.loanApplicationId
  signal := .lenderResponseReceived (lenderResponse response loanApp)

/-- The loop over the batch: a signal that fails is logged and the next one is
sent. `temporal i` is the outcome for the application at position `i`. -/
def lenderSignals (response : CreateLoanApplicationResponse) (temporal : Nat → TemporalOutcome) :
    List SignalCall :=
  response.loanApplications.zipIdx.filterMap fun (loanApp, i) =>
    if temporal i = .unreachable then none else some (lenderSignal response loanApp)

/-- `create_loan_response` behind its signature check: the lender gets an ACK in any
case. `now` is the clock's ISO text. -/
def createLoanResponse (response : CreateLoanApplicationResponse)
    (temporal : Nat → TemporalOutcome) (now : String) : OcenAckResponse × List SignalCall :=
  ({ traceId := response.metadata.traceId, timestamp := now }, lenderSignals response temporal)

/-! ## Runs of the gateway -/

inductive GatewayEvent where
  | apply (request : LoanApplicationRequest) (env : Ambient) (temporal : TemporalOutcome)
  | callback (response : CreateLoanApplicationResponse) (temporal : Nat → TemporalOutcome)

structure GatewayState where
  service : BorrowerGatewayService := {}
  started : List StartCall := []
  signalled : List SignalCall := []

def GatewayState.step (taskQueue : String) (g : GatewayState) : GatewayEvent → GatewayState
  | .apply request env temporal =>
    match applyForLoan taskQueue g.service request env temporal with
    | .error _ => g
    | .ok (_, service, call) =>
      { g with service, started := g.started ++ (if temporal = .accepted then call.toList else []) }
  | .callback response temporal =>
    { g with signalled := g.signalled ++ lenderSignals response temporal }

def GatewayState.run (taskQueue : String) (events : List GatewayEvent) : GatewayState :=
  events.foldl (step taskQueue) {}

end OcenPlatform.Gateway
