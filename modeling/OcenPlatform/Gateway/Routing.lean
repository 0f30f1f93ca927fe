import OcenPlatform.Gateway.Callback

/-! Where signals go. Ops commands address the workflow that `apply_for_loan`
started; the lenders' callback addresses another id. -/

namespace OcenPlatform.Gateway

namespace GatewayState

/-- The service names its workflows well and every started workflow runs under the
name of its application. -/
structure WellNamed (g : GatewayState) : Prop where
  service : g.service.Named
  started : ∀ start ∈ g.started, ∃ appId : Uuid,
    start.input.loanApplicationId = appId.str ∧ start.id = some (workflowId appId)

theorem wellNamed_init : WellNamed {} where
  service := BorrowerGatewayService.named_empty
  started := by
    intro start hstart
    cases hstart

/-- **Step lemma.** -/
theorem step_wellNamed {g : GatewayState} (taskQueue : String) (hg : g.WellNamed)
    (event : GatewayEvent) : (g.step taskQueue event).WellNamed := by
  cases event with
  | callback response temporal => exact ⟨hg.service, hg.started⟩
  | apply request env temporal =>
    simp only [step]
    split
    next => exact hg
    next response service call happly =>
      obtain ⟨hinitiate, rfl⟩ := applyForLoan_ok happly
      obtain ⟨hname, hservice⟩ := BorrowerGatewayService.initiateApplication_named hg.service
        hinitiate
      refine ⟨hservice, fun start hstart => ?_⟩
      rcases List.mem_append.mp hstart with hold | hnew
      · exact hg.started start hold
      · cases temporal with
        | accepted =>
          obtain rfl : start = startCall taskQueue request response := by simpa using hnew
          exact ⟨response.applicationId, rfl, hname⟩
        | refused => simp at hnew
        | unreachable => simp at hnew

/-- **Run lemma.** -/
theorem run_wellNamed (taskQueue : String) (events : List GatewayEvent) :
    (run taskQueue events).WellNamed := by
  have hfold : ∀ g : GatewayState, g.WellNamed → (events.foldl (step taskQueue) g).WellNamed := by
    induction events with
    | nil => exact fun g hg => hg
    | cons event events ih => exact fun g hg => ih _ (step_wellNamed taskQueue hg event)
  exact hfold {} wellNamed_init

end GatewayState

/-- No lender's signal goes to an id that an application's workflow can have: what
follows "loan-" there is a hexadecimal digit. -/
theorem lenderSignal_workflowId_ne (response : CreateLoanApplicationResponse)
    (loanApp : LoanApplication) (appId : Uuid) :
    (lenderSignal response loanApp).workflowId ≠ workflowId appId := by
  obtain ⟨c, rest, hstr, hc⟩ := appId.str_head
  intro heq
  have hchars : "loan-origination-".toList ++ loanApp.loanApplicationId.toList =
      "loan-".toList ++ appId.str.toList := by
    rw [← String.toList_append, ← String.toList_append]
    exact congrArg String.toList heq
  have hlender : "loan-origination-".toList = "loan-".toList ++ "origination-".toList := by decide
  rw [hlender, List.append_assoc, List.append_cancel_left_eq, hstr] at hchars
  have ho : 'o' = c := (List.cons.inj hchars).1
  rw [← ho] at hc
  exact absurd hc (by decide)

theorem mem_lenderSignals {response : CreateLoanApplicationResponse}
    {temporal : Nat → TemporalOutcome} {call : SignalCall}
    (h : call ∈ lenderSignals response temporal) :
    ∃ loanApp ∈ response.loanApplications, call = lenderSignal response loanApp := by
  obtain ⟨⟨loanApp, i⟩, hmem, hcall⟩ := List.mem_filterMap.mp h
  refine ⟨loanApp, List.fst_mem_of_mem_zipIdx hmem, ?_⟩
  by_cases hreach : temporal i = .unreachable
  · simp [hreach] at hcall
  · simpa [hreach] using hcall.symm

/-- Ops commands for an application address the workflow that was started for it. -/
theorem ops_address_started (taskQueue : String) (events : List GatewayEvent) {start : StartCall}
    (hstart : start ∈ (GatewayState.run taskQueue events).started) :
    ∃ appId : Uuid, start.input.loanApplicationId = appId.str ∧
      (∀ reason, start.id = some (opsHold appId reason).workflowId) ∧
      start.id = some (opsRelease appId).workflowId := by
  obtain ⟨appId, hinput, hid⟩ := (GatewayState.run_wellNamed taskQueue events).started start hstart
  exact ⟨appId, hinput, fun _ => hid, hid⟩

/-- A lender response for the application has been sent to its workflow. -/
def LenderResponseRouted (start : StartCall) (calls : List SignalCall) : Prop :=
  ∃ call ∈ calls, start.id = some call.workflowId

/-- No callback that lists an application reaches the workflow started for it, in
any run of the gateway. -/
theorem lenderResponse_never_routed (taskQueue : String) (events : List GatewayEvent)
    {start : StartCall} {response : CreateLoanApplicationResponse}
    {temporal : Nat → TemporalOutcome}
    (hstart : start ∈ (GatewayState.run taskQueue events).started)
    (_hcallback : .callback response temporal ∈ events)
    (_hlisted : start.input.loanApplicationId ∈
      response.loanApplications.map LoanApplication.loanApplicationId) :
    ¬ LenderResponseRouted start (lenderSignals response temporal) := by
  rintro ⟨call, hcall, hid⟩
  obtain ⟨appId, -, hstarted⟩ := (GatewayState.run_wellNamed taskQueue events).started start hstart
  obtain ⟨loanApp, -, rfl⟩ := mem_lenderSignals hcall
  rw [hstarted] at hid
  exact lenderSignal_workflowId_ne response loanApp appId (Option.some.inj hid).symm

/-! One application and the lender's answer to it. -/

def sampleId : Uuid := ⟨0x0f8fad5bd9cb469fa16570867728950e⟩

def sampleRequest : LoanApplicationRequest where
  invoiceId := ⟨0x7c9e6679742540de944be07fc1f90ae7⟩
  vendorGstin := "29ABCDE1234F1Z5"
  anchorGstin := "27AABCU9603R1ZM"
  amountRequested := 100000

def sampleResponse : CreateLoanApplicationResponse where
  metadata := {
    originatorOrgId := "lender-001"
    originatorParticipantId := "lender-001"
    traceId := "trace-1"
    requestId := "request-1" }
  response := {}
  loanApplications := [{ loanApplicationId := sampleId.str }]

def sampleEvents : List GatewayEvent :=
  [.apply sampleRequest { uuid4 := sampleId } .accepted,
    .callback sampleResponse fun _ => .accepted]

def sampleStart : StartCall where
  workflow := "LoanOriginationWorkflow"
  input := {
    loanApplicationId := sampleId.str
    dataPrincipalId := "29ABCDE1234F1Z5"
    vendorGstin := "29ABCDE1234F1Z5" }
  id := some (workflowId sampleId)
  taskQueue := "loan-origination"

theorem sampleStart_mem :
    sampleStart ∈ (GatewayState.run "loan-origination" sampleEvents).started :=
  .head _

theorem lenderResponse_never_routed_sample :
    ¬ LenderResponseRouted sampleStart (lenderSignals sampleResponse fun _ => .accepted) :=
  lenderResponse_never_routed "loan-origination" sampleEvents sampleStart_mem (.tail _ (.head _))
    (.head _)

/-- The workflow runs as "loan-0f8f…" and is signalled as "loan-origination-0f8f…". -/
theorem sampleResponse_misrouted :
    sampleStart ∈ (GatewayState.run "loan-origination" sampleEvents).started ∧
      sampleStart.id = some "loan-0f8fad5b-d9cb-469f-a165-70867728950e" ∧
      (lenderSignals sampleResponse fun _ => .accepted).map SignalCall.workflowId =
        ["loan-origination-0f8fad5b-d9cb-469f-a165-70867728950e"] ∧
      ¬ LenderResponseRouted sampleStart (lenderSignals sampleResponse fun _ => .accepted) := by
  refine ⟨sampleStart_mem, by decide, by decide, ?_⟩
  rintro ⟨call, hcall, hid⟩
  obtain rfl : call = lenderSignal sampleResponse { loanApplicationId := sampleId.str } := by
    simpa [lenderSignals, sampleResponse] using hcall
  exact absurd hid (by decide)

end OcenPlatform.Gateway
