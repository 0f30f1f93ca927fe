import OcenPlatform.Durable.Namespace
import OcenPlatform.Gateway.Routing

/-! How often an application is started. `apply_for_loan` asks Temporal for a run on
every request, also when the idempotency key stands for an application already. -/

namespace OcenPlatform.Gateway

open Durable.Namespace (Op NoLateStart started)

/-- A request is answered at once; its start call is on its way until Temporal gets it
or it is lost. -/
inductive ApplyEvent where
  | post (request : LoanApplicationRequest) (env : Ambient)
  | delivered (i : Nat)
  | lost (i : Nat)
  | closed (id : String)

structure ApplyState where
  service : BorrowerGatewayService := {}
  calls : List (LoanApplicationRequest × StartCall) := []
  inFlight : List StartCall := []
  temporal : List (Op (Option String)) := []

namespace ApplyState

def step (taskQueue : String) (g : ApplyState) : ApplyEvent → ApplyState
  | .post request env =>
    match applyForLoan taskQueue g.service request env .accepted with
    | .error _ => g
    | .ok (_, service, call) =>
      { g with
        service
        calls := g.calls ++ call.toList.map (request, ·)
        inFlight := g.inFlight ++ call.toList }
  | .delivered i =>
    match g.inFlight[i]? with
    | some call =>
      { g with
        inFlight := g.inFlight.eraseIdx i
        temporal := g.temporal ++ [.start call.id] }
    | none => g
  | .lost i => { g with inFlight := g.inFlight.eraseIdx i }
  | .closed id => { g with temporal := g.temporal ++ [.close (some id)] }

def run (taskQueue : String) (events : List ApplyEvent) : ApplyState :=
  events.foldl (step taskQueue) {}

/-- The workflow of the application that a key stands for. -/
def workflowOf (g : ApplyState) (key : String) : Option String :=
  (PyDict.find? g.service.idempotencyIndex key).map workflowId

/-- At most one run was started for the application. -/
def StartedOnce (g : ApplyState) (key : String) : Prop :=
  started (g.workflowOf key) g.temporal ≤ 1

/-- All start calls that were made for a key are for the application that it stands for. -/
structure Indexed (g : ApplyState) : Prop where
  service : g.service.Named
  calls : ∀ p ∈ g.calls, ∀ key, p.1.key? = some key → ∃ appId,
    PyDict.find? g.service.idempotencyIndex key = some appId ∧ p.2.id = some (workflowId appId)

theorem indexed_init : Indexed {} where
  service := BorrowerGatewayService.named_empty
  calls := by simp

/-- **Step lemma.** -/
theorem Indexed.step {g : ApplyState} (hg : g.Indexed) (taskQueue : String) (event : ApplyEvent) :
    (g.step taskQueue event).Indexed := by
  cases event with
  | post request env =>
    simp only [ApplyState.step]
    split
    next => exact hg
    next response service call happly =>
      obtain ⟨hinitiate, rfl⟩ := applyForLoan_ok happly
      obtain ⟨hname, hservice⟩ := BorrowerGatewayService.initiateApplication_named hg.service
        hinitiate
      refine ⟨hservice, fun p hp key hkey => ?_⟩
      rcases List.mem_append.mp hp with hold | hnew
      · obtain ⟨appId, hindex, hid⟩ := hg.calls p hold key hkey
        exact ⟨appId, BorrowerGatewayService.initiateApplication_keeps hinitiate hindex, hid⟩
      · obtain rfl : p = (request, startCall taskQueue request response) := by simpa using hnew
        exact ⟨_, BorrowerGatewayService.initiateApplication_indexed hinitiate hkey, hname⟩
  | delivered i =>
    simp only [ApplyState.step]
    split
    · exact ⟨hg.service, hg.calls⟩
    · exact hg
  | lost i => exact ⟨hg.service, hg.calls⟩
  | closed id => exact ⟨hg.service, hg.calls⟩

/-- **Run lemma.** -/
theorem run_indexed (taskQueue : String) (events : List ApplyEvent) :
    (run taskQueue events).Indexed := by
  unfold run
  exact List.foldlRecOn events _ indexed_init fun g hg event _ => hg.step taskQueue event

end ApplyState

/-- All requests with a key ask for the run of one application; more than one is started
exactly if one of the start calls gets to Temporal after a run has closed. -/
theorem startedOnce_iff_noLateStart (taskQueue : String) (events : List ApplyEvent) (key : String) :
    (∀ p ∈ (ApplyState.run taskQueue events).calls, p.1.key? = some key →
      p.2.id = (ApplyState.run taskQueue events).workflowOf key) ∧
    ((ApplyState.run taskQueue events).StartedOnce key ↔
      NoLateStart ((ApplyState.run taskQueue events).workflowOf key)
        (ApplyState.run taskQueue events).temporal) := by
  refine ⟨fun p hp hkey => ?_, Durable.Namespace.started_le_one_iff⟩
  obtain ⟨appId, hindex, hid⟩ := (ApplyState.run_indexed taskQueue events).calls p hp key hkey
  simp [hid, ApplyState.workflowOf, hindex]

/-- The same request, before and after the run that it has started. -/
def appliedAgain : List ApplyEvent :=
  let request := { sampleRequest with idempotencyKey := some "key-1" }
  [.post request { uuid4 := sampleId }, .delivered 0, .closed (workflowId sampleId),
    .post request { uuid4 := ⟨1⟩ }, .delivered 0]

theorem appliedAgain_startedTwice :
    (ApplyState.run "loan-origination" appliedAgain).service.applications.length = 1 ∧
      ¬ (ApplyState.run "loan-origination" appliedAgain).StartedOnce "key-1" := by
  unfold ApplyState.StartedOnce
  decide +kernel

end OcenPlatform.Gateway
