import Mathlib.Data.List.Induction
import OcenPlatform.Gateway.Routing

/-! Applications without a workflow: `apply_for_loan` stores first, and a start that fails is only
logged. -/

namespace OcenPlatform.Gateway

namespace GatewayState

/-- The workflow of the application has been started. -/
def Started (g : GatewayState) (applicationId : Uuid) : Prop :=
  ∃ call ∈ g.started, call.workflow = "LoanOriginationWorkflow" ∧
    call.id = some (workflowId applicationId) ∧ call.input.loanApplicationId = applicationId.str

/-- Every application that is stored as `initiated` has been started. -/
def NoOrphans (g : GatewayState) : Prop :=
  ∀ p ∈ g.service.applications, Application.str p.2 "status" = .ok "initiated" → g.Started p.1

/-- A request that stands for no application yet has its start accepted, or draws the id of an
application that has been started. -/
def StartsNew (g : GatewayState) : GatewayEvent → Prop
  | .apply request env temporal =>
    g.service.existing? request = none → temporal = .accepted ∨ g.Started env.uuid4
  | .callback _ _ => True

theorem status_newApplication (request : LoanApplicationRequest) (env : Ambient) :
    Application.str (newApplication request env) "status" = .ok "initiated" := by
  simp [Application.str, newApplication]

section Step

variable {taskQueue : String} {g : GatewayState} {request : LoanApplicationRequest} {env : Ambient}
  {temporal : TemporalOutcome}

theorem run_snoc (events : List GatewayEvent) (event : GatewayEvent) :
    run taskQueue (events ++ [event]) = (run taskQueue events).step taskQueue event := by
  simp [run]

theorem started_mono (event : GatewayEvent) {call : StartCall} (h : call ∈ g.started) :
    call ∈ (g.step taskQueue event).started := by
  cases event with
  | callback response temporal => exact h
  | apply request env temporal =>
    simp only [step]
    split
    · exact h
    · exact List.mem_append_left _ h

theorem Started.step {applicationId : Uuid} (h : g.Started applicationId) (event : GatewayEvent) :
    (g.step taskQueue event).Started applicationId := by
  obtain ⟨call, hcall, hstarts⟩ := h
  exact ⟨call, started_mono event hcall, hstarts⟩

/-- A request that stands for an application stores nothing. -/
theorem step_existing (h : g.service.existing? request ≠ none) :
    (g.step taskQueue (.apply request env temporal)).service = g.service := by
  obtain ⟨existingId, hexisting⟩ := Option.ne_none_iff_exists'.mp h
  simp only [step, applyForLoan, BorrowerGatewayService.initiateApplication, hexisting]
  cases g.service.existingResponse existingId with
  | error e => rfl
  | ok response => rfl

/-- A new application is stored, whatever Temporal says. -/
theorem step_new (h : g.service.existing? request = none) :
    (g.step taskQueue (.apply request env temporal)).service.applications =
      PyDict.set g.service.applications env.uuid4 (newApplication request env) := by
  simp only [step, applyForLoan, BorrowerGatewayService.initiateApplication, h]
  rfl

/-- It has been started since, if its start is accepted, and only then. -/
theorem started_new_iff (h : g.service.existing? request = none) :
    (g.step taskQueue (.apply request env temporal)).Started env.uuid4 ↔
      temporal = .accepted ∨ g.Started env.uuid4 := by
  have hstarted : (g.step taskQueue (.apply request env temporal)).started =
      g.started ++ if temporal = .accepted then
        [startCall taskQueue request
          { applicationId := env.uuid4, invoiceId := request.invoiceId, status := "initiated",
            workflowId := some (workflowId env.uuid4),
            message := "Loan application initiated. D0 Kind 1 gate evaluation starting." }] else [] := by
    simp only [step, applyForLoan, BorrowerGatewayService.initiateApplication, h]
    cases temporal <;> rfl
  rw [Started, hstarted]
  constructor
  · rintro ⟨call, hcall, hstarts⟩
    rcases List.mem_append.mp hcall with hold | hnew
    · exact .inr ⟨call, hold, hstarts⟩
    · split at hnew
      · exact .inl ‹_›
      · cases hnew
  · rintro (rfl | ⟨call, hcall, hstarts⟩)
    · exact ⟨_, List.mem_append_right _ (.head _), rfl, rfl, rfl⟩
    · exact ⟨call, List.mem_append_left _ hcall, hstarts⟩

/-- **Step lemma.** -/
theorem allStarted_step {event : GatewayEvent} (hg : ∀ p ∈ g.service.applications, g.Started p.1)
    (hstarts : g.StartsNew event) :
    ∀ p ∈ (g.step taskQueue event).service.applications, (g.step taskQueue event).Started p.1 := by
  intro p hp
  cases event with
  | callback response temporal => exact (hg p hp).step _
  | apply request env temporal =>
    by_cases hnew : g.service.existing? request = none
    · rw [step_new hnew] at hp
      rcases PyDict.mem_set hp with rfl | hp
      · exact (started_new_iff hnew).mpr (hstarts hnew)
      · exact (hg p hp).step _
    · rw [step_existing hnew] at hp
      exact (hg p hp).step _

end Step

/-- **Run lemma.** -/
theorem allStarted_run {taskQueue : String} {events : List GatewayEvent}
    (h : ∀ before event, before ++ [event] <+: events → (run taskQueue before).StartsNew event) :
    ∀ p ∈ (run taskQueue events).service.applications, (run taskQueue events).Started p.1 := by
  induction events using List.reverseRecOn with
  | nil => exact nofun
  | append_singleton events event ih =>
    rw [run_snoc]
    refine allStarted_step (ih fun before event' hprefix => ?_) (h events event (List.prefix_refl _))
    exact h before event' (List.IsPrefix.trans hprefix (List.prefix_append _ _))

end GatewayState

open GatewayState

/-- **No application is orphaned in a run exactly if** every request that creates one has its start
accepted. -/
theorem noOrphans_iff_startsNew (taskQueue : String) (events : List GatewayEvent) :
    (∀ before, before <+: events → (run taskQueue before).NoOrphans) ↔
      ∀ before event, before ++ [event] <+: events → (run taskQueue before).StartsNew event := by
  constructor
  · intro hnoOrphans before event hprefix
    cases event with
    | callback response temporal => trivial
    | apply request env temporal =>
      intro hnew
      have hafter := hnoOrphans _ hprefix
      rw [run_snoc] at hafter
      have hstored : (env.uuid4, newApplication request env) ∈
          ((run taskQueue before).step taskQueue (.apply request env temporal)).service.applications := by
        have hfind : PyDict.find? (PyDict.set (run taskQueue before).service.applications env.uuid4
            (newApplication request env)) env.uuid4 = some (newApplication request env) :=
          PyDict.find?_set_self
        rw [step_new hnew]
        exact PyDict.mem_of_find? hfind
      unfold NoOrphans at hafter
      have hinitiated := hafter _ hstored
      exact (started_new_iff hnew).mp (hinitiated (status_newApplication request env))
  · intro hstarts before hbefore p hp _
    exact allStarted_run (fun before' event hprefix => hstarts before' event (List.IsPrefix.trans hprefix hbefore))
      p hp

/-- A request while Temporal is unreachable. -/
def unreachableRun : List GatewayEvent := [.apply sampleRequest { uuid4 := sampleId } .unreachable]

/-- The request is answered, and its application is stored as `initiated` without a workflow. -/
theorem unreachableRun_orphans :
    (sampleId, newApplication sampleRequest { uuid4 := sampleId }) ∈
      (run "loan-origination" unreachableRun).service.applications ∧
    (run "loan-origination" unreachableRun).started = [] ∧
    ¬ (run "loan-origination" unreachableRun).NoOrphans := by
  have hstored : (sampleId, newApplication sampleRequest { uuid4 := sampleId }) ∈
      (run "loan-origination" unreachableRun).service.applications := .head _
  have hstarted : (run "loan-origination" unreachableRun).started = [] := rfl
  refine ⟨hstored, hstarted, fun h => ?_⟩
  unfold NoOrphans at h
  have hinitiated := h _ hstored
  obtain ⟨call, hcall, -⟩ := hinitiated (status_newApplication _ _)
  rw [hstarted] at hcall
  cases hcall

end OcenPlatform.Gateway
