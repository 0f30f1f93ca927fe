import OcenPlatform.Origination.Activities
import OcenPlatform.Origination.Trace

/-! Decision gates with the `evaluate_decision` activity: what its result says about
the ruleset, and how far a run gets that gives its gates no context. -/

namespace OcenPlatform.Origination

open Durable
open Durable.Proc (returns_bind returns_ofExcept returns_pure)
open Rules

/-- There is a context, and the worker has loaded the ruleset. -/
def Evaluable (process : WorkerProcess) (input : EvaluateDecisionInput) : Prop :=
  ∃ context, input.context = some context ∧ context ≠ [] ∧
    input.rulesetName ∈ process.zen.loadedRulesets

/-- The engine has evaluated the ruleset on the input's context, with this output. -/
def Evaluated (process : WorkerProcess) (input : EvaluateDecisionInput) (output : Dict) : Prop :=
  ∃ context result, input.context = some context ∧ context ≠ [] ∧
    process.zen.evaluate input.rulesetName context = .ok result ∧ result.output = .obj output

/-- A gate that cannot be evaluated passes and says so. Any other result comes from
an evaluation, and an outcome that the output states is the outcome of the gate. -/
structure GateResult (process : WorkerProcess) (input : EvaluateDecisionInput) (r : Json) :
    Prop where
  unevaluated : ¬ Evaluable process input → r = Activities.noRulesetOrContext input
  evaluated : Evaluable process input → ∃ output, Evaluated process input output ∧
    ∀ outcome, PyDict.find? output "outcome" = some outcome →
      r.subscript "outcome" = .ok outcome

/-- The outcome is `fail`, or the engine has evaluated the ruleset to `pass` or `flag`. -/
def FailsClosed (process : WorkerProcess) (input : EvaluateDecisionInput) (r : Json) : Prop :=
  r.subscript "outcome" = .ok (.str "fail") ∨ ∃ output, Evaluated process input output ∧
    (PyDict.find? output "outcome" = some (.str "pass") ∨
      PyDict.find? output "outcome" = some (.str "flag"))

/-- The run submits nothing, and D3 rejects it once it has completed. -/
structure StopsAtD3 (x : Run) : Prop where
  unsubmitted : ∀ a ∈ x.history.scheduled, a.stage ∉ submissions
  rejected : ∀ i r, (.evaluateDecision i, r) ∈ x.history.results →
    i.gate = "d3_lender_prescreen" → ReturnsRejected x .d3LenderPrescreen

/-! ## The activity -/

section Activity

variable {process : WorkerProcess} {input : EvaluateDecisionInput} {r : Json}

theorem evaluable_iff : Evaluable process input ↔
    (!(input.context.getD []).isEmpty && input.rulesetName ∈ process.zen.loadedRulesets) = true := by
  unfold Evaluable
  cases input.context with
  | none => simp
  | some context => simp

theorem evaluateDecision_unevaluated (hno : ¬ Evaluable process input) :
    Activities.evaluateDecision process input = pure (Activities.noRulesetOrContext input) := by
  rw [evaluable_iff] at hno
  unfold Activities.evaluateDecision
  simp only [if_neg hno]

theorem evaluateDecision_evaluated (heval : Evaluable process input)
    (hr : (Activities.evaluateDecision process input).Returns r) :
    ∃ output, Evaluated process input output ∧ ∀ outcome,
      PyDict.find? output "outcome" = some outcome → r.subscript "outcome" = .ok outcome := by
  have hif := evaluable_iff.mp heval
  obtain ⟨context, hcontext, hne, -⟩ := heval
  unfold Activities.evaluateDecision at hr
  simp only [if_pos hif, returns_bind, returns_ofExcept, returns_pure] at hr
  obtain ⟨result, hresult, _, -, outcome, houtcome, _, -, _, -, _, -, rfl⟩ := hr
  rw [hcontext] at hresult
  cases houtput : result.output with
  | obj output =>
    refine ⟨output, ⟨context, result, hcontext, hne, hresult, houtput⟩, fun stated hstated => ?_⟩
    have hget : PyDict.get output "outcome" (.str "pass") = outcome := by
      simpa [houtput, Json.get] using houtcome
    have hsame : stated = outcome := by simpa [PyDict.get, hstated] using hget
    simp [Json.subscript, hsame]
  | null => simp [houtput, Json.get] at houtcome
  | bool b => simp [houtput, Json.get] at houtcome
  | num q => simp [houtput, Json.get] at houtcome
  | str s => simp [houtput, Json.get] at houtcome
  | arr items => simp [houtput, Json.get] at houtcome

/-- Every result of the activity says how it was reached. -/
theorem evaluateDecision_gateResult
    (hr : (Activities.evaluateDecision process input).Returns r) : GateResult process input r where
  unevaluated := by
    intro hno
    rw [evaluateDecision_unevaluated hno] at hr
    exact returns_pure.mp hr
  evaluated heval := evaluateDecision_evaluated heval hr

/-- Without a context nothing is evaluated, on any worker. -/
theorem not_evaluable_of_no_context (h : input.context = none) : ¬ Evaluable process input := by
  rintro ⟨context, hcontext, -⟩
  rw [h] at hcontext
  cases hcontext

end Activity

/-! ## Runs -/

section Runs

variable {input : WorkflowInput} {early : List Signal} {ledger : ConsentLedger}
  {happenings : List OriginationHappening}

/-- The workflow gives its gates no context, so they all get the same result. -/
theorem runOrigination_unevaluated {i : EvaluateDecisionInput} {r : Json}
    (hmem : (.evaluateDecision i, r) ∈
      (runOrigination input early ledger happenings).exec.history.results) :
    r = Activities.noRulesetOrContext i := by
  obtain ⟨process, hreturns⟩ :=
    (runOrigination_coherent input early ledger happenings).returned hmem
  obtain ⟨events, hexec⟩ := runOrigination_exec input early ledger happenings
  rw [hexec] at hmem
  have hsched := run_closed _ _ _ _ _ _ hmem
  obtain ⟨before, after, -, hpoint⟩ := (runWorkflow_points input early events).of_mem hsched
  obtain ⟨-, hcontext⟩ := hpoint.given
  exact (evaluateDecision_gateResult hreturns).unevaluated (not_evaluable_of_no_context hcontext)

/-- So D3 matches no lender. -/
theorem verdict_noRulesetOrContext {i j : EvaluateDecisionInput}
    (h : i.gate = "d3_lender_prescreen") :
    verdict (.evaluateDecision i) (Activities.noRulesetOrContext j) =
      .ok (some .d3LenderPrescreen) := by
  simp [verdict, h, gateOn, Activities.noRulesetOrContext, Json.get, PyDict.get, Json.truthy]

theorem runOrigination_stopsAtD3 (input : WorkflowInput) (early : List Signal)
    (ledger : ConsentLedger) (happenings : List OriginationHappening) :
    StopsAtD3 (runOrigination input early ledger happenings).exec := by
  obtain ⟨events, hexec⟩ := runOrigination_exec input early ledger happenings
  have hgates : ∀ i r, (.evaluateDecision i, r) ∈ (runWorkflow input early events).history.results →
      r = Activities.noRulesetOrContext i := by
    intro i r hmem
    rw [← hexec] at hmem
    exact runOrigination_unevaluated hmem
  have hpoints := runWorkflow_points input early events
  rw [hexec]
  -- The submission to the matched lenders presupposes that D3 has passed.
  have hlenders : ∀ i, .submitToLender i ∉ (runWorkflow input early events).history.scheduled := by
    intro i hsched
    obtain ⟨before, after, hsplit, hpoint⟩ := hpoints.of_mem hsched
    obtain ⟨todo, hpassed⟩ := hpoint.passed
    obtain ⟨-, -, d3, r, hmem, hd3, -⟩ := hpoint.given
    obtain rfl := hgates d3 r (by rw [hsplit]; simp [hmem])
    have hpass : verdict _ _ = .ok none := hpassed.clean _ hmem
    rw [verdict_noRulesetOrContext hd3] at hpass
    cases hpass
  constructor
  · intro a hsched hstage
    cases a with
    | submitToLender i => exact hlenders i hsched
    | submitOcenLoanRequest i =>
      obtain ⟨before, after, hsplit, hpoint⟩ := hpoints.of_mem hsched
      obtain ⟨-, h, s, gs, r, rfl⟩ := hpoint.given
      exact hlenders s (by rw [hsplit]; simp)
    | checkDpdpConsent i => simp [Activity.stage, submissions] at hstage
    | evaluateDecision i => simp [Activity.stage, submissions] at hstage
    | fetchAaData i => simp [Activity.stage, submissions] at hstage
  · intro i r hmem hd3
    have hdenied : verdict (.evaluateDecision i) r = .ok (some .d3LenderPrescreen) := by
      rw [hgates i r hmem]
      exact verdict_noRulesetOrContext hd3
    exact ((runWorkflow_followsPipeline input early events).denied _ r _ hmem hdenied).2

end Runs

/-- A gate's result without an evaluation is marked as such, any other one is the
engine's; and no run of the workflow gets past D3 on gates that were not evaluated. -/
theorem evaluateDecision_gates :
    (∀ process input r, (Activities.evaluateDecision process input).Returns r →
      GateResult process input r) ∧
    ∀ input early ledger happenings,
      StopsAtD3 (runOrigination input early ledger happenings).exec :=
  ⟨fun _ _ _ => evaluateDecision_gateResult, runOrigination_stopsAtD3⟩

def sampleGate : EvaluateDecisionInput where
  loanApplicationId := "LA-1"
  gate := "d0_kind1_gate"
  rulesetName := "d0-kind1-gate"

/-- The ruleset is loaded and would fail, but D0 passes without it, and the data fetch
is scheduled. -/
theorem sampleGate_opens :
    (∃ r, (Activities.evaluateDecision sampleWorker sampleGate).Returns r ∧
      ¬ FailsClosed sampleWorker sampleGate r) ∧
    .fetchAaData ∈ (runOrigination (.structured sampleInput) [] (fun _ _ => true)
      (attempt 2 ++ attempt 0)).exec.history.scheduled.map Activity.stage := by
  constructor
  · have hno : ¬ Evaluable sampleWorker sampleGate := not_evaluable_of_no_context rfl
    refine ⟨Activities.noRulesetOrContext sampleGate, ?_, ?_⟩
    · rw [evaluateDecision_unevaluated hno]
      exact returns_pure.mpr rfl
    · rintro (hfail | ⟨output, ⟨context, result, hcontext, -⟩, -⟩)
      · simp [Activities.noRulesetOrContext, Json.subscript] at hfail
      · cases hcontext
  · exact .tail _ (.tail _ (.head _))

end OcenPlatform.Origination
