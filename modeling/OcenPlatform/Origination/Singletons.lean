import OcenPlatform.Durable.Once
import OcenPlatform.Origination.Decision
import OcenPlatform.Rules.Provenance

/-! `get_zen_engine`: the engine of a worker process, which the first attempt that needs it makes.
The activities of the process run side by side, and the files change as it runs. -/

namespace OcenPlatform.Origination

open Durable
open Durable.Proc (returns_bind returns_ofExcept returns_pure)
open Rules
open Rules.ZenDecisionEngine (Left Load Paired evaluate_ok)

variable {ι : Type} [DecidableEq ι]

/-- `get_zen_engine()`, of callers that take turns: `loads i` is what `ZenDecisionEngine("rules/")`
finds if it is the caller `i` who makes it. -/
def getZenEngine (loads : ι → Load) (schedule : List ι) :
    Interleaving.State ι (Once.Phase ZenDecisionEngine) (Once.Slot ι ZenDecisionEngine) :=
  Once.calling (fun i => ZenDecisionEngine.new (loads i).zen (loads i).dir) schedule

/-- A constructor that returns has met no fault. -/
theorem paired_of_new {load : Load} {engine : ZenDecisionEngine}
    (h : ZenDecisionEngine.new load.zen load.dir = .ok engine) : Left engine load ∧ Paired engine := by
  have hleft : Left engine load := (ZenDecisionEngine.Reached.new h).left
  refine ⟨hleft, ?_⟩
  cases hleft with
  | stub hzen hengines =>
    intro rulesetName content hfind
    rw [hengines] at hfind
    cases hfind
  | complete hzen hclean => exact ZenDecisionEngine.paired_holding _ _
  | @interrupted _ lib before bad hzen hstops =>
    unfold ZenDecisionEngine.new at h
    rcases ZenDecisionEngine.loadAll_cases load.zen load.dir ZenDecisionEngine.blank rfl rfl with
      ⟨hnone, -⟩ | ⟨lib', hlib, hclean, -⟩ | ⟨lib', before', bad', e, -, -, hload⟩
    · rw [hzen] at hnone
      cases hnone
    · obtain rfl := Option.some.inj (hzen.symm.trans hlib)
      exact absurd hclean hstops.not_clean
    · rw [hload] at h
      cases h

/-- A result with an evaluation carries the hash that the evaluation carries. -/
theorem rulesetHash_of_returns {process : WorkerProcess} {input : EvaluateDecisionInput} {r : Json}
    (heval : Evaluable process input) (hr : (Activities.evaluateDecision process input).Returns r) :
    ∃ result, process.zen.evaluate input.rulesetName (input.context.getD []) = .ok result ∧
      r.subscript "ruleset_hash" = .ok (.str result.rulesetHash) := by
  unfold Activities.evaluateDecision at hr
  simp only [if_pos (evaluable_iff.mp heval), returns_bind, returns_ofExcept, returns_pure] at hr
  obtain ⟨result, hresult, _, -, outcome, -, _, -, _, -, _, -, rfl⟩ := hr
  exact ⟨result, hresult, rfl⟩

/-- **The gates of a process are evaluated with one load.** Callers get one engine, however much
later they come and whatever the directory holds then: that of a load which has met no fault. A
result of `evaluate_decision` with it carries the hash of the text that was evaluated, which is that
of a file of this load. A caller gets an exception only from a load of its own, and no caller is kept
waiting for good. -/
theorem gates_of_one_load (loads : ι → Load) (schedule : List ι) :
    (∀ i engine, (getZenEngine loads schedule).locals i = .done (.ok engine) →
      ∃ k, ZenDecisionEngine.new (loads k).zen (loads k).dir = .ok engine ∧
        (∀ more j engine', (getZenEngine loads (schedule ++ more)).locals j = .done (.ok engine') →
          engine' = engine) ∧
        ∀ process input r, process.zen = engine → Evaluable process input →
          (Activities.evaluateDecision process input).Returns r →
          ∃ content, PyDict.find? engine.engines input.rulesetName = some content ∧
            r.subscript "ruleset_hash" = .ok (.str (contentHash content)) ∧
            ∃ file ∈ (loads k).dir, file.stem = input.rulesetName ∧ file.text = .ok content) ∧
    (∀ i e, (getZenEngine loads schedule).locals i = .done (.error e) →
      ZenDecisionEngine.new (loads i).zen (loads i).dir = .error e) ∧
    ∀ i, ∃ more result, (getZenEngine loads (schedule ++ more)).locals i = .done result := by
  refine ⟨fun i engine hi => ?_, fun i e => Once.raised_own, Once.can_finish _ schedule⟩
  obtain ⟨-, k, hk⟩ := Once.made_once hi (Once.done_append hi [])
  refine ⟨k, hk, fun more j engine' hj => (Once.made_once hi hj).1, ?_⟩
  intro process input r hengine heval hr
  obtain ⟨hleft, hpaired⟩ := paired_of_new hk
  obtain ⟨result, hresult, hhash⟩ := rulesetHash_of_returns heval hr
  rw [hengine] at hresult
  obtain ⟨content, -, rulesetHash, hcontent, -, -, hstored, hcarried⟩ := evaluate_ok hresult
  refine ⟨content, hcontent, ?_, hleft.exists_file hcontent⟩
  rw [hhash, hcarried, Option.some.inj (hstored.symm.trans (hpaired _ _ hcontent))]

/-- The directory holds the gate's ruleset for the one caller, and for the other a file that the
library rejects. -/
def raceLoads : Bool → Load
  | false => ⟨some ZenDecisionEngine.gateLibrary, ZenDecisionEngine.gateDir⟩
  | true => ⟨some ZenDecisionEngine.gateLibrary, ZenDecisionEngine.tangledDir⟩

/-- Both look before either has the lock. -/
def raceSchedule : List Bool :=
  [false, true, false, false, true, false, false, false, true, true, true, true]

/-- The caller that comes second makes nothing, and gets the engine of the first one's load. -/
theorem gates_of_one_load_race :
    (getZenEngine raceLoads raceSchedule).locals true = .done (.ok ZenDecisionEngine.gateEngine) ∧
    ∃ k, ZenDecisionEngine.new (raceLoads k).zen (raceLoads k).dir =
      .ok ZenDecisionEngine.gateEngine := by
  have hmake : ZenDecisionEngine.new (raceLoads false).zen (raceLoads false).dir =
      .ok ZenDecisionEngine.gateEngine := ZenDecisionEngine.new_gateDir
  have hdone : (getZenEngine raceLoads raceSchedule).locals true =
      .done (.ok ZenDecisionEngine.gateEngine) := by
    simp [getZenEngine, Once.calling, raceSchedule, Interleaving.turn, Once.act, hmake]
  obtain ⟨k, hk, -⟩ := (gates_of_one_load raceLoads raceSchedule).1 true _ hdone
  exact ⟨hdone, k, hk⟩

end OcenPlatform.Origination
