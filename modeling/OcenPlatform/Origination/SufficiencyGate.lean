import OcenPlatform.Origination.Decision
import OcenPlatform.Origination.HitPolicies
import OcenPlatform.Rules.Sufficiency

/-! The D1 gate on data that its table does not cover: `evaluate_decision` falls back to `pass`. -/

namespace OcenPlatform.Origination

open Durable
open Rules

/-- A row of D1 matches, and the outcome of the gate is one that a matching row states. -/
structure StatesOutcome (process : WorkerProcess) (input : EvaluateDecisionInput) (context : Dict) :
    Prop where
  matched : ∃ rule ∈ Rules.d1DataSufficiency.rules, Rules.d1DataSufficiency.matchesRule context rule
  outcome : ∀ r, (Activities.evaluateDecision process input).Returns r →
    ∃ rule ∈ Rules.d1DataSufficiency.rules, Rules.d1DataSufficiency.matchesRule context rule ∧
      r.subscript "outcome" =
        .ok (PyDict.get (Rules.d1DataSufficiency.output rule) "outcome" .null)

/-- The activity takes the outcome of the first row that matches. -/
theorem subscript_outcome_of_stated {process : WorkerProcess} {input : EvaluateDecisionInput}
    {context : Dict} {r outcome : Json}
    (hloaded : Loaded process.zen input.rulesetName Rules.d1DataSufficiency)
    (hcontext : input.context = some context) (hne : context ≠ [])
    (hr : (Activities.evaluateDecision process input).Returns r)
    (hstated : Rules.d1DataSufficiency.stated context "outcome" = some outcome) :
    r.subscript "outcome" = .ok outcome := by
  have heval : Evaluable process input := ⟨context, hcontext, hne, hloaded.mem_loadedRulesets⟩
  obtain ⟨output, ⟨context', result, hcontext', -, hresult, houtput⟩, htaken⟩ :=
    evaluateDecision_evaluated heval hr
  obtain rfl : context = context' := Option.some.inj (hcontext.symm.trans hcontext')
  obtain ⟨fields, hfields, hfind⟩ :=
    (hloaded.yields hresult).find?_of_stated rfl find?_outcome_d1 hstated
  obtain rfl := Json.obj.inj (houtput.symm.trans hfields)
  exact htaken outcome hfind

/-- **A row of D1 gives the outcome of the gate exactly if** the data is not in the uncovered
region. -/
theorem statesOutcome_iff (process : WorkerProcess) (input : EvaluateDecisionInput)
    (hruleset : input.rulesetName = "d1-data-sufficiency")
    (hloaded : Loaded process.zen "d1-data-sufficiency" Rules.d1DataSufficiency) (context : Dict)
    (hcontext : input.context = some context) (monthsAvailable dataFreshnessDays : Rat)
    (gstReturnsFiled : Bool)
    (hfacts : SufficiencyFacts context monthsAvailable dataFreshnessDays gstReturnsFiled) :
    StatesOutcome process input context ↔
      ¬ Uncovered monthsAvailable dataFreshnessDays gstReturnsFiled := by
  rw [← exists_matches_iff hfacts]
  constructor
  · exact StatesOutcome.matched
  · intro hmatched
    refine ⟨hmatched, fun r hr => ?_⟩
    have hsome : (Rules.d1DataSufficiency.stated context "outcome").isSome :=
      DecisionTable.stated_isSome_iff.mpr hmatched
    obtain ⟨outcome, hstated⟩ := Option.isSome_iff_exists.mp hsome
    obtain ⟨rule, hrule, hmatches, rfl⟩ := DecisionTable.exists_of_stated hstated
    rw [← hruleset] at hloaded
    exact ⟨rule, hrule, hmatches,
      subscript_outcome_of_stated hloaded hcontext hfacts.ne_nil hr hstated⟩

/-! A year of data that is 20 days old, and a year of data that is 45 days old. -/

def yearOfData (dataFreshnessDays : Rat) : Dict :=
  [("months_available", .num 12), ("data_freshness_days", .num dataFreshnessDays),
    ("gst_returns_filed", .bool true)]

def d1Worker : WorkerProcess := workerWith "d1-data-sufficiency" Rules.d1DataSufficiency

def d1Input (dataFreshnessDays : Rat) : EvaluateDecisionInput :=
  gateWith "d1_data_sufficiency" "d1-data-sufficiency" (yearOfData dataFreshnessDays)

theorem sufficiencyFacts_yearOfData (dataFreshnessDays : Rat) :
    SufficiencyFacts (yearOfData dataFreshnessDays) 12 dataFreshnessDays true :=
  ⟨rfl, rfl, rfl⟩

theorem statesOutcome_recent : StatesOutcome d1Worker (d1Input 20) (yearOfData 20) :=
  (statesOutcome_iff d1Worker (d1Input 20) rfl (loaded_tableEngine _ _) (yearOfData 20) rfl 12 20
    true (sufficiencyFacts_yearOfData 20)).mpr fun h => absurd h.2.1 (by decide +kernel)

/-- No row matches data that is 45 days old, and the activity returns `pass`. -/
theorem passes_uncovered :
    SufficiencyFacts (yearOfData 45) 12 45 true ∧
    (∀ rule ∈ Rules.d1DataSufficiency.rules,
      Rules.d1DataSufficiency.matchesRule (yearOfData 45) rule = false) ∧
    ¬ StatesOutcome d1Worker (d1Input 45) (yearOfData 45) ∧
    ∃ r, (Activities.evaluateDecision d1Worker (d1Input 45)).Returns r ∧
      r.subscript "outcome" = .ok (.str "pass") := by
  have hunmatched : ∀ rule ∈ Rules.d1DataSufficiency.rules,
      Rules.d1DataSufficiency.matchesRule (yearOfData 45) rule = false := by decide +kernel
  refine ⟨sufficiencyFacts_yearOfData 45, hunmatched, fun h => ?_, ?_⟩
  · obtain ⟨rule, hrule, hmatches⟩ := h.matched
    rw [hunmatched rule hrule] at hmatches
    cases hmatches
  · have heq : Activities.evaluateDecision d1Worker (d1Input 45) = _ :=
      evaluateDecision_eq rfl (List.cons_ne_nil _ _) (loaded_tableEngine _ _).mem_loadedRulesets
        (evaluate_tableEngine _ _ _)
    rw [heq]
    simp only [DecisionTable.evaluate_of_unmatched rfl hunmatched]
    exact ⟨_, .call (.ok ()) .done, rfl⟩

end OcenPlatform.Origination
