import Mathlib.Algebra.Order.Ring.Rat
import Mathlib.Tactic.Linarith
import Mathlib.Tactic.NormNum
import Mathlib.Tactic.SplitIfs
import OcenPlatform.Rules.Rulesets

/-! The outcome of D1 on the facts that it tests. -/

namespace OcenPlatform.Rules

/-- The context has the facts that D1 tests. -/
structure SufficiencyFacts (context : Dict) (monthsAvailable dataFreshnessDays : Rat)
    (gstReturnsFiled : Bool) : Prop where
  monthsAvailable : PyDict.get context "months_available" .null = .num monthsAvailable
  dataFreshnessDays : PyDict.get context "data_freshness_days" .null = .num dataFreshnessDays
  gstReturnsFiled : PyDict.get context "gst_returns_filed" .null = .bool gstReturnsFiled

/-- Between the rows for `pass`, `flag` and `fail`: six months or more, whose data is more than
30 and at most 60 days old. -/
def Uncovered (monthsAvailable dataFreshnessDays : Rat) (gstReturnsFiled : Bool) : Prop :=
  6 ≤ monthsAvailable ∧ 30 < dataFreshnessDays ∧ dataFreshnessDays ≤ 60 ∧ gstReturnsFiled = true

/-- The outcome of D1, if it has one. -/
def d1Outcome (monthsAvailable dataFreshnessDays : Rat) (gstReturnsFiled : Bool) : Option String :=
  if 60 < dataFreshnessDays ∨ monthsAvailable < 3 ∨ gstReturnsFiled = false then some "fail"
  else if monthsAvailable < 6 then some "flag"
  else if dataFreshnessDays ≤ 30 then some "pass"
  else none

section Table

variable {context : Dict} {monthsAvailable dataFreshnessDays : Rat} {gstReturnsFiled : Bool}

theorem d1Outcome_eq_none_iff : d1Outcome monthsAvailable dataFreshnessDays gstReturnsFiled = none ↔
    Uncovered monthsAvailable dataFreshnessDays gstReturnsFiled := by
  unfold d1Outcome Uncovered
  split_ifs with hfail hmonths hfresh
  · refine iff_of_false nofun ?_
    rintro ⟨hsix, -, hsixty, hgst⟩
    rcases hfail with h | h | h
    · exact absurd h (not_lt.mpr hsixty)
    · linarith
    · rw [hgst] at h
      cases h
  · exact iff_of_false nofun fun h => absurd hmonths (not_lt.mpr h.1)
  · exact iff_of_false nofun fun h => absurd h.2.1 (not_lt.mpr hfresh)
  · simp only [not_or, not_lt, Bool.not_eq_false] at hfail
    exact iff_of_true rfl ⟨not_lt.mp hmonths, not_le.mp hfresh, hfail.1, hfail.2.2⟩

variable (h : SufficiencyFacts context monthsAvailable dataFreshnessDays gstReturnsFiled)
include h

theorem SufficiencyFacts.ne_nil : context ≠ [] := by
  rintro rfl
  cases h.monthsAvailable

theorem matchesRule_d1 (months freshness gst : Test) (values : List Json) :
    d1DataSufficiency.matchesRule context { tests := [months, freshness, gst], values } =
      (months.passes (.num monthsAvailable) && (freshness.passes (.num dataFreshnessDays) &&
        gst.passes (.bool gstReturnsFiled))) := by
  simp [DecisionTable.matchesRule, d1DataSufficiency, h.monthsAvailable, h.dataFreshnessDays,
    h.gstReturnsFiled]

/-- A row that matches has the outcome of D1. -/
theorem outcome_of_matches {rule : Rule} (hmem : rule ∈ d1DataSufficiency.rules)
    (hmatches : d1DataSufficiency.matchesRule context rule) :
    some (PyDict.get (d1DataSufficiency.output rule) "outcome" .null) =
      (d1Outcome monthsAvailable dataFreshnessDays gstReturnsFiled).map Json.str := by
  unfold d1Outcome
  simp only [d1DataSufficiency, List.mem_cons, List.not_mem_nil, or_false] at hmem
  rcases hmem with rfl | rfl | rfl | rfl | rfl <;>
    simp only [matchesRule_d1 h, passes_any, passes_ge_num, passes_le_num, passes_gt_num,
      passes_lt_num, passes_inInterval_num, passes_isBool_bool, Bool.and_eq_true, decide_eq_true_eq,
      true_and, and_true] at hmatches
  case inl =>
    obtain ⟨hsix, hthirty, rfl⟩ := hmatches
    rw [if_neg (by simp; constructor <;> linarith), if_neg (not_lt.mpr hsix), if_pos hthirty]
    rfl
  case inr.inl =>
    obtain ⟨⟨hthree, hsix⟩, hsixty, rfl⟩ := hmatches
    rw [if_neg (by simp; constructor <;> linarith), if_pos hsix]
    rfl
  case inr.inr.inl =>
    rw [if_pos (.inl hmatches)]
    rfl
  case inr.inr.inr.inl =>
    rw [if_pos (.inr (.inl hmatches))]
    rfl
  case inr.inr.inr.inr =>
    rw [if_pos (.inr (.inr hmatches))]
    rfl

/-- Where D1 has an outcome, a row matches. -/
theorem exists_matches_of_d1Outcome
    (hsome : d1Outcome monthsAvailable dataFreshnessDays gstReturnsFiled ≠ none) :
    ∃ rule ∈ d1DataSufficiency.rules, d1DataSufficiency.matchesRule context rule := by
  unfold d1Outcome at hsome
  split_ifs at hsome with hfail hmonths hfresh
  · rcases hfail with hstale | hfew | hgst
    · refine ⟨_, .tail _ (.tail _ (.head _)), ?_⟩
      simpa [matchesRule_d1 h] using hstale
    · refine ⟨_, .tail _ (.tail _ (.tail _ (.head _))), ?_⟩
      simpa [matchesRule_d1 h] using hfew
    · refine ⟨_, .tail _ (.tail _ (.tail _ (.tail _ (.head _)))), ?_⟩
      simpa [matchesRule_d1 h] using hgst
  · simp only [not_or, not_lt, Bool.not_eq_false] at hfail
    refine ⟨_, .tail _ (.head _), ?_⟩
    simp [matchesRule_d1 h, hfail, hmonths]
  · simp only [not_or, not_lt, Bool.not_eq_false] at hfail
    refine ⟨_, .head _, ?_⟩
    simp [matchesRule_d1 h, hfail, hfresh, not_lt.mp hmonths]
  · exact absurd rfl hsome

theorem exists_matches_iff : (∃ rule ∈ d1DataSufficiency.rules,
    d1DataSufficiency.matchesRule context rule) ↔
    ¬ Uncovered monthsAvailable dataFreshnessDays gstReturnsFiled := by
  rw [← d1Outcome_eq_none_iff]
  constructor
  · rintro ⟨rule, hmem, hmatches⟩ hnone
    have houtcome := outcome_of_matches h hmem hmatches
    rw [hnone] at houtcome
    cases houtcome
  · exact exists_matches_of_d1Outcome h

theorem agree_d1 : d1DataSufficiency.Agree context "outcome" := by
  intro rule hrule rule' hrule'
  rw [DecisionTable.mem_matching] at hrule hrule'
  have houtcome := outcome_of_matches h hrule.1 hrule.2
  have houtcome' := outcome_of_matches h hrule'.1 hrule'.2
  exact Option.some.inj (houtcome.trans houtcome'.symm)

end Table

theorem find?_outcome_d1 :
    ∀ rule ∈ d1DataSufficiency.rules,
      (PyDict.find? (d1DataSufficiency.output rule) "outcome").isSome := by
  decide +kernel

/-- D1 with its rows in another order. -/
def d1Reordered (rules : List Rule) : DecisionTable := { d1DataSufficiency with rules }

/-- **The order of the rows of D1 does not matter.** The rows that match agree on the outcome, and
an engine that stops at the first match yields the same outcome for every order. -/
theorem d1_outcome_perm (context : Dict) (monthsAvailable dataFreshnessDays : Rat)
    (gstReturnsFiled : Bool)
    (h : SufficiencyFacts context monthsAvailable dataFreshnessDays gstReturnsFiled) :
    d1DataSufficiency.Agree context "outcome" ∧
    ∀ rules, rules.Perm d1DataSufficiency.rules →
      (d1Reordered rules).stated context "outcome" = d1DataSufficiency.stated context "outcome" ∧
      ∀ result outcome, (d1Reordered rules).Yields context result →
        d1DataSufficiency.stated context "outcome" = some outcome →
        result.get "outcome" (.str "pass") = .ok outcome := by
  refine ⟨agree_d1 h, fun rules hperm => ?_⟩
  have hstated : (d1Reordered rules).stated context "outcome" =
      d1DataSufficiency.stated context "outcome" := DecisionTable.stated_perm (agree_d1 h) hperm
  refine ⟨hstated, fun result outcome hyields houtcome => ?_⟩
  obtain ⟨fields, rfl, hfind⟩ := hyields.find?_of_stated rfl
    (fun rule hrule => find?_outcome_d1 rule (hperm.subset hrule)) (hstated.trans houtcome)
  simp [Json.get, PyDict.get, hfind]

/-- Four months of data that is too old, with the rows in reverse order. -/
def staleContext : Dict :=
  [("months_available", .num 4), ("data_freshness_days", .num 75), ("gst_returns_filed", .bool false)]

theorem d1_outcome_perm_reverse :
    (d1Reordered d1DataSufficiency.rules.reverse).stated staleContext "outcome" =
      d1DataSufficiency.stated staleContext "outcome" :=
  ((d1_outcome_perm staleContext 4 75 false ⟨rfl, rfl, rfl⟩).2 _ (List.reverse_perm _)).1

end OcenPlatform.Rules
