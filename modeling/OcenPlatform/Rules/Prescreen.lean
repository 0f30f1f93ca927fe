import OcenPlatform.Rules.Rulesets

/-! D3: a better application keeps its lenders, and each lender takes what a stricter one takes. -/

namespace OcenPlatform.Rules

def conservativeLender : Rule where
  tests := [.isNum 0, .le 500000, .ge 12, .ge 70]
  values := [.str "lender-conservative-01", .num 1]

def standardLender : Rule where
  tests := [.le 1, .le 2000000, .ge 6, .ge 50]
  values := [.str "lender-standard-01", .num 2]

def growthLender : Rule where
  tests := [.le 2, .le 5000000, .ge 3, .ge 30]
  values := [.str "lender-growth-01", .num 3]

theorem rules_d3 :
    d3LenderPrescreen.rules = [conservativeLender, standardLender, growthLender] := rfl

/-- D3 collects the lender. -/
def MatchesLender (context : Dict) (lenderId : String) : Prop :=
  .str lenderId ∈ d3LenderPrescreen.collected context "matched_lender_id"

/-- Both are numbers, and the second is no larger. -/
def NoLarger (v v' : Json) : Prop := ∃ x x', v = .num x ∧ v' = .num x' ∧ x' ≤ x

/-- No more risk flags, no larger amount, no fewer months and no lower trust score. -/
structure NoWorse (context context' : Dict) : Prop where
  riskFlagCount : ∃ n n' : Nat, PyDict.get context "risk_flag_count" .null = .num n ∧
    PyDict.get context' "risk_flag_count" .null = .num n' ∧ n' ≤ n
  requestedAmount : NoLarger (PyDict.get context "requested_amount" .null)
    (PyDict.get context' "requested_amount" .null)
  monthsOfData : NoLarger (PyDict.get context' "months_of_data" .null)
    (PyDict.get context "months_of_data" .null)
  trustScore : NoLarger (PyDict.get context' "trust_score" .null)
    (PyDict.get context "trust_score" .null)

section Lenders

variable {context context' : Dict}

theorem matchesLender_iff {lenderId : String} : MatchesLender context lenderId ↔
    d3LenderPrescreen.matchesRule context conservativeLender ∧ lenderId = "lender-conservative-01" ∨
    d3LenderPrescreen.matchesRule context standardLender ∧ lenderId = "lender-standard-01" ∨
    d3LenderPrescreen.matchesRule context growthLender ∧ lenderId = "lender-growth-01" := by
  rw [MatchesLender, DecisionTable.mem_collected, rules_d3]
  simp only [List.mem_cons, List.not_mem_nil, or_false, exists_eq_or_imp, exists_eq_left]
  simp [DecisionTable.output, d3LenderPrescreen, conservativeLender, standardLender, growthLender,
    PyDict.get, eq_comm (a := lenderId)]

theorem standard_of_conservative (h : d3LenderPrescreen.matchesRule context conservativeLender) :
    d3LenderPrescreen.matchesRule context standardLender :=
  DecisionTable.matchesRule_of_implies
    (.cons (Test.isNum_implies (by decide +kernel)) (.cons (Test.le_implies (by decide +kernel))
      (.cons (Test.ge_implies (by decide +kernel)) (.cons (Test.ge_implies (by decide +kernel)) .nil)))) h

theorem growth_of_standard (h : d3LenderPrescreen.matchesRule context standardLender) :
    d3LenderPrescreen.matchesRule context growthLender :=
  DecisionTable.matchesRule_of_implies
    (.cons (Test.le_implies (by decide +kernel)) (.cons (Test.le_implies (by decide +kernel))
      (.cons (Test.ge_implies (by decide +kernel)) (.cons (Test.ge_implies (by decide +kernel)) .nil)))) h

theorem NoLarger.passes_le {v v' : Json} {q : Rat} (h : NoLarger v v') (hv : (Test.le q).passes v) :
    (Test.le q).passes v' := by
  obtain ⟨x, x', rfl, rfl, hle⟩ := h
  simp only [passes_le_num, decide_eq_true_eq] at hv ⊢
  exact Rat.le_trans hle hv

theorem NoLarger.passes_ge {v v' : Json} {q : Rat} (h : NoLarger v' v) (hv : (Test.ge q).passes v) :
    (Test.ge q).passes v' := by
  obtain ⟨x', x, rfl, rfl, hle⟩ := h
  simp only [passes_ge_num, decide_eq_true_eq] at hv ⊢
  exact Rat.le_trans hv hle

namespace NoWorse

variable (h : NoWorse context context')
include h

theorem riskFlagCount_noLarger : NoLarger (PyDict.get context "risk_flag_count" .null)
    (PyDict.get context' "risk_flag_count" .null) := by
  obtain ⟨n, n', hn, hn', hle⟩ := h.riskFlagCount
  exact ⟨n, n', hn, hn', Rat.natCast_le_natCast.mpr hle⟩

/-- A natural number that is no larger than none is none. -/
theorem passes_isNum_zero (hpasses : (Test.isNum 0).passes (PyDict.get context "risk_flag_count" .null)) :
    (Test.isNum 0).passes (PyDict.get context' "risk_flag_count" .null) := by
  obtain ⟨n, n', hn, hn', hle⟩ := h.riskFlagCount
  rw [hn, passes_isNum_num, decide_eq_true_eq] at hpasses
  have hzero : n = 0 := Rat.natCast_eq_zero_iff.mp hpasses
  have hzero' : n' = 0 := Nat.le_zero.mp (hzero ▸ hle)
  rw [hn', hzero']
  rfl

/-- A row keeps its match if its test of the risk flags does. -/
theorem matchesRule {count : Test} {amount months score : Rat} {values : List Json}
    (hcount : count.passes (PyDict.get context "risk_flag_count" .null) →
      count.passes (PyDict.get context' "risk_flag_count" .null))
    (hmatches : d3LenderPrescreen.matchesRule context
      { tests := [count, .le amount, .ge months, .ge score], values }) :
    d3LenderPrescreen.matchesRule context'
      { tests := [count, .le amount, .ge months, .ge score], values } := by
  refine DecisionTable.matchesRule_of_passes hmatches fun p hp => ?_
  simp only [d3LenderPrescreen, List.zip_cons_cons, List.zip_nil_right, List.mem_cons, List.not_mem_nil,
    or_false] at hp
  rcases hp with rfl | rfl | rfl | rfl
  · exact hcount
  · exact h.requestedAmount.passes_le
  · exact h.monthsOfData.passes_ge
  · exact h.trustScore.passes_ge

end NoWorse

end Lenders

/-- **D3 is monotone and nested.** An application that is no worse keeps the rows that match, and
a match of a lender is one of the less strict lenders. -/
theorem d3_monotone_nested :
    (∀ context context', NoWorse context context' → ∀ rule ∈ d3LenderPrescreen.rules,
      d3LenderPrescreen.matchesRule context rule → d3LenderPrescreen.matchesRule context' rule) ∧
    ∀ context,
      (MatchesLender context "lender-conservative-01" → MatchesLender context "lender-standard-01") ∧
      (MatchesLender context "lender-standard-01" → MatchesLender context "lender-growth-01") := by
  refine ⟨fun context context' h rule hrule hmatches => ?_, fun context => ⟨?_, ?_⟩⟩
  · rw [rules_d3] at hrule
    simp only [List.mem_cons, List.not_mem_nil, or_false] at hrule
    rcases hrule with rfl | rfl | rfl
    · exact h.matchesRule h.passes_isNum_zero hmatches
    · exact h.matchesRule h.riskFlagCount_noLarger.passes_le hmatches
    · exact h.matchesRule h.riskFlagCount_noLarger.passes_le hmatches
  · intro hconservative
    have hmatches : d3LenderPrescreen.matchesRule context conservativeLender := by
      simpa [matchesLender_iff] using hconservative
    exact matchesLender_iff.mpr (.inr (.inl ⟨standard_of_conservative hmatches, rfl⟩))
  · intro hstandard
    have hmatches : d3LenderPrescreen.matchesRule context standardLender := by
      simpa [matchesLender_iff] using hstandard
    exact matchesLender_iff.mpr (.inr (.inr ⟨growth_of_standard hmatches, rfl⟩))

/-! An application for the standard lender, and one with a smaller amount. -/

def application (requestedAmount : Rat) : Dict :=
  [("risk_flag_count", .num 1), ("requested_amount", .num requestedAmount),
    ("months_of_data", .num 8), ("trust_score", .num 55)]

theorem d3_monotone_nested_application :
    d3LenderPrescreen.matchesRule (application 400000) standardLender ∧
    MatchesLender (application 400000) "lender-growth-01" := by
  have hmatches : d3LenderPrescreen.matchesRule (application 2000000) standardLender := by
    decide +kernel
  have hnoWorse : NoWorse (application 2000000) (application 400000) :=
    ⟨⟨1, 1, rfl, rfl, Nat.le_refl _⟩, ⟨_, _, rfl, rfl, by decide +kernel⟩, ⟨_, _, rfl, rfl, Rat.le_refl⟩,
      ⟨_, _, rfl, rfl, Rat.le_refl⟩⟩
  have hkept := d3_monotone_nested.1 _ _ hnoWorse standardLender (.tail _ (.head _)) hmatches
  exact ⟨hkept, (d3_monotone_nested.2 _).2 (matchesLender_iff.mpr (.inr (.inl ⟨hkept, rfl⟩)))⟩

end OcenPlatform.Rules
