import Mathlib.Algebra.Order.Field.Basic
import Mathlib.Algebra.Order.Field.Rat
import Mathlib.Data.Nat.Cast.Order.Field
import Mathlib.Tactic.Linarith
import OcenPlatform.TrustGraph.Service

/-! The components of a trust score in terms of the history, and their bounds: a score is never
clamped. -/

namespace OcenPlatform.TrustGraph

/-! ## Components -/

/-- The share of all attestations that counts as concentration. -/
def concentrationPenalty (count total : Nat) : Rat :=
  if total > 0 then max 0 (((count : Rat) / total - 1 / 2) * 20) else 0

def repaymentScore (repayments : List Repayment) : Rat :=
  if repayments.isEmpty then 0
  else (repayments.countP (·.onTime) : Rat) / repayments.length * 40

def components (count total : Nat) (repayments : List Repayment) : TrustScoreComponents where
  attestationScore := min ((count : Rat) * 10) 30
  repaymentScore := repaymentScore repayments
  relationshipScore := min (((count + repayments.length : Nat) : Rat) * 2) 20
  concentrationPenalty := concentrationPenalty count total

def TrustScoreComponents.total (c : TrustScoreComponents) : Rat :=
  c.attestationScore + c.repaymentScore + c.relationshipScore - c.concentrationPenalty

theorem divide_ok {p q : Rat} (h : q ≠ 0) : divide p q = .ok (p / q) := if_neg h

theorem computeRepaymentScore_ok (repayments : List Repayment) :
    computeRepaymentScore repayments = .ok (repaymentScore repayments) := by
  unfold computeRepaymentScore repaymentScore
  cases repayments with
  | nil => rfl
  | cons r repayments =>
    have hlength : ((r :: repayments).length : Rat) ≠ 0 := by
      simpa using Nat.cast_add_one_ne_zero repayments.length
    simp only [divide_ok hlength]
    rfl

theorem computeConcentrationPenalty_ok (count total : Nat) :
    computeConcentrationPenalty count total = .ok (concentrationPenalty count total) := by
  unfold computeConcentrationPenalty concentrationPenalty
  split
  · rename_i htotal
    rw [divide_ok (Nat.cast_ne_zero.mpr (Nat.pos_iff_ne_zero.mp htotal))]
    rfl
  · rfl

/-- No division by zero is reached. -/
theorem computeTrustScore_eq (s : TrustGraphService) (vendorId anchorId : Uuid) (now : Int) :
    s.computeTrustScore vendorId anchorId now =
      let c := components (PyDict.get s.attestations (vendorId, anchorId) 0)
        (s.attestations.map Prod.snd).sum (PyDict.get s.repayments (vendorId, anchorId) [])
      TrustScore.validate
        { vendorId, anchorId, score := max 0 (min c.total 100), components := c, computedAt := now } := by
  unfold TrustGraphService.computeTrustScore
  simp only [computeRepaymentScore_ok, computeConcentrationPenalty_ok]
  rfl

/-! ## Bounds -/

/-- The bounds of the components. A penalty is no larger than what the attestations give. -/
structure Bounded (c : TrustScoreComponents) : Prop where
  attestationScore : 0 ≤ c.attestationScore ∧ c.attestationScore ≤ 30
  repaymentScore : 0 ≤ c.repaymentScore ∧ c.repaymentScore ≤ 40
  relationshipScore : 0 ≤ c.relationshipScore ∧ c.relationshipScore ≤ 20
  concentrationPenalty : 0 ≤ c.concentrationPenalty ∧ c.concentrationPenalty ≤ 10
  covered : c.concentrationPenalty ≤ c.attestationScore

theorem Bounded.total {c : TrustScoreComponents} (h : Bounded c) : 0 ≤ c.total ∧ c.total ≤ 90 := by
  obtain ⟨hattestation, hrepayment, hrelationship, hpenalty, hcovered⟩ := h
  unfold TrustScoreComponents.total
  constructor <;> linarith

theorem repaymentScore_bounds (repayments : List Repayment) :
    0 ≤ repaymentScore repayments ∧ repaymentScore repayments ≤ 40 := by
  unfold repaymentScore
  split
  · norm_num
  · have hcount : (repayments.countP (·.onTime) : Rat) ≤ repayments.length :=
      Nat.cast_le.mpr List.countP_le_length
    have hshare := div_le_one_of_le₀ hcount (Nat.cast_nonneg _)
    have hpos : (0 : Rat) ≤ (repayments.countP (·.onTime) : Rat) / repayments.length :=
      div_nonneg (Nat.cast_nonneg _) (Nat.cast_nonneg _)
    constructor <;> linarith

theorem concentrationPenalty_bounds {count total : Nat} (h : count ≤ total) :
    0 ≤ concentrationPenalty count total ∧ concentrationPenalty count total ≤ 10 := by
  unfold concentrationPenalty
  split
  · have hshare : (count : Rat) / total ≤ 1 :=
      div_le_one_of_le₀ (Nat.cast_le.mpr h) (Nat.cast_nonneg _)
    exact ⟨le_max_left _ _, max_le (by norm_num) (by linarith)⟩
  · norm_num

/-- Without an attestation of the pair there is no penalty. -/
theorem concentrationPenalty_zero (total : Nat) : concentrationPenalty 0 total = 0 := by
  unfold concentrationPenalty
  norm_num

theorem components_bounded {count total : Nat} (h : count ≤ total) (repayments : List Repayment) :
    Bounded (components count total repayments) where
  attestationScore := ⟨le_min (by positivity) (by norm_num), min_le_right _ _⟩
  repaymentScore := repaymentScore_bounds repayments
  relationshipScore := ⟨le_min (by positivity) (by norm_num), min_le_right _ _⟩
  concentrationPenalty := concentrationPenalty_bounds h
  covered := by
    cases count with
    | zero =>
      have hzero : concentrationPenalty 0 total = 0 := concentrationPenalty_zero total
      simp [components, hzero]
    | succ count =>
      refine (concentrationPenalty_bounds h).2.trans (le_min ?_ (by norm_num))
      push_cast
      linarith [(Nat.cast_nonneg count : (0 : Rat) ≤ count)]

/-! ## Histories -/

/-- The pair's attestations are among all attestations. -/
theorem countP_attests_le (history : List RecordCall) (key : Uuid × Uuid) :
    history.countP (RecordCall.attests key) ≤ history.countP RecordCall.isAttestation := by
  refine List.countP_mono_left fun call _ h => ?_
  cases call with
  | recordAttestation vendorId anchorId => rfl
  | recordRepayment vendorId anchorId amount onTime => cases h

/-- The components of the pair's score after a history. -/
def componentsAfter (history : List RecordCall) (key : Uuid × Uuid) : TrustScoreComponents :=
  components (history.countP (RecordCall.attests key)) (history.countP RecordCall.isAttestation)
    (history.filterMap (RecordCall.repayment? key))

theorem componentsAfter_bounded (history : List RecordCall) (key : Uuid × Uuid) :
    Bounded (componentsAfter history key) :=
  components_bounded (countP_attests_le history key) _

theorem computeTrustScore_after (history : List RecordCall) (vendorId anchorId : Uuid) (now : Int) :
    (serviceAfter history).computeTrustScore vendorId anchorId now = .ok
      { vendorId, anchorId, score := (componentsAfter history (vendorId, anchorId)).total
        components := componentsAfter history (vendorId, anchorId), computedAt := now } := by
  obtain ⟨hcount, htotal, hrepayments⟩ := records_after history
  obtain ⟨hnonneg, hle⟩ := (componentsAfter_bounded history (vendorId, anchorId)).total
  have hscore : max 0 (min (componentsAfter history (vendorId, anchorId)).total 100) =
      (componentsAfter history (vendorId, anchorId)).total := by
    rw [min_eq_left (by linarith), max_eq_right hnonneg]
  rw [computeTrustScore_eq, hcount, htotal, hrepayments]
  change TrustScore.validate { score := max 0 (min (componentsAfter history _).total 100), .. } = _
  rw [hscore]
  exact if_pos ⟨hnonneg, by linarith⟩

/-- **A score is never clamped:** it is the sum of its components, which are within their
bounds, after every history. -/
theorem computeTrustScore_unclamped (history : List RecordCall) (vendorId anchorId : Uuid) (now : Int) :
    ∃ t, (serviceAfter history).computeTrustScore vendorId anchorId now = .ok t ∧
      t.score = t.components.attestationScore + t.components.repaymentScore +
        t.components.relationshipScore - t.components.concentrationPenalty ∧
      Bounded t.components ∧ 0 ≤ t.score ∧ t.score ≤ 90 :=
  ⟨_, computeTrustScore_after history vendorId anchorId now, rfl, componentsAfter_bounded history _,
    (componentsAfter_bounded history _).total⟩

end OcenPlatform.TrustGraph
