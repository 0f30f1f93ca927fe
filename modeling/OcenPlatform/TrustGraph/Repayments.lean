import Mathlib.Tactic.FieldSimp
import Mathlib.Tactic.Ring
import OcenPlatform.TrustGraph.Isolation

/-! One more repayment, and the order of the calls: how a pair's score depends on them. -/

namespace OcenPlatform.TrustGraph

/-! ## Shares -/

/-- One more hit never lowers a share. -/
theorem share_le_share_succ {k n : Nat} (h : k ≤ n) :
    (k : Rat) / n ≤ ((k + 1 : Nat) : Rat) / (n + 1 : Nat) := by
  rcases Nat.eq_zero_or_pos n with rfl | hn
  · rw [Nat.cast_zero, div_zero]
    positivity
  · have hpos : (0 : Rat) < n := Nat.cast_pos.mpr hn
    have hle : (k : Rat) ≤ n := Nat.cast_le.mpr h
    rw [div_le_div_iff₀ hpos (by positivity)]
    push_cast
    linarith

/-- One more miss costs the share this much. -/
theorem share_sub_share_succ (k : Nat) {n : Nat} (hn : 0 < n) :
    (k : Rat) / n - (k : Rat) / (n + 1 : Nat) = k / ((n * (n + 1) : Nat) : Rat) := by
  have hne : (n : Rat) ≠ 0 := Nat.cast_ne_zero.mpr hn.ne'
  have hne' : ((n : Rat) + 1) ≠ 0 := Nat.cast_add_one_ne_zero n
  push_cast
  field_simp
  ring

/-! ## Components -/

section Components

variable (count total : Nat) (repayments : List Repayment)

/-- Without a repayment both sides are zero. -/
theorem repaymentScore_eq :
    repaymentScore repayments = (repayments.countP (·.onTime) : Rat) / repayments.length * 40 := by
  cases repayments with
  | nil => simp [repaymentScore]
  | cons r repayments => rfl

theorem repaymentScore_concat (amount : Rat) (onTime : Bool) :
    repaymentScore (repayments ++ [⟨amount, onTime⟩]) =
      ((repayments.countP (·.onTime) + if onTime then 1 else 0 : Nat) : Rat) /
        (repayments.length + 1 : Nat) * 40 := by
  rw [repaymentScore_eq, List.countP_append, List.countP_singleton, List.length_append,
    List.length_singleton]

theorem repaymentScore_onTime (amount : Rat) :
    repaymentScore repayments ≤ repaymentScore (repayments ++ [⟨amount, true⟩]) := by
  rw [repaymentScore_concat, repaymentScore_eq, if_pos rfl]
  have hshare := share_le_share_succ (List.countP_le_length (p := (·.onTime)) (l := repayments))
  linarith

theorem repaymentScore_late (amount : Rat) :
    repaymentScore (repayments ++ [⟨amount, false⟩]) =
      repaymentScore repayments - (repayments.countP (·.onTime) : Rat) /
        ((repayments.length * (repayments.length + 1) : Nat) : Rat) * 40 := by
  rw [repaymentScore_concat, repaymentScore_eq, if_neg Bool.false_ne_true, Nat.add_zero]
  rcases Nat.eq_zero_or_pos repayments.length with hnil | hpos
  · rw [List.length_eq_zero_iff.mp hnil]
    simp
  · have hshare := share_sub_share_succ (repayments.countP (·.onTime)) hpos
    linarith

/-- The relationship grows with every repayment, up to its cap. -/
theorem relationshipScore_concat (r : Repayment) :
    (components count total (repayments ++ [r])).relationshipScore =
      (components count total repayments).relationshipScore +
        if count + repayments.length < 10 then 2 else 0 := by
  have hlength : (repayments ++ [r]).length = repayments.length + 1 := by simp
  simp only [components, hlength, ← Nat.add_assoc]
  split
  · rename_i hlow
    have hcast : ((count + repayments.length : Nat) : Rat) + 1 ≤ 10 := by exact_mod_cast hlow
    rw [Nat.cast_add_one, min_eq_left (by linarith), min_eq_left (by linarith)]
    ring
  · rename_i hcapped
    have hcast : (10 : Rat) ≤ ((count + repayments.length : Nat) : Rat) := by
      exact_mod_cast Nat.le_of_not_lt hcapped
    rw [Nat.cast_add_one, min_eq_right (by linarith), min_eq_right (by linarith), add_zero]

/-- What a further repayment changes of the sum. -/
theorem total_concat (r : Repayment) :
    (components count total (repayments ++ [r])).total =
      (components count total repayments).total +
        (repaymentScore (repayments ++ [r]) - repaymentScore repayments) +
        if count + repayments.length < 10 then 2 else 0 := by
  have hrelationship := relationshipScore_concat count total repayments r
  simp only [TrustScoreComponents.total, hrelationship]
  simp only [components]
  ring

theorem total_onTime (amount : Rat) : (components count total repayments).total ≤
    (components count total (repayments ++ [⟨amount, true⟩])).total := by
  have hscore := repaymentScore_onTime repayments amount
  rw [total_concat]
  split <;> linarith

/-- The loss is less than two points exactly if few of the repayments were on time. -/
theorem loss_lt_two_iff {k n : Nat} (h : k ≤ n) :
    (k : Rat) / ((n * (n + 1) : Nat) : Rat) * 40 < 2 ↔ k = 0 ∨ 20 * k < n * (n + 1) := by
  rcases Nat.eq_zero_or_pos n with rfl | hn
  · obtain rfl : k = 0 := Nat.le_zero.mp h
    simp
  · have hpos : (0 : Rat) < ((n * (n + 1) : Nat) : Rat) :=
      Nat.cast_pos.mpr (Nat.mul_pos hn n.succ_pos)
    have hzero : k = 0 → 20 * k < n * (n + 1) := by
      rintro rfl
      exact Nat.mul_pos hn n.succ_pos
    rw [or_iff_right_of_imp hzero, div_mul_eq_mul_div, div_lt_iff₀ hpos]
    have hcast : (20 * k < n * (n + 1)) ↔ (20 : Rat) * k < ((n * (n + 1) : Nat) : Rat) := by
      exact_mod_cast Iff.rfl
    rw [hcast]
    constructor <;> intro hlt <;> linarith

theorem total_late (amount : Rat) : (components count total repayments).total <
      (components count total (repayments ++ [⟨amount, false⟩])).total ↔
    count + repayments.length < 10 ∧ (repayments.countP (·.onTime) = 0 ∨
      20 * repayments.countP (·.onTime) < repayments.length * (repayments.length + 1)) := by
  rw [total_concat, repaymentScore_late,
    ← loss_lt_two_iff (List.countP_le_length (p := (·.onTime)) (l := repayments))]
  have hloss : (0 : Rat) ≤ (repayments.countP (·.onTime) : Rat) /
      ((repayments.length * (repayments.length + 1) : Nat) : Rat) * 40 := by positivity
  split
  · rename_i hlow
    rw [and_iff_right hlow]
    constructor <;> intro hlt <;> linarith
  · rename_i hcapped
    refine iff_of_false ?_ fun h => hcapped h.1
    linarith

/-- The order of the repayments does not matter. -/
theorem components_perm {repayments repayments' : List Repayment} (h : repayments.Perm repayments') :
    components count total repayments = components count total repayments' := by
  simp only [components, repaymentScore_eq, h.countP_eq, h.length_eq]

end Components

/-! ## Histories -/

section Histories

variable {history history' : List RecordCall} {vendorId anchorId : Uuid}

/-- The repayments that a history has recorded for a pair. -/
def repaymentsOf (history : List RecordCall) (key : Uuid × Uuid) : List Repayment :=
  history.filterMap (RecordCall.repayment? key)

/-- A repayment is recorded for its own pair only, and it is no attestation. -/
theorem componentsAfter_recordRepayment (amount : Rat) (onTime : Bool) (key : Uuid × Uuid) :
    componentsAfter (history ++ [.recordRepayment vendorId anchorId amount onTime]) key =
      components (history.countP (RecordCall.attests key)) (history.countP RecordCall.isAttestation)
        (repaymentsOf history key ++
          if (vendorId, anchorId) = key then [⟨amount, onTime⟩] else []) := by
  have hrepayment : [RecordCall.recordRepayment vendorId anchorId amount onTime].filterMap
      (RecordCall.repayment? key) = if (vendorId, anchorId) = key then [⟨amount, onTime⟩] else [] := by
    by_cases hkey : (vendorId, anchorId) = key <;> simp [RecordCall.repayment?, hkey]
  rw [componentsAfter, List.filterMap_append, hrepayment, repaymentsOf]
  simp only [List.countP_append, List.countP_singleton, RecordCall.attests, RecordCall.isAttestation]
  rfl

theorem componentsAfter_perm (h : history.Perm history') (key : Uuid × Uuid) :
    componentsAfter history key = componentsAfter history' key := by
  rw [componentsAfter, componentsAfter, h.countP_eq, h.countP_eq]
  exact components_perm _ _ (h.filterMap _)

end Histories

/-- **A repayment on time never lowers the pair's score**, and it changes no other pair's. -/
theorem onTime_never_lowers (history : List RecordCall) (vendorId anchorId : Uuid) (amount : Rat)
    (now now' : Int) :
    (∃ t t', (serviceAfter history).computeTrustScore vendorId anchorId now = .ok t ∧
      (serviceAfter (history ++ [.recordRepayment vendorId anchorId amount true])).computeTrustScore
        vendorId anchorId now' = .ok t' ∧ t.score ≤ t'.score) ∧
    ∀ vendorId' anchorId', (vendorId', anchorId') ≠ (vendorId, anchorId) →
      shown (history ++ [.recordRepayment vendorId anchorId amount true]) vendorId' anchorId' now' =
        shown history vendorId' anchorId' now := by
  constructor
  · refine ⟨_, _, computeTrustScore_after history vendorId anchorId now,
      computeTrustScore_after _ vendorId anchorId now', ?_⟩
    simp only [componentsAfter_recordRepayment, if_true]
    exact total_onTime _ _ _ amount
  · intro vendorId' anchorId' hne
    rw [shown_eq, shown_eq, componentsAfter_recordRepayment, if_neg (Ne.symm hne), List.append_nil]
    rfl

/-- Another vendor's score after the first repayment of all. -/
theorem onTime_never_lowers_first :
    ((⟨2⟩, ⟨10⟩) : Uuid × Uuid) ≠ (⟨1⟩, ⟨10⟩) ∧
    shown [.recordRepayment ⟨1⟩ ⟨10⟩ 500 true] ⟨2⟩ ⟨10⟩ 1 = shown [] ⟨2⟩ ⟨10⟩ 0 :=
  have hne : ((⟨2⟩, ⟨10⟩) : Uuid × Uuid) ≠ (⟨1⟩, ⟨10⟩) := by decide
  ⟨hne, (onTime_never_lowers [] ⟨1⟩ ⟨10⟩ 500 0 1).2 ⟨2⟩ ⟨10⟩ hne⟩

/-- **A late repayment lowers the repayment score, or leaves it.** The score itself it raises
exactly if the relationship still gains from it, and gains more than the share of repayments on
time loses. -/
theorem late_raises_iff (history : List RecordCall) (vendorId anchorId : Uuid) (amount : Rat)
    (now now' : Int) :
    ∃ t t', (serviceAfter history).computeTrustScore vendorId anchorId now = .ok t ∧
      (serviceAfter (history ++ [.recordRepayment vendorId anchorId amount false])).computeTrustScore
        vendorId anchorId now' = .ok t' ∧
      t'.components.repaymentScore ≤ t.components.repaymentScore ∧
      (t.score < t'.score ↔
        history.countP (RecordCall.attests (vendorId, anchorId)) +
          (repaymentsOf history (vendorId, anchorId)).length < 10 ∧
        ((repaymentsOf history (vendorId, anchorId)).countP (·.onTime) = 0 ∨
          20 * (repaymentsOf history (vendorId, anchorId)).countP (·.onTime) <
            (repaymentsOf history (vendorId, anchorId)).length *
              ((repaymentsOf history (vendorId, anchorId)).length + 1))) := by
  refine ⟨_, _, computeTrustScore_after history vendorId anchorId now,
    computeTrustScore_after _ vendorId anchorId now', ?_, ?_⟩
  · simp only [componentsAfter_recordRepayment, if_true]
    have hlate := repaymentScore_late (repaymentsOf history (vendorId, anchorId)) amount
    change repaymentScore _ ≤ repaymentScore (repaymentsOf history (vendorId, anchorId))
    rw [hlate]
    exact sub_le_self _ (by positivity)
  · simp only [componentsAfter_recordRepayment, if_true]
    exact total_late _ _ _ amount

/-- The first repayment of a pair is late, and its score goes from 0 to 2. -/
theorem late_raises_first : ¬ ∀ (history : List RecordCall) (vendorId anchorId : Uuid) (amount : Rat)
    (now now' : Int) (t t' : TrustScore),
    (serviceAfter history).computeTrustScore vendorId anchorId now = .ok t →
    (serviceAfter (history ++ [.recordRepayment vendorId anchorId amount false])).computeTrustScore
      vendorId anchorId now' = .ok t' → t'.score ≤ t.score := by
  intro hnever
  have hle := hnever [] ⟨1⟩ ⟨10⟩ 500 0 0 _ _ (computeTrustScore_after [] ⟨1⟩ ⟨10⟩ 0)
    (computeTrustScore_after _ ⟨1⟩ ⟨10⟩ 0)
  exact absurd hle (by decide +kernel)

/-- **The order of the calls does not matter** to any pair's score or components. -/
theorem shown_perm (history history' : List RecordCall) (h : history.Perm history')
    (vendorId anchorId : Uuid) (now now' : Int) :
    shown history vendorId anchorId now = shown history' vendorId anchorId now' := by
  rw [shown_eq, shown_eq, componentsAfter_perm h]

theorem shown_perm_swap :
    [RecordCall.recordRepayment ⟨1⟩ ⟨10⟩ 500 false, .recordAttestation ⟨1⟩ ⟨10⟩].Perm
      [.recordAttestation ⟨1⟩ ⟨10⟩, .recordRepayment ⟨1⟩ ⟨10⟩ 500 false] ∧
    shown [.recordRepayment ⟨1⟩ ⟨10⟩ 500 false, .recordAttestation ⟨1⟩ ⟨10⟩] ⟨1⟩ ⟨10⟩ 0 =
      shown [.recordAttestation ⟨1⟩ ⟨10⟩, .recordRepayment ⟨1⟩ ⟨10⟩ 500 false] ⟨1⟩ ⟨10⟩ 1 :=
  have hperm := List.Perm.swap (RecordCall.recordAttestation ⟨1⟩ ⟨10⟩)
    (.recordRepayment ⟨1⟩ ⟨10⟩ 500 false) []
  ⟨hperm, shown_perm _ _ hperm ⟨1⟩ ⟨10⟩ 0 1⟩

end OcenPlatform.TrustGraph
