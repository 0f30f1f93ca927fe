import OcenPlatform.TrustGraph.Score

/-! Two histories that differ in the calls for other vendors: when a vendor's scores are the
same after both. -/

namespace OcenPlatform.TrustGraph

/-! ## Two histories -/

/-- The calls for the vendor. -/
def callsFor (vendorId : Uuid) (history : List RecordCall) : List RecordCall :=
  history.filter (·.vendorId = vendorId)

/-- What a caller sees of a score. -/
def shown (history : List RecordCall) (vendorId anchorId : Uuid) (now : Int) :
    Except String (Rat × TrustScoreComponents) :=
  ((serviceAfter history).computeTrustScore vendorId anchorId now).map fun t => (t.score, t.components)

/-- No anchor has attested the vendor more often than all other pairs together. -/
def Unconcentrated (vendorId : Uuid) (history : List RecordCall) : Prop :=
  ∀ anchorId, 2 * history.countP (RecordCall.attests (vendorId, anchorId)) ≤
    history.countP RecordCall.isAttestation

/-! ## Penalties -/

section Penalty

variable {count total total' : Nat}

theorem concentrationPenalty_eq_zero (h : 2 * count ≤ total) : concentrationPenalty count total = 0 := by
  unfold concentrationPenalty
  split
  · rename_i htotal
    have hcast : (2 : Rat) * count ≤ total := by exact_mod_cast h
    have hpos : (0 : Rat) < total := by exact_mod_cast htotal
    have hshare : (count : Rat) / total ≤ 1 / 2 := by
      rw [div_le_div_iff₀ hpos (by norm_num)]
      linarith
    exact max_eq_left (by linarith)
  · rfl

theorem concentrationPenalty_of_lt (hle : count ≤ total) (h : total < 2 * count) :
    concentrationPenalty count total = ((count : Rat) / total - 1 / 2) * 20 ∧
      0 < concentrationPenalty count total := by
  have htotal : 0 < total := by omega
  have hcast : (total : Rat) < 2 * count := by exact_mod_cast h
  have hpos : (0 : Rat) < total := by exact_mod_cast htotal
  have hshare : 1 / 2 < (count : Rat) / total := by
    rw [div_lt_div_iff₀ (by norm_num) hpos]
    linarith
  have heq : concentrationPenalty count total = ((count : Rat) / total - 1 / 2) * 20 := by
    rw [concentrationPenalty, if_pos htotal]
    exact max_eq_right (by linarith)
  exact ⟨heq, heq ▸ by linarith⟩

/-- A share of something tells the total. -/
theorem total_eq_of_share_eq (hcount : 0 < count) (htotal : 0 < total) (htotal' : 0 < total')
    (h : (count : Rat) / total = count / total') : total = total' := by
  have hne : (count : Rat) ≠ 0 := Nat.cast_ne_zero.mpr hcount.ne'
  have hne' : (total : Rat) ≠ 0 := Nat.cast_ne_zero.mpr htotal.ne'
  rw [div_eq_div_iff hne' (Nat.cast_ne_zero.mpr htotal'.ne')] at h
  exact_mod_cast (mul_left_cancel₀ hne h).symm

/-- A penalty that is not zero tells how many attestations there are. -/
theorem concentrationPenalty_eq_iff (h : count ≤ total) (h' : count ≤ total') :
    concentrationPenalty count total = concentrationPenalty count total' ↔
      total = total' ∨ 2 * count ≤ total ∧ 2 * count ≤ total' := by
  constructor
  · intro hsame
    by_cases hlow : 2 * count ≤ total
    · by_cases hlow' : 2 * count ≤ total'
      · exact .inr ⟨hlow, hlow'⟩
      · have hpos := (concentrationPenalty_of_lt h' (by omega)).2
        rw [← hsame, concentrationPenalty_eq_zero hlow] at hpos
        exact absurd hpos (lt_irrefl 0)
    · obtain ⟨heq, hpos⟩ := concentrationPenalty_of_lt h (by omega)
      by_cases hlow' : 2 * count ≤ total'
      · rw [hsame, concentrationPenalty_eq_zero hlow'] at hpos
        exact absurd hpos (lt_irrefl 0)
      · obtain ⟨heq', -⟩ := concentrationPenalty_of_lt h' (by omega)
        rw [heq, heq'] at hsame
        have hshare : (count : Rat) / total = count / total' := by linarith
        exact .inl (total_eq_of_share_eq (by omega) (by omega) (by omega) hshare)
  · rintro (rfl | ⟨hlow, hlow'⟩)
    · rfl
    · rw [concentrationPenalty_eq_zero hlow, concentrationPenalty_eq_zero hlow']

end Penalty

/-! ## Isolation -/

section Histories

variable {vendorId anchorId : Uuid} {history history' : List RecordCall}

/-- The calls for other vendors record nothing for the pair. -/
theorem countP_attests_callsFor : history.countP (RecordCall.attests (vendorId, anchorId)) =
    (callsFor vendorId history).countP (RecordCall.attests (vendorId, anchorId)) := by
  rw [callsFor, List.countP_filter]
  refine List.countP_congr fun call _ => ?_
  cases call with
  | recordAttestation v a =>
    simp only [RecordCall.attests, RecordCall.vendorId, Prod.mk_inj, decide_eq_true_eq,
      Bool.and_eq_true]
    exact ⟨fun h => ⟨h, decide_eq_true h.1⟩, fun h => h.1⟩
  | recordRepayment v a amount onTime => simp [RecordCall.attests]

theorem filterMap_repayment?_callsFor :
    history.filterMap (RecordCall.repayment? (vendorId, anchorId)) =
      (callsFor vendorId history).filterMap (RecordCall.repayment? (vendorId, anchorId)) := by
  rw [callsFor, List.filterMap_filter]
  congr 1
  funext call
  cases call with
  | recordAttestation v a => simp [RecordCall.repayment?]
  | recordRepayment v a amount onTime =>
    by_cases hv : v = vendorId
    · simp [RecordCall.vendorId, hv]
    · simp [RecordCall.repayment?, RecordCall.vendorId, hv]

theorem shown_eq (now : Int) : shown history vendorId anchorId now =
    .ok ((componentsAfter history (vendorId, anchorId)).total,
      componentsAfter history (vendorId, anchorId)) := by
  rw [shown, computeTrustScore_after]
  rfl

/-- Of a score only the penalty depends on the other vendors. -/
theorem shown_eq_iff (hcalls : callsFor vendorId history = callsFor vendorId history') (now : Int) :
    shown history vendorId anchorId now = shown history' vendorId anchorId now ↔
      history.countP RecordCall.isAttestation = history'.countP RecordCall.isAttestation ∨
        2 * history.countP (RecordCall.attests (vendorId, anchorId)) ≤
          history.countP RecordCall.isAttestation ∧
        2 * history'.countP (RecordCall.attests (vendorId, anchorId)) ≤
          history'.countP RecordCall.isAttestation := by
  have hcount : history.countP (RecordCall.attests (vendorId, anchorId)) =
      history'.countP (RecordCall.attests (vendorId, anchorId)) := by
    rw [countP_attests_callsFor, hcalls, ← countP_attests_callsFor]
  have hrepayments : history.filterMap (RecordCall.repayment? (vendorId, anchorId)) =
      history'.filterMap (RecordCall.repayment? (vendorId, anchorId)) := by
    rw [filterMap_repayment?_callsFor, hcalls, ← filterMap_repayment?_callsFor]
  have hle := countP_attests_le history (vendorId, anchorId)
  have hle' := countP_attests_le history' (vendorId, anchorId)
  rw [← hcount] at hle' ⊢
  rw [← concentrationPenalty_eq_iff hle hle', shown_eq, shown_eq, Except.ok.injEq]
  unfold componentsAfter
  rw [← hcount, ← hrepayments]
  constructor
  · intro hsame
    exact congrArg (·.2.concentrationPenalty) hsame
  · intro hpenalty
    simp only [components, hpenalty]

end Histories

/-- **A vendor's scores are the same after two histories** with the same calls for the vendor
exactly if these hold equally many attestations, or no anchor has attested the vendor in more
than half of all attestations. -/
theorem shown_eq_iff_unconcentrated (vendorId : Uuid) (history history' : List RecordCall)
    (hcalls : callsFor vendorId history = callsFor vendorId history') :
    (∀ anchorId now, shown history vendorId anchorId now = shown history' vendorId anchorId now) ↔
      history.countP RecordCall.isAttestation = history'.countP RecordCall.isAttestation ∨
        Unconcentrated vendorId history ∧ Unconcentrated vendorId history' := by
  simp only [shown_eq_iff hcalls, Unconcentrated]
  constructor
  · intro hsame
    by_cases htotal : history.countP RecordCall.isAttestation =
        history'.countP RecordCall.isAttestation
    · exact .inl htotal
    · exact .inr ⟨fun anchorId => ((hsame anchorId 0).resolve_left htotal).1,
        fun anchorId => ((hsame anchorId 0).resolve_left htotal).2⟩
  · rintro (htotal | ⟨hlow, hlow'⟩) anchorId -
    · exact .inl htotal
    · exact .inr ⟨hlow anchorId, hlow' anchorId⟩

/-! One attestation of the vendor, and then one of another vendor. -/

def alone : List RecordCall := [.recordAttestation ⟨1⟩ ⟨10⟩]

def besideAnother : List RecordCall := alone ++ [.recordAttestation ⟨2⟩ ⟨20⟩]

theorem shown_eq_iff_unconcentrated_alone :
    callsFor ⟨1⟩ alone = callsFor ⟨1⟩ besideAnother ∧
    ((∀ anchorId now, shown alone ⟨1⟩ anchorId now = shown besideAnother ⟨1⟩ anchorId now) ↔
      alone.countP RecordCall.isAttestation = besideAnother.countP RecordCall.isAttestation ∨
        Unconcentrated ⟨1⟩ alone ∧ Unconcentrated ⟨1⟩ besideAnother) :=
  ⟨rfl, shown_eq_iff_unconcentrated ⟨1⟩ alone besideAnother rfl⟩

/-- The other vendor's attestation raises the vendor's score. -/
theorem besideAnother_differs : callsFor ⟨1⟩ alone = callsFor ⟨1⟩ besideAnother ∧
    ¬ ∀ anchorId now, shown alone ⟨1⟩ anchorId now = shown besideAnother ⟨1⟩ anchorId now := by
  refine ⟨rfl, fun hsame => ?_⟩
  have hpenalty := congrArg (fun r => r.toOption.map (·.2.concentrationPenalty)) (hsame ⟨10⟩ 0)
  exact absurd hpenalty (by decide +kernel)

end OcenPlatform.TrustGraph
