import Mathlib.Data.List.Induction
import OcenPlatform.Durable.Calls
import OcenPlatform.Durable.Worker

/-! Retries and calls with an effect. If no attempt starts after an earlier one has
made such a call, the calls that are made come from one attempt. -/

namespace OcenPlatform.Durable

variable {S A R G O W E σ : Type} {C : Type} {Y : C → Type}

/-- No attempt starts after an earlier one of the same kind has left an entry that
satisfies `made`. -/
def NoRetryAfter (kind : A → σ) (made : Entry W A C Y R E → Bool) (l : Log W A C Y R E) : Prop :=
  ∀ before w a after, l = before ++ .started w a :: after →
    ∀ a' c y, .called a' c y ∈ before → made (.called a' c y) = true → kind a' ≠ kind a

/-- The second entry starts an attempt after the call that the first one records. -/
def Entry.retries [DecidableEq σ] (kind : A → σ) (made : Entry W A C Y R E → Bool) :
    Entry W A C Y R E → Entry W A C Y R E → Bool
  | .called a' c y, .started _ a => made (.called a' c y) && kind a' = kind a
  | _, _ => false

theorem noRetryAfter_of_pairwise [DecidableEq σ] {kind : A → σ}
    {made : Entry W A C Y R E → Bool} {l : Log W A C Y R E}
    (h : l.Pairwise fun e e' => e.retries kind made e' = false) : NoRetryAfter kind made l := by
  rintro before w a after rfl a' c y hmem hmade
  have hpair := (List.pairwise_append.mp h).2.2 _ hmem _ (.head _)
  simpa [Entry.retries, hmade] using hpair

theorem EachEntry.pairwise {ι : Type} {Q : ι → ι → Prop} {l : List ι}
    (h : EachEntry (fun before e => ∀ e' ∈ before, Q e' e) l) : l.Pairwise Q := by
  induction l using List.reverseRecOn with
  | nil => exact .nil
  | append_singleton l e ih =>
    obtain ⟨hl, he⟩ := (eachEntry_snoc e).mp h
    rw [List.pairwise_append]
    exact ⟨ih hl, List.pairwise_singleton _ _, fun e' he' e'' he'' =>
      List.mem_singleton.mp he'' ▸ he e' he'⟩

theorem countP_le_one {ι : Type} {p : ι → Bool} {l : List ι}
    (h : l.Pairwise fun e e' => p e = true → p e' = true → False) : l.countP p ≤ 1 := by
  induction l with
  | nil => simp
  | cons e l ih =>
    obtain ⟨he, hl⟩ := List.pairwise_cons.mp h
    by_cases hp : p e = true
    · have hzero : l.countP p = 0 := List.countP_eq_zero.mpr fun e' he' => he e' he' hp
      simp [hp, hzero]
    · simpa [hp] using ih hl

section Coherent

variable {D : Deployment S A R G O W E C Y} {early : List G} {env : E}
  {x : World S A R G O W E C Y}

/-- An entry is recorded by an attempt of its activity. -/
theorem Coherent.called (hx : Coherent D early env x) {a : A} {c : C} {y : Except String (Y c)}
    (hmem : .called a c y ∈ x.log) : ∃ (w : W) (seg : Log W A C Y R E)
      (next : Except String (Y c) → Proc C Y R), Reaches a (D.code w a) seg (.call c next) := by
  obtain ⟨before, after, hlog⟩ := List.append_of_mem hmem
  obtain ⟨⟨w, next, start, seg, -, hseg⟩, -⟩ := hx.explained before _ after hlog
  exact ⟨w, seg, next, hseg⟩

/-- If no attempt of kind `k` starts after a call with an effect, such calls are related
as they are within one attempt. -/
theorem Coherent.pairwise_made (hx : Coherent D early env x) {kind : A → σ} {k : σ}
    {made : Entry W A C Y R E → Bool} {Q : Entry W A C Y R E → Entry W A C Y R E → Prop}
    (hcalled : ∀ e, made e = true → ∃ a c y, e = .called a c y)
    (hkind : ∀ a c y, .called a c y ∈ x.log → made (.called a c y) = true → kind a = k)
    (hseg : ∀ w a seg c next y, Reaches a (D.code w a) seg (.call c next) →
      made (.called a c y) = true → ∀ e ∈ seg, made e = true → Q e (.called a c y))
    (hretry : NoRetryAfter kind made x.log) :
    x.log.Pairwise fun e e' => made e = true → made e' = true → Q e e' := by
  apply EachEntry.pairwise
  intro before e after hlog e' he' hmade' hmade
  obtain ⟨a, c, y, rfl⟩ := hcalled e hmade
  obtain ⟨a', c', y', rfl⟩ := hcalled e' hmade'
  have ha : kind a = k := hkind a c y (by simp [hlog]) hmade
  have ha' : kind a' = k := hkind a' c' y' (by simp [hlog, he']) hmade'
  obtain ⟨⟨w, next, start, seg, rfl, hreaches⟩, -⟩ := hx.explained before _ after hlog
  rcases List.mem_append.mp he' with hstart | hrest
  · -- An earlier attempt has made the first call.
    have hne := hretry start w a _ (hlog.trans (List.append_assoc _ _ _)) a' c' y' hstart hmade'
    exact absurd (ha'.trans ha.symm) hne
  · rcases List.mem_cons.mp hrest with heq | hin
    · cases heq
    · exact hseg w a seg c next y hreaches hmade _ hin hmade'

end Coherent

end OcenPlatform.Durable
