import OcenPlatform.Durable.Hosting
import OcenPlatform.Durable.Namespace

/-! A host of runs as a namespace: a turn of the host asks for a start, or closes the runs that are
over after it, and the namespace of these operations has the runs of the host. -/

namespace OcenPlatform.Durable

open Namespace (Op)

variable {ι I S A R G O W E : Type} {C : Type} {Y : C → Type}

/-- What a start is decided by. -/
def Hosted.shown (r : Hosted ι I S A R G O W E C Y) : Namespace.Run ι where
  id := r.id
  isOpen := r.isOpen

namespace Host

/-- The runs that are over now and were not before. -/
def closings (l l' : List (Hosted ι I S A R G O W E C Y)) : List (Op ι) :=
  ((l.zip l').filter fun p => p.1.isOpen && !p.2.isOpen).map fun p => .close p.1.id

variable [DecidableEq ι] (D : I → Deployment S A R G O W E C Y)

/-- What a turn is to the namespace. -/
def opsOf (s : Host ι I S A R G O W E C Y) (t : Turn ι I G W E C Y) : List (Op ι) :=
  match t with
  | .start id _ => [.start id]
  | .signal _ _ => []
  | _ => closings s.runs (s.step D t).runs

def ops (s : Host ι I S A R G O W E C Y) : List (Turn ι I G W E C Y) → List (Op ι)
  | [] => []
  | t :: turns => s.opsOf D t ++ ops (s.step D t) turns

variable {D} {l l' : List (Hosted ι I S A R G O W E C Y)} {s : Host ι I S A R G O W E C Y}

theorem hasOpen_shown (id : ι) (l : List (Hosted ι I S A R G O W E C Y)) :
    Namespace.hasOpen id (l.map Hosted.shown) = hasOpen id l := by
  rw [Namespace.hasOpen, List.any_map]
  rfl

omit [DecidableEq ι] in
theorem closings_cons (r r' : Hosted ι I S A R G O W E C Y) :
    closings (r :: l) (r' :: l') =
      (if r.isOpen && !r'.isOpen then [.close r.id] else []) ++ closings l l' := by
  rw [closings, List.zip_cons_cons, List.filter_cons]
  split <;> rfl

omit [DecidableEq ι] in
theorem mem_closings {op : Op ι} (h : op ∈ closings l l') :
    ∃ r ∈ l, r.isOpen = true ∧ op = .close r.id := by
  obtain ⟨⟨r, r'⟩, hmem, rfl⟩ := List.mem_map.mp h
  obtain ⟨hzip, hopen⟩ := List.mem_filter.mp hmem
  exact ⟨r, (List.of_mem_zip hzip).1, (Bool.and_eq_true_iff.mp hopen).1, rfl⟩

/-- A run that is closed, or that is none of those that are closing, stays as it is. -/
theorem foldl_closings {v : Namespace.Run ι} {ops : List (Op ι)}
    (h : ∀ op ∈ ops, ∃ id, op = .close id ∧ (v.id = id → v.isOpen = false))
    (vs : List (Namespace.Run ι)) :
    ops.foldl Namespace.step (v :: vs) = v :: ops.foldl Namespace.step vs := by
  induction ops generalizing vs with
  | nil => rfl
  | cons op ops ih =>
    obtain ⟨id, rfl, hv⟩ := h op (.head _)
    have hsame : (if v.id = id then { v with isOpen := false } else v) = v := by
      split
      next hid => rw [← hv hid]
      next => rfl
    rw [List.foldl_cons, List.foldl_cons, Namespace.step, List.map_cons, hsame]
    exact ih (fun op hop => h op (.tail _ hop)) _

/-- Runs that go on are to the namespace runs of which some close. -/
theorem Onward.shown (h : Onward l l') (hlast : OpenLast l) :
    l'.map Hosted.shown = (closings l l').foldl Namespace.step (l.map Hosted.shown) := by
  induction h with
  | nil => rfl
  | @cons r r' l l' hkeeps _ ih =>
    rw [OpenLast, List.pairwise_cons] at hlast
    -- No run with the id of `r` closes after it: `r` would not be open before it.
    have hothers : ∀ op ∈ closings l l', ∃ id, op = .close id ∧
        (r'.shown.id = id → r'.shown.isOpen = false) := by
      intro op hop
      obtain ⟨r₀, hr₀, -, rfl⟩ := mem_closings hop
      exact ⟨r₀.id, rfl, fun hid => hkeeps.ended (hlast.1 r₀ hr₀ (hkeeps.id.symm.trans hid))⟩
    rw [closings_cons, List.foldl_append, List.map_cons, List.map_cons, ih hlast.2]
    by_cases hcloses : (r.isOpen && !r'.isOpen) = true
    · obtain ⟨hopen, hover⟩ := Bool.and_eq_true_iff.mp hcloses
      rw [Bool.not_eq_true'] at hover
      have hrest : (l.map Hosted.shown).map
          (fun v => if v.id = r.id then { v with isOpen := false } else v) = l.map Hosted.shown := by
        rw [List.map_map]
        refine List.map_congr_left fun r₀ hr₀ => if_neg fun hid => ?_
        rw [hlast.1 r₀ hr₀ hid.symm] at hopen
        cases hopen
      have hclosed : Namespace.step (r.shown :: l.map Hosted.shown) (.close r.id) =
          r'.shown :: l.map Hosted.shown := by
        rw [Namespace.step, List.map_cons, hrest]
        simp [Hosted.shown, hkeeps.id, hover]
      rw [if_pos hcloses, List.foldl_cons, List.foldl_nil, hclosed, foldl_closings hothers]
    · have hsame : r.shown = r'.shown := by
        have hended := hkeeps.ended
        rw [Hosted.shown, Hosted.shown, hkeeps.id]
        cases hopen : r.isOpen with
        | false => rw [hended hopen]
        | true => simpa [hopen] using hcloses
      rw [if_neg hcloses, List.foldl_nil, hsame, foldl_closings hothers]

/-- **Step lemma.** A turn of the host is to the namespace what it asks for. -/
theorem shown_step (hlast : OpenLast s.runs) (t : Turn ι I G W E C Y) :
    (s.step D t).runs.map Hosted.shown =
      (s.opsOf D t).foldl Namespace.step (s.runs.map Hosted.shown) := by
  cases t with
  | start id input =>
    simp only [opsOf, List.foldl_cons, List.foldl_nil, Namespace.step, hasOpen_shown, Host.step]
    split
    · rfl
    · rw [List.map_append]
      rfl
  | signal id g =>
    simp only [opsOf, List.foldl_nil, Host.step]
    split
    · rw [deliver, List.map_map]
      refine List.map_congr_left fun r _ => ?_
      simp only [Function.comp]
      split <;> rfl
    · rfl
  | activated i => exact (onward_modify (Hosted.keeps_activate s.env) s.runs i).shown hlast
  | happened i e =>
    refine Onward.shown ?_ hlast
    simp only [Host.step]
    split
    · exact onward_modify (Hosted.keeps_happen e) s.runs i
    · exact List.forall₂_same.mpr fun r _ => .refl r
  | envChanged env =>
    refine Onward.shown ?_ hlast
    exact List.forall₂_map_right_iff.mpr (List.forall₂_same.mpr fun r _ => Hosted.keeps_changeEnv env r)

/-- **Run lemma.** -/
theorem shown_foldl (hs : s.Sound D) (turns : List (Turn ι I G W E C Y)) :
    (turns.foldl (Host.step D) s).runs.map Hosted.shown =
      (s.ops D turns).foldl Namespace.step (s.runs.map Hosted.shown) := by
  induction turns generalizing s with
  | nil => rfl
  | cons t turns ih => rw [List.foldl_cons, ih (hs.step t), shown_step hs.last, ops, List.foldl_append]

/-- **The runs of a host are those of the namespace** of its starts and closings. -/
theorem shown_run (env : E) (turns : List (Turn ι I G W E C Y)) :
    (run D env turns).runs.map Hosted.shown = Namespace.runsOf (ops D { env } turns) :=
  shown_foldl (sound_start env) turns

/-- An id has a second run exactly if a start of it comes after its run has closed. -/
theorem countP_runs_le_one_iff (env : E) (turns : List (Turn ι I G W E C Y)) (id : ι) :
    ((run D env turns).runs.countP fun r => r.id = id) ≤ 1 ↔
      Namespace.NoLateStart id (ops D { env } turns) := by
  rw [← Namespace.started_le_one_iff, Namespace.started, ← shown_run, List.countP_map]
  rfl

end Host

end OcenPlatform.Durable
