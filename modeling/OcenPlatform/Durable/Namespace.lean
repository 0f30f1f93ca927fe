import Mathlib.Data.List.Induction

/-! The runs of a namespace. A start is refused while a run with its id is open, and
only then: once that run has closed, the id can be used again. -/

namespace OcenPlatform.Durable.Namespace

variable {ι : Type} [DecidableEq ι]

inductive Op (ι : Type) where
  | start (id : ι)
  | close (id : ι)
  deriving DecidableEq

structure Run (ι : Type) where
  id : ι
  isOpen : Bool := true

/-- An open run has this id. -/
def hasOpen (id : ι) (runs : List (Run ι)) : Bool := runs.any fun r => r.id = id && r.isOpen

def step (runs : List (Run ι)) : Op ι → List (Run ι)
  | .start id => if hasOpen id runs then runs else runs ++ [{ id }]
  | .close id => runs.map fun r => if r.id = id then { r with isOpen := false } else r

def runsOf (ops : List (Op ι)) : List (Run ι) := ops.foldl step []

/-- How many runs with this id were started. -/
def started (id : ι) (ops : List (Op ι)) : Nat := (runsOf ops).countP fun r => r.id = id

/-- A run with this id has closed. -/
def Closed (id : ι) (ops : List (Op ι)) : Prop := ∃ r ∈ runsOf ops, r.id = id ∧ r.isOpen = false

/-- No start with this id comes after a run with it has closed. -/
def NoLateStart (id : ι) (ops : List (Op ι)) : Prop :=
  ∀ before after, ops = before ++ .start id :: after → ¬ Closed id before

section Runs

variable {id : ι} {ops : List (Op ι)}

theorem runsOf_snoc (ops : List (Op ι)) (op : Op ι) :
    runsOf (ops ++ [op]) = step (runsOf ops) op := by
  simp [runsOf]

theorem started_close (id' : ι) : started id (ops ++ [.close id']) = started id ops := by
  simp only [started, runsOf_snoc, step, List.countP_map]
  congr 1
  funext r
  simp only [Function.comp]
  split <;> rfl

theorem started_start_other {id' : ι} (h : id' ≠ id) :
    started id (ops ++ [.start id']) = started id ops := by
  simp only [started, runsOf_snoc, step]
  split
  · rfl
  · simp [List.countP_append, h]

theorem started_start : started id (ops ++ [.start id]) =
    if hasOpen id (runsOf ops) then started id ops else started id ops + 1 := by
  simp only [started, runsOf_snoc, step]
  split
  · rfl
  · simp [List.countP_append]

theorem started_le_append (id : ι) (ops ops' : List (Op ι)) :
    started id ops ≤ started id (ops ++ ops') := by
  induction ops' using List.reverseRecOn with
  | nil => simp
  | append_singleton ops' op ih =>
    rw [← List.append_assoc]
    apply Nat.le_trans ih
    cases op with
    | close id' => exact Nat.le_of_eq (started_close id').symm
    | start id' =>
      by_cases h : id' = id
      · subst h
        rw [started_start]
        split <;> omega
      · exact Nat.le_of_eq (started_start_other h).symm

/-- A run that has closed and one that is open are two runs. -/
theorem two_le_started (hclosed : Closed id ops) (hopen : hasOpen id (runsOf ops) = true) :
    2 ≤ started id ops := by
  obtain ⟨r, hr, hid, hshut⟩ := hclosed
  obtain ⟨r', hr', hid'⟩ := List.any_eq_true.mp hopen
  rw [Bool.and_eq_true, decide_eq_true_eq] at hid'
  rw [started, List.countP_eq_countP_filter_add _ _ Run.isOpen]
  have hone : 0 < (((runsOf ops).filter Run.isOpen).countP fun r => r.id = id) :=
    List.countP_pos_iff.mpr ⟨r', List.mem_filter.mpr ⟨hr', hid'.2⟩, by simpa using hid'.1⟩
  have hother : 0 < (((runsOf ops).filter fun r => !r.isOpen).countP fun r => r.id = id) :=
    List.countP_pos_iff.mpr ⟨r, List.mem_filter.mpr ⟨hr, by simp [hshut]⟩, by simpa using hid⟩
  omega

/-- A start after the close of a run makes a second one, if there is not one already. -/
theorem two_le_started_start (hclosed : Closed id ops) : 2 ≤ started id (ops ++ [.start id]) := by
  rw [started_start]
  split
  · rename_i hopen
    exact two_le_started hclosed hopen
  · obtain ⟨r, hr, hid, -⟩ := hclosed
    have hpos : 0 < started id ops := List.countP_pos_iff.mpr ⟨r, hr, by simpa using hid⟩
    omega

theorem NoLateStart.left {ops' : List (Op ι)} (h : NoLateStart id (ops ++ ops')) :
    NoLateStart id ops := by
  rintro before after rfl
  exact h before (after ++ ops') (by simp)

/-- At most one run with an id is started if and only if none is asked for after a run
with it has closed. -/
theorem started_le_one_iff : started id ops ≤ 1 ↔ NoLateStart id ops := by
  constructor
  · rintro hone before after rfl hclosed
    have htwo := two_le_started_start hclosed
    have hmono := started_le_append id (before ++ [.start id]) after
    rw [List.append_assoc, List.singleton_append] at hmono
    omega
  · intro hlate
    induction ops using List.reverseRecOn with
    | nil => simp [started, runsOf]
    | append_singleton ops op ih =>
      have hops := ih hlate.left
      cases op with
      | close id' => rwa [started_close]
      | start id' =>
        by_cases h : id' = id
        · subst h
          rw [started_start]
          split
          · exact hops
          · -- Nothing is open, and what was started has not closed: nothing was started.
            rename_i hopen
            have hnone : started id' ops = 0 := by
              refine List.countP_eq_zero.mpr fun r hr hid => ?_
              refine hlate ops [] rfl ⟨r, hr, by simpa using hid, ?_⟩
              have hr' := List.any_eq_false.mp (Bool.eq_false_iff.mpr hopen) r hr
              simpa [show r.id = id' by simpa using hid] using hr'
            omega
        · rwa [started_start_other h]

end Runs

end OcenPlatform.Durable.Namespace
