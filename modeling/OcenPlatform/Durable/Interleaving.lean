import Mathlib.Data.List.Induction
import Mathlib.Logic.Function.Basic

/-! Interleavings: parties that take turns at a shared state, each with a local state of its
own, in the order of a schedule. -/

namespace OcenPlatform.Durable.Interleaving

variable {ι α σ : Type} [DecidableEq ι]

structure State (ι α σ : Type) where
  locals : ι → α
  shared : σ

variable (act : ι → α → σ → α × σ)

/-- A turn of the party `i`. -/
def turn (s : State ι α σ) (i : ι) : State ι α σ where
  locals := Function.update s.locals i (act i (s.locals i) s.shared).1
  shared := (act i (s.locals i) s.shared).2

def run (s : State ι α σ) (schedule : List ι) : State ι α σ := schedule.foldl (turn act) s

variable {act} {s : State ι α σ} {i j : ι}

theorem turn_locals_self : (turn act s i).locals i = (act i (s.locals i) s.shared).1 :=
  Function.update_self ..

/-- **Frame.** The others keep their local states. -/
theorem turn_locals_ne (h : j ≠ i) : (turn act s i).locals j = s.locals j :=
  Function.update_of_ne h ..

@[simp] theorem run_nil : run act s [] = s := rfl

@[simp] theorem run_cons (i : ι) (schedule : List ι) :
    run act s (i :: schedule) = run act (turn act s i) schedule := rfl

/-- **Run lemma.** -/
theorem run_inv {P : State ι α σ → Prop} (hturn : ∀ s i, P s → P (turn act s i)) (hs : P s)
    (schedule : List ι) : P (run act s schedule) := by
  induction schedule generalizing s with
  | nil => exact hs
  | cons i schedule ih => exact ih (hturn s i hs)

/-- An invariant of a turn from what a turn does to the party whose turn it is and to the
shared state. -/
theorem locals_inv {P : ι → α → σ → Prop} (hact : ∀ i a c, P i a c → P i (act i a c).1 (act i a c).2)
    (hframe : ∀ i j a b c, i ≠ j → P i a c → P j b c → P j b (act i a c).2)
    (hs : ∀ j, P j (s.locals j) s.shared) (schedule : List ι) (j : ι) :
    P j ((run act s schedule).locals j) (run act s schedule).shared := by
  refine run_inv (P := fun s => ∀ j, P j (s.locals j) s.shared) (fun s i h j => ?_) hs schedule j
  by_cases hj : j = i
  · subst hj
    rw [turn_locals_self]
    exact hact j _ _ (h j)
  · rw [turn_locals_ne hj]
    exact hframe i j _ _ _ (Ne.symm hj) (h i) (h j)

theorem run_append (schedule schedule' : List ι) :
    run act s (schedule ++ schedule') = run act (run act s schedule) schedule' :=
  List.foldl_append

theorem run_snoc (schedule : List ι) (i : ι) :
    run act s (schedule ++ [i]) = turn act (run act s schedule) i := by
  rw [run_append]
  rfl

/-- A party without a turn keeps its local state. -/
theorem run_locals_of_notMem {schedule : List ι} (h : i ∉ schedule) :
    (run act s schedule).locals i = s.locals i := by
  induction schedule generalizing s with
  | nil => rfl
  | cons j schedule ih =>
    obtain ⟨hij, hrest⟩ := not_or.mp (mt List.mem_cons.mpr h)
    rw [run_cons, ih hrest, turn_locals_ne hij]

/-- What every turn does to the shared state, a run does. -/
theorem run_shared {R : σ → σ → Prop} (hrefl : ∀ c, R c c) (htrans : ∀ c d e, R c d → R d e → R c e)
    (hact : ∀ i a c, R c (act i a c).2) (schedule : List ι) : R s.shared (run act s schedule).shared := by
  induction schedule generalizing s with
  | nil => exact hrefl _
  | cons i schedule ih => exact htrans _ _ _ (hact i (s.locals i) s.shared) (ih (s := turn act s i))

/-- A turn of the party has found such a shared state. -/
def Seen (act : ι → α → σ → α × σ) (s : State ι α σ) (schedule : List ι) (i : ι) (P : σ → Prop) :
    Prop :=
  ∃ before after, schedule = before ++ i :: after ∧ P (run act s before).shared

theorem Seen.append {schedule : List ι} {P : σ → Prop} (h : Seen act s schedule i P)
    (schedule' : List ι) : Seen act s (schedule ++ schedule') i P := by
  obtain ⟨before, after, rfl, hP⟩ := h
  exact ⟨before, after ++ schedule', by simp, hP⟩

theorem Seen.imp {schedule : List ι} {P Q : σ → Prop} (h : Seen act s schedule i P)
    (hPQ : ∀ c, P c → Q c) : Seen act s schedule i Q := by
  obtain ⟨before, after, rfl, hP⟩ := h
  exact ⟨before, after, rfl, hPQ _ hP⟩

theorem seen_snoc {schedule : List ι} {P : σ → Prop} (h : P (run act s schedule).shared) :
    Seen act s (schedule ++ [i]) i P :=
  ⟨schedule, [], rfl, h⟩

/-- What it has found is in the past of the shared state. -/
theorem Seen.past {schedule : List ι} {P : σ → Prop} (h : Seen act s schedule i P) {R : σ → σ → Prop}
    (hrefl : ∀ c, R c c) (htrans : ∀ c d e, R c d → R d e → R c e) (hact : ∀ i a c, R c (act i a c).2) :
    Seen act s schedule i fun c => P c ∧ R c (run act s schedule).shared := by
  obtain ⟨before, after, rfl, hP⟩ := h
  refine ⟨before, after, rfl, hP, ?_⟩
  rw [run_append]
  exact run_shared hrefl htrans hact _

end OcenPlatform.Durable.Interleaving
