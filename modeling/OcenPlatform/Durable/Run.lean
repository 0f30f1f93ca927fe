import OcenPlatform.Durable.Calls

/-! One run of a process against a world that answers each call as it likes, whatever has been called
before. -/

namespace OcenPlatform.Durable

variable {C : Type} {Y : C → Type} {α β : Type}

/-- A call with its answer. -/
structure Answered (C : Type) (Y : C → Type) where
  call : C
  answer : Except String (Y call)

abbrev Answers (C : Type) (Y : C → Type) := List (Answered C Y) → (c : C) → Except String (Y c)

namespace Proc

variable (w : Answers C Y) (past : List (Answered C Y))

/-- The calls up to the end of the run, and its value or exception. -/
def run (w : Answers C Y) : List (Answered C Y) → Proc C Y α → List (Answered C Y) × Except String α
  | past, .done v => (past, .ok v)
  | past, .raise e => (past, .error e)
  | past, .call c next => run w (past ++ [⟨c, w past c⟩]) (next (w past c))

theorem run_ofExcept (e : Except String α) : (ofExcept e : Proc C Y α).run w past = (past, e) := by
  cases e <;> rfl

theorem run_ask (c : C) : (ask c : Proc C Y (Y c)).run w past = (past ++ [⟨c, w past c⟩], w past c) :=
  run_ofExcept w _ _

theorem run_tryBind (p : Proc C Y α) (f : Except String α → Proc C Y β) :
    (p.tryBind f).run w past = (f (p.run w past).2).run w (p.run w past).1 := by
  induction p generalizing past with
  | done v => rfl
  | raise e => rfl
  | call c next ih => exact ih _ _

theorem ofExcept_bind (e : Except String α) (f : α → Except String β) :
    (ofExcept e >>= fun v => ofExcept (f v) : Proc C Y β) = ofExcept (e >>= f) := by
  cases e <;> rfl

theorem bind_eq_tryBind (p : Proc C Y α) (f : α → Proc C Y β) :
    p >>= f = p.tryBind fun y => ofExcept y >>= f := by
  change p.bind f = _
  induction p with
  | done v => rfl
  | raise e => rfl
  | call c next ih => simp only [bind, tryBind, ih]

/-- What runs after a value. -/
theorem run_bind_ok {p : Proc C Y α} {v : α} {past' : List (Answered C Y)}
    (h : p.run w past = (past', .ok v)) (f : α → Proc C Y β) :
    (p >>= f).run w past = (f v).run w past' := by
  rw [bind_eq_tryBind, run_tryBind, h]
  rfl

end Proc

end OcenPlatform.Durable
