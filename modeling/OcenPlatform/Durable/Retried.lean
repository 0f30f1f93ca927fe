import OcenPlatform.Durable.Interleaving

/-! An activity that works on a shared state in turns, with its attempts. An attempt that raises or
is lost leaves nothing behind of its own state and is followed by another, up to the policy's
maximum. -/

namespace OcenPlatform.Durable

variable {α σ R : Type}

/-- The code of an attempt. What it leaves by is a value or an exception. -/
structure Activity (α σ R : Type) where
  first : α
  act : α → σ → α × σ
  outcome : α → Option (Except String R)
  maximumAttempts : Nat

/-- `used` attempts have been started; `turns` counts the turns of all of them. -/
structure Retried (α R : Type) where
  attempt : α
  turns : Nat := 0
  used : Nat := 1
  result : Option (Except String R) := none

namespace Retried

variable (T : Activity α σ R) (lost : Nat → Bool)

def start : Retried α R := { attempt := T.first }

/-- The attempt is over without a result. -/
def retire (s : Retried α R) (error : String) : Retried α R :=
  if s.used < T.maximumAttempts then
    { s with attempt := T.first, turns := s.turns + 1, used := s.used + 1 }
  else
    { s with turns := s.turns + 1, result := some (.error error) }

/-- A turn, if the attempt is not lost before it. -/
def act (s : Retried α R) (c : σ) : Retried α R × σ :=
  if s.result.isSome then (s, c)
  else if lost s.turns then (s.retire T "TimeoutError", c)
  else
    match T.outcome s.attempt with
    | some (.ok r) => ({ s with turns := s.turns + 1, result := some (.ok r) }, c)
    | some (.error e) => (s.retire T e, c)
    | none =>
      ({ s with turns := s.turns + 1, attempt := (T.act s.attempt c).1 }, (T.act s.attempt c).2)

variable {T lost}

variable (T lost) in
/-- **What a turn can do.** -/
theorem act_cases (s : Retried α R) (c : σ) :
    (act T lost s c = (s, c) ∧ s.result.isSome = true) ∨
    (∃ e, act T lost s c = (s.retire T e, c)) ∨
    (∃ r, T.outcome s.attempt = some (.ok r) ∧
      act T lost s c = ({ s with turns := s.turns + 1, result := some (.ok r) }, c)) ∨
    (s.result = none ∧ T.outcome s.attempt = none ∧ act T lost s c =
      ({ s with turns := s.turns + 1, attempt := (T.act s.attempt c).1 }, (T.act s.attempt c).2)) := by
  unfold act
  split
  · rename_i hresult
    exact .inl ⟨rfl, hresult⟩
  rename_i hresult
  split
  · exact .inr (.inl ⟨_, rfl⟩)
  cases houtcome : T.outcome s.attempt with
  | none => exact .inr (.inr (.inr ⟨by simpa using hresult, rfl, rfl⟩))
  | some outcome =>
    cases outcome with
    | ok r => exact .inr (.inr (.inl ⟨r, rfl, rfl⟩))
    | error e => exact .inr (.inl ⟨e, rfl⟩)

/-- The shared state changes as in a turn of the attempt, or not at all. -/
theorem act_shared (rel : σ → σ → Prop) (hrefl : ∀ c, rel c c) (hact : ∀ a c, rel c (T.act a c).2)
    (s : Retried α R) (c : σ) : rel c (act T lost s c).2 := by
  rcases act_cases T lost s c with
    ⟨h, -⟩ | ⟨e, h⟩ | ⟨r, -, h⟩ | ⟨-, -, h⟩ <;> rw [h]
  · exact hrefl c
  · exact hrefl c
  · exact hrefl c
  · exact hact _ c

/-- What holds of the attempts, and of the results that they leave by. -/
structure Holds (P : α → Prop) (Q : R → Prop) (s : Retried α R) : Prop where
  attempt : P s.attempt
  result : ∀ r, s.result = some (.ok r) → Q r

variable {P P' : α → Prop} {Q Q' : R → Prop} {s : Retried α R} {c : σ}

theorem Holds.imp (h : Holds P Q s) (hP : ∀ a, P a → P' a) (hQ : ∀ r, Q r → Q' r) :
    Holds P' Q' s :=
  ⟨hP _ h.attempt, fun r hr => hQ r (h.result r hr)⟩

theorem holds_start (h : P T.first) : Holds P Q (start T) where
  attempt := h
  result r hr := by cases hr

/-- **Step lemma**: what the turns of an attempt keep, and what its value says, is kept over all
attempts. -/
theorem Holds.act (P' : σ → α → Prop) (Q' : σ → R → Prop) (h : Holds P Q s)
    (hfirst : P' c T.first) (hsame : ∀ a, P a → P' c a)
    (hact : ∀ a, P a → T.outcome a = none → P' (T.act a c).2 (T.act a c).1)
    (hok : ∀ a r, P a → T.outcome a = some (.ok r) → Q' c r) (hQ : ∀ r, Q r → Q' c r) :
    Holds (P' (act T lost s c).2) (Q' (act T lost s c).2) (act T lost s c).1 := by
  rcases act_cases T lost s c with
    ⟨heq, -⟩ | ⟨e, heq⟩ | ⟨r, houtcome, heq⟩ | ⟨hresult, houtcome, heq⟩ <;> rw [heq]
  · exact h.imp hsame hQ
  · unfold retire
    split
    · exact ⟨hfirst, fun r hr => hQ r (h.result r hr)⟩
    · exact ⟨hsame _ h.attempt, fun r hr => by cases hr⟩
  · refine ⟨hsame _ h.attempt, fun r' hr => ?_⟩
    obtain rfl := Except.ok.inj (Option.some.inj hr)
    exact hok _ _ h.attempt houtcome
  · refine ⟨hact _ h.attempt houtcome, fun r hr => ?_⟩
    rw [hresult] at hr
    cases hr

end Retried

end OcenPlatform.Durable
