import Mathlib.Algebra.Order.Floor.Ring
import Mathlib.Algebra.Order.Ring.Rat
import Mathlib.Data.Rat.Floor
import Mathlib.Tactic.Linarith
import OcenPlatform.Sql.Relation

/-! PostgreSQL's `numeric`, and the casts of texts that a query makes. -/

namespace OcenPlatform.Sql

/-! ## `numeric` -/

inductive Numeric where
  | finite (q : Rat)
  | infinity
  | negInfinity
  | nan
  deriving DecidableEq, Repr

namespace Numeric

/-- The opposite infinities add up to NaN, as anything does with NaN. -/
def add : Numeric → Numeric → Numeric
  | .finite p, .finite q => .finite (p + q)
  | .nan, _ | _, .nan => .nan
  | .infinity, .negInfinity | .negInfinity, .infinity => .nan
  | .infinity, _ | _, .infinity => .infinity
  | .negInfinity, _ | _, .negInfinity => .negInfinity

instance : AddCommSemigroup Numeric where
  add := add
  add_assoc x y z := by
    cases x <;> cases y <;> cases z <;> first | rfl | exact congrArg finite (add_assoc ..)
  add_comm x y := by
    cases x <;> cases y <;> first | rfl | exact congrArg finite (add_comm ..)

end Numeric

/-- `round(q, digits)`: a half is rounded away from zero. -/
def round (q : Rat) (digits : Nat) : Rat :=
  let scaled := |q| * 10 ^ digits
  let rounded := (⌊scaled + 1 / 2⌋ : Rat) / 10 ^ digits
  if q < 0 then -rounded else rounded

example : round (-5 / 2) 0 = -3 := by decide +kernel

theorem round_of_nonneg {q : Rat} (h : 0 ≤ q) (digits : Nat) :
    round q digits = (⌊q * 10 ^ digits + 1 / 2⌋ : Rat) / 10 ^ digits := by
  simp only [round, abs_of_nonneg h, if_neg (not_lt.mpr h)]

theorem round_nonneg {q : Rat} (h : 0 ≤ q) (digits : Nat) : 0 ≤ round q digits := by
  have hfloor : (0 : Int) ≤ ⌊q * 10 ^ digits + 1 / 2⌋ := Int.floor_nonneg.mpr (by positivity)
  rw [round_of_nonneg h]
  exact div_nonneg (Int.cast_nonneg hfloor) (by positivity)

theorem round_le_round {p q : Rat} (hp : 0 ≤ p) (h : p ≤ q) (digits : Nat) :
    round p digits ≤ round q digits := by
  have hfloor : ⌊p * 10 ^ digits + 1 / 2⌋ ≤ ⌊q * 10 ^ digits + 1 / 2⌋ := Int.floor_le_floor (by gcongr)
  rw [round_of_nonneg hp, round_of_nonneg (hp.trans h)]
  gcongr

theorem round_natCast (n : Nat) : round n 0 = n := by
  have hfloor : ⌊(n : Rat) + 1 / 2⌋ = n := Int.floor_eq_iff.mpr ⟨by simp, by norm_num⟩
  rw [round_of_nonneg (Nat.cast_nonneg n), pow_zero, mul_one, div_one, hfloor]
  rfl

/-! ## The server -/

/-- What the queries ask of the server: the casts of texts, which may fail, and the division
of numerics, which rounds its result. -/
structure Postgres where
  int : String → Except String Int
  numeric : String → Except String Numeric
  div : Rat → Rat → Rat

/-- `text::type`: a null stays null. -/
def cast {α : Type} (type : String → Except String α) : Option String → Except String (Option α)
  | none => .ok none
  | some text => (type text).map some

/-- `avg(column)`, of numerics. -/
def avg {ρ : Type} (pg : Postgres) (column : ρ → Option Numeric) (rows : List ρ) : Option Numeric :=
  (sum column rows).map fun
    | .finite q => .finite (pg.div q (rows.countP fun r => (column r).isSome))
    | other => other

/-- `avg(column)`, of finite values. -/
def avgFinite {ρ : Type} (pg : Postgres) (column : ρ → Option Rat) (rows : List ρ) : Option Rat :=
  (sum column rows).map fun q => pg.div q (rows.countP fun r => (column r).isSome)

section Average

variable {ρ : Type} {pg : Postgres} {column : ρ → Option Rat} {rows rows' : List ρ} {row : ρ}

/-- The order of the rows means nothing. -/
theorem avgFinite_perm (h : rows.Perm rows') : avgFinite pg column rows = avgFinite pg column rows' := by
  rw [avgFinite, avgFinite, sum_perm column h, h.countP_eq]

/-- An average that is no larger than a bound stays so with a value that is not. -/
theorem avgFinite_cons_le (hdiv : ∀ p q, pg.div p q = p / q) {d bound : Rat}
    (hrow : column row = some d) (hd : d ≤ bound)
    (havg : ∀ a, avgFinite pg column rows = some a → a ≤ bound) :
    ∃ a, avgFinite pg column (row :: rows) = some a ∧ a ≤ bound := by
  have hcount : (row :: rows).countP (fun r => (column r).isSome) =
      rows.countP (fun r => (column r).isSome) + 1 := List.countP_cons_of_pos (by simp [hrow])
  rw [avgFinite, sum_cons_some hrow, hcount, Option.map_some]
  refine ⟨_, rfl, ?_⟩
  rw [hdiv, div_le_iff₀ (by positivity)]
  generalize hn : rows.countP (fun r => (column r).isSome) = n at hcount ⊢
  cases hsum : sum column rows with
  | none =>
    obtain rfl : n = 0 := hn.symm.trans (sum_eq_none_iff.mp hsum)
    simpa using hd
  | some q =>
    have hpos : n ≠ 0 := fun h => by simp [sum_eq_none_iff.mpr (hn.trans h)] at hsum
    have hq : q / n ≤ bound := havg (q / n) (by rw [avgFinite, hsum, hn, Option.map_some, hdiv])
    rw [div_le_iff₀ (by positivity)] at hq
    simp only [Option.map_some, Option.getD_some]
    push_cast
    linarith

end Average

/-! ## Reading a column of all rows -/

section Read

variable {ε α β : Type} {f : α → Except ε β} {a : α} {as : List α} {b : β} {bs : List β}

theorem mapM_cons_ok : (a :: as).mapM f = .ok bs ↔
    ∃ b rest, f a = .ok b ∧ as.mapM f = .ok rest ∧ bs = b :: rest := by
  rw [List.mapM_cons]
  cases f a with
  | error e => simp [bind, Except.bind]
  | ok b =>
    cases as.mapM f with
    | error e => simp [bind, Except.bind]
    | ok rest => simp [bind, Except.bind, pure, Except.pure, eq_comm]

/-- A column can be read exactly if it can be read in every row. -/
theorem exists_mapM_ok : (∃ bs, as.mapM f = .ok bs) ↔ ∀ a ∈ as, ∃ b, f a = .ok b := by
  induction as with
  | nil => simp [pure, Except.pure]
  | cons a as ih =>
    simp only [mapM_cons_ok, List.forall_mem_cons, ← ih]
    constructor
    · rintro ⟨_, b, rest, hb, hrest, rfl⟩
      exact ⟨⟨b, hb⟩, rest, hrest⟩
    · rintro ⟨⟨b, hb⟩, rest, hrest⟩
      exact ⟨_, b, rest, hb, hrest, rfl⟩

/-- What a row has unread stays in the row that is read from it. -/
theorem map_eq_of_mapM {γ : Type} {g : β → γ} {h : α → γ} (hrow : ∀ a b, f a = .ok b → g b = h a)
    (hok : as.mapM f = .ok bs) : bs.map g = as.map h := by
  induction as generalizing bs with
  | nil =>
    obtain rfl : bs = [] := by simpa [pure, Except.pure, eq_comm] using hok
    rfl
  | cons a as ih =>
    obtain ⟨b, rest, hb, hrest, rfl⟩ := mapM_cons_ok.mp hok
    rw [List.map_cons, List.map_cons, hrow a b hb, ih hrest]

end Read

end OcenPlatform.Sql
