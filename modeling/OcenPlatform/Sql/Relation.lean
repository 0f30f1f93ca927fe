import Mathlib.Algebra.BigOperators.Group.List.Basic
import Mathlib.Algebra.Group.WithOne.Defs
import Mathlib.Algebra.GroupWithZero.Nat
import Mathlib.Data.List.Dedup

/-! SQL over tables as lists of rows: joins, grouping and aggregates. A column is a function of
the row, null is `none`, and the order of the rows means nothing. -/

namespace OcenPlatform.Sql

variable {α β κ ρ σ : Type}

/-! ## Operators -/

/-- `a = b`, as a condition: a null is equal to nothing. -/
def eq [DecidableEq α] (a b : Option α) : Bool := a.isSome && a = b

/-- `left join right on ...`. -/
def leftJoin (on : ρ → σ → Bool) (left : List ρ) (right : List σ) : List (ρ × Option σ) :=
  left.flatMap fun l =>
    match right.filter (on l) with
    | [] => [(l, none)]
    | matching => matching.map fun r => (l, some r)

/-- `group by key`: nulls are one group. -/
def groupBy [DecidableEq κ] (key : ρ → κ) (rows : List ρ) : List (κ × List ρ) :=
  (rows.map key).dedup.map fun k => (k, rows.filter fun r => key r = k)

/-- `sum(column)`: nulls do not count, and the sum of nothing else is null. -/
def sum [AddCommSemigroup α] (column : ρ → Option α) (rows : List ρ) : Option α :=
  List.sum (α := WithZero α) (rows.map column)

/-- `count(distinct column)`. -/
def countDistinct [DecidableEq α] (column : ρ → Option α) (rows : List ρ) : Nat :=
  (rows.filterMap column).dedup.length

/-- `min(column)`. -/
def minimum [Min α] (column : ρ → Option α) (rows : List ρ) : Option α := (rows.filterMap column).min?

/-- `max(column)`. -/
def maximum [Max α] (column : ρ → Option α) (rows : List ρ) : Option α := (rows.filterMap column).max?

/-! ## Left joins -/

section LeftJoin

variable {on : ρ → σ → Bool} {l : ρ} {left : List ρ} {right : List σ}

theorem leftJoin_cons : leftJoin on (l :: left) right =
    leftJoin on [l] right ++ leftJoin on left right := by
  simp [leftJoin]

/-- A row meets each of its matches, and null if it has none. -/
theorem leftJoin_singleton_length :
    (leftJoin on [l] right).length = Nat.max 1 (right.countP (on l)) := by
  rw [List.countP_eq_length_filter]
  simp only [leftJoin, List.flatMap_singleton]
  split
  · rename_i h
    simp [h]
  · rename_i matching h
    rw [List.length_map]
    exact (Nat.max_eq_right (List.length_pos_iff.mpr h)).symm

theorem leftJoin_singleton (h : right.countP (on l) ≤ 1) :
    leftJoin on [l] right = [(l, right.find? (on l))] := by
  rw [List.countP_eq_length_filter] at h
  simp only [leftJoin, List.flatMap_singleton, ← List.head?_filter]
  split
  · rename_i hnone
    simp [hnone]
  · rename_i matching hsome
    obtain ⟨r, hr⟩ := List.length_eq_one_iff.mp (Nat.le_antisymm h (List.length_pos_iff.mpr hsome))
    simp [hr]

/-- Where no row has two matches, the join adds a column. -/
theorem leftJoin_eq_map (h : ∀ l ∈ left, right.countP (on l) ≤ 1) :
    leftJoin on left right = left.map fun l => (l, right.find? (on l)) := by
  induction left with
  | nil => rfl
  | cons l left ih =>
    rw [leftJoin_cons, leftJoin_singleton (h l (.head _)), ih fun l' hl' => h l' (.tail _ hl')]
    rfl

theorem length_le_leftJoin : left.length ≤ (leftJoin on left right).length := by
  induction left with
  | nil => exact Nat.zero_le _
  | cons l left ih =>
    rw [leftJoin_cons, List.length_append, leftJoin_singleton_length, List.length_cons]
    have hone : 1 ≤ Nat.max 1 (right.countP (on l)) := Nat.le_max_left ..
    omega

/-- A left join keeps the number of rows exactly if no row has two matches. -/
theorem length_leftJoin_iff : (leftJoin on left right).length = left.length ↔
    ∀ l ∈ left, right.countP (on l) ≤ 1 := by
  refine ⟨fun h => ?_, fun h => by rw [leftJoin_eq_map h, List.length_map]⟩
  induction left with
  | nil => exact fun l hl => absurd hl List.not_mem_nil
  | cons l left ih =>
    rw [leftJoin_cons, List.length_append, leftJoin_singleton_length, List.length_cons] at h
    have hone : 1 ≤ Nat.max 1 (right.countP (on l)) := Nat.le_max_left ..
    have hcount : right.countP (on l) ≤ Nat.max 1 (right.countP (on l)) := Nat.le_max_right ..
    have hrest : left.length ≤ (leftJoin on left right).length := length_le_leftJoin
    rintro l' (_ | ⟨_, hl'⟩)
    · omega
    · exact ih (by omega) l' hl'

end LeftJoin

/-! ## Groups -/

section GroupBy

variable [DecidableEq κ] {key : ρ → κ} {rows : List ρ} {g : κ × List ρ}

theorem map_fst_groupBy : (groupBy key rows).map Prod.fst = (rows.map key).dedup := by
  simp [groupBy, Function.comp_def]

theorem nodup_groupBy : ((groupBy key rows).map Prod.fst).Nodup := by
  rw [map_fst_groupBy]
  exact List.nodup_dedup _

theorem mem_map_fst_groupBy {k : κ} : k ∈ (groupBy key rows).map Prod.fst ↔ k ∈ rows.map key := by
  rw [map_fst_groupBy, List.mem_dedup]

/-- A group holds all rows with its key. -/
theorem rows_of_mem_groupBy (h : g ∈ groupBy key rows) : g.2 = rows.filter fun r => key r = g.1 := by
  obtain ⟨k, -, rfl⟩ := List.mem_map.mp h
  rfl

theorem dedup_filter (p : κ → Bool) (ks : List κ) : (ks.filter p).dedup = ks.dedup.filter p := by
  induction ks with
  | nil => rfl
  | cons k ks ih =>
    rw [List.dedup_cons]
    by_cases hp : p k
    · rw [List.filter_cons_of_pos hp, List.dedup_cons, ih]
      simp only [List.mem_filter, hp, and_true]
      split
      · rfl
      · rw [List.filter_cons_of_pos hp]
    · rw [List.filter_cons_of_neg hp, ih]
      split
      · rfl
      · rw [List.filter_cons_of_neg hp]

/-- The groups of some keys are the groups of the rows with these keys. -/
theorem groupBy_filter (p : κ → Bool) : groupBy key (rows.filter fun r => p (key r)) =
    (groupBy key rows).filter fun g => p g.1 := by
  have hkeys : (rows.filter fun r => p (key r)).map key = (rows.map key).filter p := by
    rw [List.filter_map]
    rfl
  unfold groupBy
  rw [hkeys, dedup_filter, List.filter_map]
  refine List.map_congr_left fun k hk => ?_
  have hp : p k := (List.mem_filter.mp hk).2
  refine Prod.ext rfl ?_
  rw [List.filter_filter]
  refine List.filter_congr fun r _ => ?_
  by_cases hr : key r = k
  · simp [hr, hp]
  · simp [hr]

/-- Rows that are computed from others are grouped as these are. -/
theorem groupBy_map (key : σ → κ) (f : ρ → σ) :
    groupBy key (rows.map f) = (groupBy (fun r => key (f r)) rows).map fun g => (g.1, g.2.map f) := by
  unfold groupBy
  rw [List.map_map, List.map_map]
  refine List.map_congr_left fun k _ => Prod.ext rfl ?_
  simp only [Function.comp_apply, List.filter_map]
  rfl

variable (key) in
/-- A key that determines another one, and is determined by it, groups the rows as it does. -/
theorem groupBy_injective [DecidableEq β] {f : κ → β} (hf : Function.Injective f) :
    groupBy (fun r => f (key r)) rows = (groupBy key rows).map fun g => (f g.1, g.2) := by
  have hkeys : rows.map (fun r => f (key r)) = (rows.map key).map f := List.map_map.symm
  unfold groupBy
  rw [hkeys, List.dedup_map_of_injective hf, List.map_map, List.map_map]
  refine List.map_congr_left fun k _ => Prod.ext rfl (List.filter_congr fun r _ => ?_)
  simp only [hf.eq_iff]

section Sum

variable [AddCommMonoid α]

theorem sum_ite_add {k : κ} {ks : List κ} (hks : ks.Nodup) (hk : k ∈ ks) (a : α) (f : κ → α) :
    (ks.map fun k' => if k = k' then a + f k' else f k').sum = a + (ks.map f).sum := by
  induction ks with
  | nil => cases hk
  | cons k' ks ih =>
    obtain ⟨hnew, hks⟩ := List.nodup_cons.mp hks
    rw [List.map_cons, List.sum_cons, List.map_cons, List.sum_cons]
    by_cases hkk : k = k'
    · subst hkk
      have hrest : (ks.map fun k' => if k = k' then a + f k' else f k') = ks.map f :=
        List.map_congr_left fun k' hk' => if_neg (by rintro rfl; exact hnew hk')
      rw [if_pos rfl, hrest, add_assoc]
    · rw [if_neg hkk, ih hks ((List.mem_cons.mp hk).resolve_left hkk), add_left_comm]

theorem sum_filter_keys (f : ρ → α) {ks : List κ} (hks : ks.Nodup) (hkeys : ∀ r ∈ rows, key r ∈ ks) :
    (ks.map fun k => ((rows.filter fun r => key r = k).map f).sum).sum = (rows.map f).sum := by
  induction rows with
  | nil => simp
  | cons r rows ih =>
    have hrow : ∀ k, (((r :: rows).filter fun r => key r = k).map f).sum =
        if key r = k then f r + ((rows.filter fun r => key r = k).map f).sum
        else ((rows.filter fun r => key r = k).map f).sum := by
      intro k
      by_cases hk : key r = k
      · simp [hk]
      · simp [hk]
    simp only [hrow]
    rw [sum_ite_add hks (hkeys r (.head _)), ih fun r' hr' => hkeys r' (.tail _ hr'), List.map_cons,
      List.sum_cons]

/-- **A sum over the rows, group by group.** -/
theorem sum_groupBy (f : ρ → α) :
    ((groupBy key rows).map fun g => (g.2.map f).sum).sum = (rows.map f).sum := by
  unfold groupBy
  rw [List.map_map]
  exact sum_filter_keys f (List.nodup_dedup _) fun r hr => List.mem_dedup.mpr (List.mem_map_of_mem hr)

end Sum

variable (key) in
/-- The sums of the groups with some keys add up to the sum over the rows with these keys. -/
theorem sum_groups [AddCommSemigroup α] (column : ρ → Option α) (p : κ → Bool) :
    sum (fun g => sum column g.2) ((groupBy key rows).filter fun g => p g.1) =
      sum column (rows.filter fun r => p (key r)) := by
  rw [← groupBy_filter]
  exact sum_groupBy (α := WithZero α) column

variable (key) in
theorem sum_countP (q : ρ → Bool) (p : κ → Bool) :
    (((groupBy key rows).filter fun g => p g.1).map fun g => g.2.countP q).sum =
      (rows.filter fun r => p (key r)).countP q := by
  have hcount : ∀ rows : List ρ, rows.countP q = (rows.map fun r => if q r then 1 else 0).sum := by
    intro rows
    induction rows with
    | nil => rfl
    | cons r rows ih => simp [List.countP_cons, ih, Nat.add_comm]
  simp only [hcount]
  rw [← groupBy_filter]
  exact sum_groupBy _

end GroupBy

/-! ## Aggregates -/

section Aggregates

variable {rows : List ρ}

theorem sum_map [AddCommSemigroup α] (column : σ → Option α) (f : ρ → σ) (rows : List ρ) :
    sum column (rows.map f) = sum (fun r => column (f r)) rows :=
  congrArg (List.sum (α := WithZero α)) List.map_map

theorem sum_perm [AddCommSemigroup α] {rows' : List ρ} (column : ρ → Option α) (h : rows.Perm rows') :
    sum column rows = sum column rows' :=
  List.Perm.sum_eq (M := WithZero α) (h.map column)

theorem sum_cons [AddCommSemigroup α] (column : ρ → Option α) (row : ρ) (rows : List ρ) :
    sum column (row :: rows) = Add.add (α := WithZero α) (column row) (sum column rows) := rfl

theorem sum_cons_none [AddCommSemigroup α] {column : ρ → Option α} {row : ρ} (h : column row = none) :
    sum column (row :: rows) = sum column rows := by
  rw [sum_cons, h]
  exact zero_add (M := WithZero α) _

theorem sum_cons_some [AddCommSemigroup α] {column : ρ → Option α} {row : ρ} {a : α}
    (h : column row = some a) :
    sum column (row :: rows) = some (((sum column rows).map (a + ·)).getD a) := by
  rw [sum_cons, h]
  cases sum column rows with
  | none => exact add_zero (M := WithZero α) _
  | some b => rfl

/-- The sum is null if there is nothing to add. -/
theorem sum_eq_none_iff [AddCommSemigroup α] {column : ρ → Option α} :
    sum column rows = none ↔ rows.countP (fun r => (column r).isSome) = 0 := by
  induction rows with
  | nil => exact ⟨fun _ => rfl, fun _ => rfl⟩
  | cons row rows ih =>
    cases hrow : column row with
    | none => rw [sum_cons_none hrow, ih, List.countP_cons_of_neg (by simp [hrow])]
    | some a =>
      rw [sum_cons_some hrow, List.countP_cons_of_pos (by simp [hrow])]
      exact ⟨nofun, nofun⟩

/-- The values count, not how often they occur. -/
theorem countDistinct_congr [DecidableEq α] {column : ρ → Option α} {column' : σ → Option α}
    {rows' : List σ} (h : ∀ a, (∃ r ∈ rows, column r = some a) ↔ ∃ r ∈ rows', column' r = some a) :
    countDistinct column rows = countDistinct column' rows' := by
  refine ((List.perm_ext_iff_of_nodup (List.nodup_dedup _) (List.nodup_dedup _)).mpr fun a => ?_).length_eq
  rw [List.mem_dedup, List.mem_dedup, List.mem_filterMap, List.mem_filterMap]
  exact h a

end Aggregates

end OcenPlatform.Sql
