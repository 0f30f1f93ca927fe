import Mathlib.Data.List.Sort
import Mathlib.Data.List.Nodup

/-! `ORDER BY … LIMIT … OFFSET …` under a unique key: a page has the rows whose rank, the
number of rows with smaller keys, lies in its range. Inserts only raise ranks. -/

namespace OcenPlatform.Db.Paging

variable {ρ κ : Type} [LinearOrder κ] (key : ρ → κ)

def orderBy (rows : List ρ) : List ρ := rows.insertionSort (key · ≤ key ·)

def page (limit offset : Nat) (rows : List ρ) : List ρ := ((orderBy key rows).drop offset).take limit

/-- How many rows come before the key. -/
def rank (rows : List ρ) (k : κ) : Nat := rows.countP (key · < k)

theorem orderBy_perm (rows : List ρ) : (orderBy key rows).Perm rows :=
  List.perm_insertionSort _ _

section Order

variable {key : ρ → κ} {rows : List ρ} {r : ρ}

theorem orderBy_pairwise (hunique : (rows.map key).Nodup) :
    (orderBy key rows).Pairwise fun r s => key r < key s := by
  have hsorted : (orderBy key rows).Pairwise fun r s => key r ≤ key s :=
    List.pairwise_insertionSort (fun r s => key r ≤ key s) rows
  have hne : (orderBy key rows).Pairwise fun r s => key r ≠ key s :=
    List.pairwise_map.mp (((orderBy_perm key rows).map key).nodup_iff.mpr hunique)
  exact hsorted.imp₂ (fun _ _ hle hne => lt_of_le_of_ne hle hne) hne

theorem rank_orderBy (k : κ) : rank key (orderBy key rows) k = rank key rows k :=
  (orderBy_perm key rows).countP_eq _

/-- In order, the rank of a row is its place. -/
theorem rank_getElem {sorted : List ρ} (h : sorted.Pairwise fun r s => key r < key s) {i : Nat}
    (hi : i < sorted.length) : rank key sorted (key sorted[i]) = i := by
  unfold rank
  induction sorted generalizing i with
  | nil => cases hi
  | cons r rows ih =>
    obtain ⟨hr, hrows⟩ := List.pairwise_cons.mp h
    cases i with
    | zero =>
      rw [List.getElem_cons_zero, List.countP_eq_zero]
      intro s hs
      rcases List.mem_cons.mp hs with rfl | hs
      · simp
      · simpa using (hr s hs).le
    | succ i =>
      have hi : i < rows.length := Nat.lt_of_succ_lt_succ hi
      have hlt : key r < key rows[i] := hr _ (List.getElem_mem hi)
      rw [List.getElem_cons_succ, List.countP_cons_of_pos (by simpa using hlt), ih hrows hi]

theorem mem_page_iff {limit offset : Nat} (hunique : (rows.map key).Nodup) :
    r ∈ page key limit offset rows ↔
      r ∈ rows ∧ offset ≤ rank key rows (key r) ∧ rank key rows (key r) < offset + limit := by
  have hsorted := orderBy_pairwise hunique
  rw [← (orderBy_perm key rows).mem_iff, ← rank_orderBy, page, List.mem_take_iff_getElem]
  constructor
  · rintro ⟨i, hi, rfl⟩
    rw [List.length_drop] at hi
    have hplace : offset + i < (orderBy key rows).length := by omega
    rw [List.getElem_drop, rank_getElem hsorted hplace]
    exact ⟨List.getElem_mem _, by omega, by omega⟩
  · rintro ⟨hmem, hlow, hhigh⟩
    obtain ⟨i, hi, rfl⟩ := List.getElem_of_mem hmem
    rw [rank_getElem hsorted hi] at hlow hhigh
    refine ⟨i - offset, ?_, ?_⟩
    · rw [List.length_drop]
      omega
    · simp [hlow]

/-- Past the last page, no row has such a rank. -/
theorem rank_lt_of_page_eq_nil {limit offset : Nat} (hlimit : 0 < limit)
    (h : page key limit offset rows = []) (hr : r ∈ rows) : rank key rows (key r) < offset := by
  have hlength : rows.length ≤ offset := by
    rcases List.take_eq_nil_iff.mp h with hzero | hdrop
    · omega
    · rw [← (orderBy_perm key rows).length_eq]
      exact List.drop_eq_nil_iff.mp hdrop
  refine Nat.lt_of_lt_of_le ?_ hlength
  refine Nat.lt_of_le_of_ne List.countP_le_length fun hall => ?_
  exact lt_irrefl _ (of_decide_eq_true (List.countP_eq_length.mp hall r hr))

/-- There is no page past the last row. -/
theorem page_eq_nil {limit offset : Nat} (h : rows.length ≤ offset) : page key limit offset rows = [] := by
  have hdrop : (orderBy key rows).drop offset = [] :=
    List.drop_eq_nil_iff.mpr ((orderBy_perm key rows).length_eq ▸ h)
  rw [page, hdrop, List.take_nil]

variable (key rows r) in
theorem rank_le_snoc (k : κ) : rank key rows k ≤ rank key (rows ++ [r]) k := by
  rw [rank, rank, List.countP_append]
  exact Nat.le_add_right _ _

/-- Ranks depend on the keys only. -/
theorem rank_congr {rows' : List ρ} (h : rows'.map key = rows.map key) (k : κ) :
    rank key rows' k = rank key rows k := by
  have hkeys : ∀ rows : List ρ, rank key rows k = (rows.map key).countP (· < k) := fun rows => by
    rw [List.countP_map]
    rfl
  rw [hkeys, hkeys, h]

end Order

end OcenPlatform.Db.Paging
