import Mathlib.Data.List.Nodup
import Mathlib.Data.List.Forall2

/-! Tables: rows that meet the constraints of their schema. A write that breaks one
is refused, and an update touches the rows that it selects and no others. -/

namespace OcenPlatform.Db

variable {ρ κ : Type}

/-- `UPDATE … SET f WHERE p`. -/
def updateWhere (p : ρ → Bool) (f : ρ → ρ) (rows : List ρ) : List ρ :=
  rows.map fun r => if p r then f r else r

@[ext] structure Table (ρ : Type) (Valid : List ρ → Prop) where
  rows : List ρ
  valid : Valid rows

/-- The rows after a write, if they meet the constraints. -/
def Table.write {Valid : List ρ → Prop} [DecidablePred Valid] (rows : List ρ) :
    Except String (Table ρ Valid) :=
  if h : Valid rows then .ok ⟨rows, h⟩ else .error "IntegrityError"

/-- `scalar_one_or_none()`. -/
def scalarOneOrNone : List ρ → Except String (Option ρ)
  | [] => .ok none
  | [r] => .ok (some r)
  | _ => .error "MultipleResultsFound"

section Write

variable {Valid : List ρ → Prop} [DecidablePred Valid] {rows : List ρ} {t : Table ρ Valid}

theorem write_ok : Table.write rows = .ok t ↔ t.rows = rows := by
  unfold Table.write
  constructor
  · intro h
    split at h
    · cases h
      rfl
    · cases h
  · rintro rfl
    rw [dif_pos t.valid]

theorem write_of_valid (h : Valid rows) : ∃ t : Table ρ Valid, Table.write rows = .ok t :=
  ⟨⟨rows, h⟩, write_ok.mpr rfl⟩

theorem write_of_not_valid (h : ¬ Valid rows) :
    (Table.write rows : Except String (Table ρ Valid)) = .error "IntegrityError" :=
  dif_neg h

end Write

section Update

variable {p : ρ → Bool} {f : ρ → ρ} {rows : List ρ} {r : ρ}

theorem updateWhere_congr {q : ρ → Bool} (h : ∀ r ∈ rows, p r = q r) :
    updateWhere p f rows = updateWhere q f rows :=
  List.map_congr_left fun r hr => by rw [h r hr]

@[simp] theorem length_updateWhere : (updateWhere p f rows).length = rows.length :=
  List.length_map _

theorem mem_updateWhere : r ∈ updateWhere p f rows ↔
    ∃ r₀ ∈ rows, (p r₀ = true ∧ r = f r₀) ∨ (p r₀ = false ∧ r = r₀) := by
  unfold updateWhere
  rw [List.mem_map]
  refine exists_congr fun r₀ => and_congr_right fun _ => ?_
  cases hp : p r₀ <;> simp [eq_comm]

/-- Every row stays at its place: selected rows are rewritten, all others are unchanged. -/
theorem forall₂_updateWhere (p : ρ → Bool) (f : ρ → ρ) (rows : List ρ) :
    List.Forall₂ (fun r r' => r' = if p r then f r else r) rows (updateWhere p f rows) := by
  induction rows with
  | nil => exact .nil
  | cons r rows ih => exact .cons rfl ih

/-- What `f` does not write is unchanged in all rows. -/
theorem map_updateWhere {g : ρ → κ} (h : ∀ r ∈ rows, p r = true → g (f r) = g r) :
    (updateWhere p f rows).map g = rows.map g := by
  unfold updateWhere
  rw [List.map_map]
  refine List.map_congr_left fun r hr => ?_
  simp only [Function.comp]
  split
  · rename_i hp
    exact h r hr hp
  · rfl

theorem filterMap_updateWhere {g : ρ → Option κ} (h : ∀ r ∈ rows, p r = true → g (f r) = g r) :
    (updateWhere p f rows).filterMap g = rows.filterMap g := by
  have hmap := congrArg (List.filterMap id) (map_updateWhere h)
  simpa only [List.filterMap_map, Function.id_comp] using hmap

/-- If the new rows are no longer selected, nothing is. -/
theorem filter_updateWhere (h : ∀ r ∈ rows, p r = true → p (f r) = false) :
    (updateWhere p f rows).filter p = [] := by
  rw [List.filter_eq_nil_iff]
  intro r hr
  rcases mem_updateWhere.mp hr with ⟨r₀, hr₀, ⟨hp, rfl⟩ | ⟨hp, rfl⟩⟩
  · simp [h r₀ hr₀ hp]
  · simp [hp]

/-- A lookup by what `f` does not write finds the same row, rewritten. -/
theorem find?_updateWhere {q : ρ → Bool} (h : ∀ r ∈ rows, p r = true → q (f r) = q r) :
    (updateWhere p f rows).find? q = (rows.find? q).map fun r => if p r then f r else r := by
  unfold updateWhere
  rw [List.find?_map]
  congr 1
  induction rows with
  | nil => rfl
  | cons r rows ih =>
    have hr : q (if p r then f r else r) = q r := by
      split
      · rename_i hp
        exact h r (.head _) hp
      · rfl
    have hrows := ih fun s hs => h s (.tail _ hs)
    rw [List.find?_cons, List.find?_cons, Function.comp_apply, hr, hrows]

/-- Selecting nothing changes nothing. -/
theorem updateWhere_eq_self (h : rows.filter p = []) : updateWhere p f rows = rows := by
  rw [List.filter_eq_nil_iff] at h
  unfold updateWhere
  conv_rhs => rw [← List.map_id rows]
  refine List.map_congr_left fun r hr => ?_
  rw [if_neg (h r hr), id]

end Update

section Unique

variable {key : ρ → κ} {rows : List ρ}

/-- Rewriting unique keys: it is accepted if no row that is left alone has a new key. -/
theorem nodup_updateWhere_iff {p : ρ → Bool} {f : ρ → ρ} (hrows : (rows.map key).Nodup)
    (hinj : ∀ r ∈ rows, ∀ s ∈ rows, p r = true → p s = true → key (f r) = key (f s) →
      key r = key s) :
    ((updateWhere p f rows).map key).Nodup ↔
      ∀ r ∈ rows, p r = true → ∀ s ∈ rows, p s = false → key s ≠ key (f r) := by
  have hinjKey := List.inj_on_of_nodup_map hrows
  rw [updateWhere, List.map_map, List.nodup_map_iff_inj_on hrows.of_map]
  simp only [Function.comp]
  constructor
  · intro h r hr hpr s hs hps heq
    have hsr : s = r := h s hs r hr (by simpa [hpr, hps] using heq)
    rw [hsr, hpr] at hps
    cases hps
  · intro h r hr s hs heq
    cases hpr : p r <;> cases hps : p s <;> simp only [hpr, hps, if_true] at heq
    · exact hinjKey hr hs heq
    · exact absurd heq (h s hs hps r hr hpr)
    · exact absurd heq.symm (h r hr hpr s hs hps)
    · exact hinjKey hr hs (hinj r hr s hs hpr hps heq)

variable [DecidableEq κ]

/-- Under a unique column, a lookup finds the row with the key. -/
theorem find?_unique_iff (h : (rows.map key).Nodup) {k : κ} {r : ρ} :
    rows.find? (fun s => key s = k) = some r ↔ r ∈ rows ∧ key r = k := by
  constructor
  · intro hfound
    exact ⟨List.mem_of_find?_eq_some hfound, by simpa using List.find?_some hfound⟩
  · rintro ⟨hr, hk⟩
    cases hfound : rows.find? fun s => key s = k with
    | none => exact absurd (List.find?_eq_none.mp hfound r hr) (by simp [hk])
    | some s =>
      have hs : key s = k := by simpa using List.find?_some hfound
      rw [List.inj_on_of_nodup_map h (List.mem_of_find?_eq_some hfound) hr (hs.trans hk.symm)]

/-- Under a unique column that may be null, a lookup finds one row or none. -/
theorem scalarOneOrNone_filterMap {g : ρ → Option κ} (h : (rows.filterMap g).Nodup) (k : κ) :
    scalarOneOrNone (rows.filter fun r => g r = some k) = .ok (rows.find? fun r => g r = some k) := by
  induction rows with
  | nil => rfl
  | cons r rows ih =>
    by_cases hk : g r = some k
    · rw [List.filterMap_cons_some hk, List.nodup_cons] at h
      have hrest : rows.filter (fun s => g s = some k) = [] := by
        rw [List.filter_eq_nil_iff]
        intro s hs hsk
        exact h.1 (List.mem_filterMap.mpr ⟨s, hs, of_decide_eq_true hsk⟩)
      simp [hk, hrest, scalarOneOrNone]
    · have hrows : (rows.filterMap g).Nodup := by
        cases hg : g r with
        | none => rwa [List.filterMap_cons_none hg] at h
        | some k' =>
          rw [List.filterMap_cons_some hg] at h
          exact (List.nodup_cons.mp h).2
      simpa [hk] using ih hrows

theorem find?_unique_key {g : ρ → Option κ} (h : (rows.filterMap g).Nodup) {k : κ} {r : ρ} :
    rows.find? (fun r => g r = some k) = some r ↔ r ∈ rows ∧ g r = some k := by
  constructor
  · intro hfound
    exact ⟨List.mem_of_find?_eq_some hfound, by simpa using List.find?_some hfound⟩
  · rintro ⟨hr, hk⟩
    induction rows with
    | nil => cases hr
    | cons s rows ih =>
      by_cases hs : g s = some k
      · rw [List.filterMap_cons_some hs, List.nodup_cons] at h
        rcases List.mem_cons.mp hr with rfl | hr
        · simp [hs]
        · exact absurd (List.mem_filterMap.mpr ⟨r, hr, hk⟩) h.1
      · have hrows : (rows.filterMap g).Nodup :=
          h.sublist ((List.sublist_cons_self s rows).filterMap g)
        have hne : r ≠ s := fun heq => hs (heq ▸ hk)
        simpa [hs] using ih hrows ((List.mem_cons.mp hr).resolve_left hne)

/-- The row that a lookup finds there is the only one. -/
theorem filter_of_find? {g : ρ → Option κ} (h : (rows.filterMap g).Nodup) {k : κ} {r : ρ}
    (hfound : rows.find? (fun r => g r = some k) = some r) :
    rows.filter (fun r => g r = some k) = [r] := by
  have hone := scalarOneOrNone_filterMap h k
  rw [hfound] at hone
  unfold scalarOneOrNone at hone
  split at hone
  · cases hone
  · rename_i hfilter
    rw [hfilter, Option.some.inj (Except.ok.inj hone)]
  · cases hone

/-- Under a unique column. -/
theorem scalarOneOrNone_filter (h : (rows.map key).Nodup) (k : κ) :
    scalarOneOrNone (rows.filter fun r => key r = k) = .ok (rows.find? fun r => key r = k) := by
  have hsome : (rows.filterMap fun r => some (key r)).Nodup := by
    rw [List.filterMap_eq_map']
    exact h
  simpa using scalarOneOrNone_filterMap hsome k

end Unique

end OcenPlatform.Db
