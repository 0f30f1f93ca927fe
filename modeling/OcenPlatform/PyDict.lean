import Mathlib.Algebra.GroupWithZero.Nat

/-! Python dicts as association lists in insertion order. -/

namespace OcenPlatform

abbrev PyDict (κ α : Type) := List (κ × α)

namespace PyDict

variable {κ α : Type} [DecidableEq κ] {d : PyDict κ α} {k : κ} {v : α}

/-- The value stored under `k`, if there is one. -/
def find? (d : PyDict κ α) (k : κ) : Option α :=
  match d with
  | [] => none
  | (k', v) :: rest => if k = k' then some v else find? rest k

/-- `d.get(k, default)`. -/
def get (d : PyDict κ α) (k : κ) (default : α) : α := (find? d k).getD default

/-- `d[k] = v`: an existing key keeps its place. -/
def set (d : PyDict κ α) (k : κ) (v : α) : PyDict κ α :=
  match d with
  | [] => [(k, v)]
  | (k', v') :: rest => if k = k' then (k, v) :: rest else (k', v') :: set rest k v

/-- `d.update(other)`. -/
def update (d other : PyDict κ α) : PyDict κ α := other.foldl (fun d p => set d p.1 p.2) d

@[simp] theorem find?_nil (k : κ) : find? ([] : PyDict κ α) k = none := rfl

@[simp] theorem find?_cons (k' k : κ) (v : α) (d : PyDict κ α) :
    find? ((k', v) :: d) k = if k = k' then some v else find? d k := rfl

theorem mem_of_find? (h : find? d k = some v) : (k, v) ∈ d := by
  induction d with
  | nil => cases h
  | cons p d ih =>
    obtain ⟨k', v'⟩ := p
    rw [find?_cons] at h
    split at h
    · rename_i hk
      obtain rfl := Option.some.inj h
      rw [hk]
      exact .head _
    · exact .tail _ (ih h)

@[simp] theorem find?_set_self : find? (set d k v) k = some v := by
  induction d with
  | nil => simp [set]
  | cons p d ih =>
    obtain ⟨k', v'⟩ := p
    unfold set
    split
    · simp
    · rename_i hk
      simp [hk, ih]

theorem find?_set_ne {k' : κ} (h : k' ≠ k) : find? (set d k v) k' = find? d k' := by
  induction d with
  | nil => simp [set, h]
  | cons p d ih =>
    obtain ⟨k₀, v₀⟩ := p
    unfold set
    split
    · rename_i hk
      simp [← hk, h]
    · simp [ih]

theorem find?_eq_none (h : k ∉ d.map Prod.fst) : find? d k = none := by
  induction d with
  | nil => rfl
  | cons p d ih =>
    rw [List.map_cons, List.mem_cons, not_or] at h
    rw [find?_cons, if_neg h.1, ih h.2]

/-- The keys of a dict are distinct. -/
theorem find?_of_mem (hnodup : (d.map Prod.fst).Nodup) {p : κ × α} (hp : p ∈ d) :
    find? d p.1 = some p.2 := by
  induction d with
  | nil => cases hp
  | cons q d ih =>
    obtain ⟨hq, hd⟩ := List.nodup_cons.mp hnodup
    rw [find?_cons]
    rcases List.mem_cons.mp hp with rfl | hp
    · exact if_pos rfl
    · rw [if_neg, ih hd hp]
      rintro hsame
      exact hq (hsame ▸ List.mem_map_of_mem hp)

theorem find?_ne_none_iff : find? d k ≠ none ↔ k ∈ d.map Prod.fst := by
  refine ⟨fun h => Decidable.byContradiction fun hk => h (find?_eq_none hk), fun h => ?_⟩
  · induction d with
    | nil => cases h
    | cons p d ih =>
      rw [find?_cons]
      split
      · exact Option.some_ne_none _
      · rename_i hk
        exact ih ((List.mem_cons.mp h).resolve_left hk)

/-- A new key comes last. -/
theorem keys_set : (set d k v).map Prod.fst =
    if k ∈ d.map Prod.fst then d.map Prod.fst else d.map Prod.fst ++ [k] := by
  induction d with
  | nil => simp [set]
  | cons p d ih =>
    obtain ⟨k', v'⟩ := p
    unfold set
    split
    · rename_i hk
      simp [hk]
    · rename_i hk
      rw [List.map_cons, ih]
      simp only [List.map_cons, List.mem_cons, hk, false_or]
      split <;> simp

theorem set_of_not_mem (h : k ∉ d.map Prod.fst) : set d k v = d ++ [(k, v)] := by
  induction d with
  | nil => rfl
  | cons p d ih =>
    rw [List.map_cons, List.mem_cons, not_or] at h
    rw [set, if_neg h.1, ih h.2]
    rfl

theorem nodup_set (h : (d.map Prod.fst).Nodup) : ((set d k v).map Prod.fst).Nodup := by
  rw [keys_set]
  split
  · exact h
  · rename_i hk
    exact List.nodup_append.mpr ⟨h, List.pairwise_singleton _ k, fun a ha b hb hab =>
      hk (List.mem_singleton.mp hb ▸ hab ▸ ha)⟩

/-- The keys of a dict are distinct, so the update's value for a key counts. -/
theorem find?_update {other : PyDict κ α} (h : (other.map Prod.fst).Nodup) :
    find? (update d other) k = (find? other k).or (find? d k) := by
  induction other generalizing d with
  | nil => rfl
  | cons p other ih =>
    obtain ⟨hp, hother⟩ := List.nodup_cons.mp h
    obtain ⟨k', v⟩ := p
    have hupdate : update d ((k', v) :: other) = update (set d k' v) other := rfl
    rw [hupdate, ih hother, find?_cons]
    split
    · rename_i hk
      rw [hk, find?_eq_none hp, find?_set_self]
      rfl
    · rename_i hk
      rw [find?_set_ne hk]

theorem get_set (d : PyDict κ α) (k k' : κ) (v default : α) :
    get (set d k v) k' default = if k = k' then v else get d k' default := by
  unfold get
  split
  · rename_i hk
    rw [← hk, find?_set_self]
    rfl
  · rename_i hk
    rw [find?_set_ne (Ne.symm hk)]

/-- An assignment changes the sum of the values by the change of one of them. -/
theorem sum_set (d : PyDict κ Nat) (k : κ) (v : Nat) :
    ((set d k v).map Prod.snd).sum + get d k 0 = (d.map Prod.snd).sum + v := by
  induction d with
  | nil => simp [set, get]
  | cons p d ih =>
    obtain ⟨k', v'⟩ := p
    unfold get at ih ⊢
    unfold set
    rw [find?_cons]
    split
    · simp only [List.map_cons, List.sum_cons, Option.getD_some]
      omega
    · simp only [List.map_cons, List.sum_cons]
      omega

/-- `{k: f(v) for k, v in d.items()}`. -/
def mapValues {β : Type} (f : α → β) (d : PyDict κ α) : PyDict κ β := d.map fun p => (p.1, f p.2)

theorem find?_mapValues {β : Type} (f : α → β) (d : PyDict κ α) (k : κ) :
    find? (mapValues f d) k = (find? d k).map f := by
  induction d with
  | nil => rfl
  | cons p d ih =>
    have hcons : mapValues f (p :: d) = (p.1, f p.2) :: mapValues f d := rfl
    rw [hcons, find?_cons, find?_cons, ih]
    split <;> rfl

theorem set_mapValues {β : Type} (f : α → β) (d : PyDict κ α) (k : κ) (v : α) :
    set (mapValues f d) k (f v) = mapValues f (set d k v) := by
  induction d with
  | nil => rfl
  | cons p d ih =>
    have hcons : mapValues f (p :: d) = (p.1, f p.2) :: mapValues f d := rfl
    obtain ⟨k', v'⟩ := p
    rw [hcons, set, set, ih]
    split <;> rfl

/-- What an assignment leaves in the dict was there or is assigned. -/
theorem mem_set {p : κ × α} (h : p ∈ set d k v) : p = (k, v) ∨ p ∈ d := by
  induction d with
  | nil => exact .inl (List.mem_singleton.mp h)
  | cons q d ih =>
    obtain ⟨k', v'⟩ := q
    unfold set at h
    split at h
    · rcases List.mem_cons.mp h with rfl | hd
      · exact .inl rfl
      · exact .inr (.tail _ hd)
    · rcases List.mem_cons.mp h with rfl | hd
      · exact .inr (.head _)
      · rcases ih hd with rfl | hd
        · exact .inl rfl
        · exact .inr (.tail _ hd)

theorem mem_update {other : PyDict κ α} {p : κ × α} (h : p ∈ update d other) : p ∈ d ∨ p ∈ other := by
  induction other generalizing d with
  | nil => exact .inl h
  | cons q other ih =>
    rcases ih h with hset | hother
    · rcases mem_set hset with rfl | hd
      · exact .inr (.head _)
      · exact .inl hd
    · exact .inr (.tail _ hother)

end PyDict

end OcenPlatform
