import Mathlib.Data.List.Forall2
import Mathlib.Data.List.Induction

/-! Hash chains: each entry carries the hash of its content followed by the text of
the hash of the entry before it. A chain whose hashes cannot be confused with
contents commits to everything in it. -/

namespace OcenPlatform.HashChain

variable {M H B : Type}

/-- `link` is the hash that an entry carries, `start` stands before the first entry. -/
structure Scheme (M H B : Type) where
  content : M → List B
  link : M → H
  hash : List B → H
  text : H → List B
  start : H

namespace Scheme

variable (S : Scheme M H B)

/-- What is hashed for `m` after an entry that carries `prev`. -/
def input (prev : H) (m : M) : List B := S.content m ++ S.text prev

def Valid : H → List M → Prop
  | _, [] => True
  | prev, m :: ms => S.link m = S.hash (S.input prev m) ∧ Valid (S.link m) ms

/-- Everything that is hashed to check the chain. -/
def inputs : H → List M → List (List B)
  | _, [] => []
  | prev, m :: ms => S.input prev m :: inputs (S.link m) ms

/-- The hash that the next entry is chained to. -/
def last : H → List M → H
  | prev, [] => prev
  | _, m :: ms => last (S.link m) ms

/-- Texts of hashes have one length and do not contain the symbol `stop`. -/
structure Delimited (size : Nat) (stop : B) : Prop where
  start : S.text S.start = []
  pos : 0 < size
  length : ∀ b, (S.text (S.hash b)).length = size
  absent : ∀ b, stop ∉ S.text (S.hash b)
  inj : ∀ b b', S.text (S.hash b) = S.text (S.hash b') → S.hash b = S.hash b'

variable {S} {prev : H} {ms ms' : List M} {m m' : M}

@[simp] theorem valid_append :
    S.Valid prev (ms ++ ms') ↔ S.Valid prev ms ∧ S.Valid (S.last prev ms) ms' := by
  induction ms generalizing prev with
  | nil => simp [Valid, last]
  | cons m ms ih => simp [Valid, last, ih, and_assoc]

@[simp] theorem inputs_append :
    S.inputs prev (ms ++ ms') = S.inputs prev ms ++ S.inputs (S.last prev ms) ms' := by
  induction ms generalizing prev with
  | nil => rfl
  | cons m ms ih => simp [inputs, last, ih]

@[simp] theorem last_append : S.last prev (ms ++ ms') = S.last (S.last prev ms) ms' := by
  induction ms generalizing prev with
  | nil => rfl
  | cons m ms ih => exact ih

theorem last_eq_getLast? : S.last prev ms = (ms.getLast?.map S.link).getD prev := by
  induction ms using List.reverseRecOn with
  | nil => rfl
  | append_singleton ms m _ => simp [last]

/-- The hash at the end of a valid chain is `start` or a hash. -/
theorem Valid.last_cases (h : S.Valid S.start ms) :
    S.last S.start ms = S.start ∨ ∃ b, S.last S.start ms = S.hash b := by
  induction ms using List.reverseRecOn with
  | nil => exact .inl rfl
  | append_singleton ms m _ =>
    obtain ⟨-, hm, -⟩ := valid_append.mp h
    exact .inr ⟨_, by simpa [last] using hm⟩

section Delimited

variable {size : Nat} {stop : B}

theorem Delimited.start_ne_hash (hS : S.Delimited size stop) (b : List B) :
    S.start ≠ S.hash b := by
  intro heq
  have hlength := hS.length b
  rw [← heq, hS.start] at hlength
  have hpos := hS.pos
  simp at hlength
  omega

/-- A content with a text of a hash behind it is no bare content. -/
theorem Delimited.append_text_ne (hS : S.Delimited size stop) {c c' : List B}
    (hc : c.getLast? = some stop) (b : List B) : c ≠ c' ++ S.text (S.hash b) := by
  intro heq
  have hne : S.text (S.hash b) ≠ [] := by
    rw [ne_eq, ← List.length_eq_zero_iff, hS.length]
    have hpos := hS.pos
    omega
  rw [heq, List.getLast?_append_of_ne_nil _ hne] at hc
  exact hS.absent b (List.mem_of_getLast? hc)

/-- What is hashed can be read in one way only. -/
theorem Delimited.input_inj (hS : S.Delimited size stop) {prev' : H}
    (hprev : prev = S.start ∨ ∃ b, prev = S.hash b)
    (hprev' : prev' = S.start ∨ ∃ b, prev' = S.hash b)
    (hm : (S.content m).getLast? = some stop) (hm' : (S.content m').getLast? = some stop)
    (heq : S.input prev m = S.input prev' m') : S.content m = S.content m' ∧ prev = prev' := by
  unfold input at heq
  rcases hprev with rfl | ⟨b, rfl⟩ <;> rcases hprev' with rfl | ⟨b', rfl⟩
  · exact ⟨by simpa [hS.start] using heq, rfl⟩
  · rw [hS.start, List.append_nil] at heq
    exact absurd heq (hS.append_text_ne hm b')
  · rw [hS.start, List.append_nil] at heq
    exact absurd heq.symm (hS.append_text_ne hm' b)
  · have hlength : (S.text (S.hash b)).length = (S.text (S.hash b')).length := by
      rw [hS.length, hS.length]
    obtain ⟨hcontent, htext⟩ := List.append_inj' heq hlength
    exact ⟨hcontent, hS.inj b b' htext⟩

/-- **Binding.** Valid chains that end in the same hash have the same contents and
hashes, entry by entry. -/
theorem Valid.binding (hS : S.Delimited size stop)
    (hend : ∀ m ∈ ms ++ ms', (S.content m).getLast? = some stop)
    (hinj : ∀ b ∈ S.inputs S.start ms, ∀ b' ∈ S.inputs S.start ms',
      S.hash b = S.hash b' → b = b')
    (h : S.Valid S.start ms) (h' : S.Valid S.start ms')
    (hlast : S.last S.start ms = S.last S.start ms') :
    List.Forall₂ (fun m m' => S.content m = S.content m' ∧ S.link m = S.link m') ms ms' := by
  -- From the last entries backwards: equal hashes have equal inputs, and these carry the
  -- hashes of the entries before.
  induction ms using List.reverseRecOn generalizing ms' with
  | nil =>
    induction ms' using List.reverseRecOn with
    | nil => exact .nil
    | append_singleton ms' m' _ =>
      obtain ⟨-, hm', -⟩ := valid_append.mp h'
      exact absurd (by simpa [last, hm'] using hlast) (hS.start_ne_hash _)
  | append_singleton ms m ih =>
    obtain ⟨hms, hm, -⟩ := valid_append.mp h
    induction ms' using List.reverseRecOn with
    | nil => exact absurd (by simpa [last, hm] using hlast.symm) (hS.start_ne_hash _)
    | append_singleton ms' m' _ =>
      obtain ⟨hms', hm', -⟩ := valid_append.mp h'
      have hlink : S.link m = S.link m' := by simpa [last] using hlast
      have hinput : S.input (S.last S.start ms) m = S.input (S.last S.start ms') m' :=
        hinj _ (by simp [inputs]) _ (by simp [inputs]) (by rw [← hm, ← hm', hlink])
      obtain ⟨hcontent, hprev⟩ := hS.input_inj hms.last_cases hms'.last_cases
        (hend m (by simp)) (hend m' (by simp)) hinput
      have hfront := @ih ms'
        (fun m hmem => hend m (by
          rcases List.mem_append.mp hmem with hmem | hmem <;> simp [hmem]))
        (fun b hb b' hb' => hinj b (by simp [hb]) b' (by simp [hb'])) hms hms' hprev
      exact List.rel_append hfront (.cons ⟨hcontent, hlink⟩ .nil)

/-- A chain does not verify without its beginning. -/
theorem Valid.not_suffix (hS : S.Delimited size stop) (hms : ms ≠ [])
    (hinj : ∀ b ∈ S.inputs S.start (ms ++ m :: ms'), ∀ b' ∈ S.inputs S.start (m :: ms'),
      S.hash b = S.hash b' → b = b')
    (h : S.Valid S.start (ms ++ m :: ms')) : ¬ S.Valid S.start (m :: ms') := by
  rintro ⟨hstart, -⟩
  obtain ⟨hfront, hm, -⟩ := valid_append.mp h
  have hinput : S.input (S.last S.start ms) m = S.input S.start m :=
    hinj _ (by simp [inputs]) _ (by simp [inputs]) (by rw [← hm, ← hstart])
  have htext : S.text (S.last S.start ms) = [] := by
    simpa [input, hS.start] using hinput
  obtain ⟨front, e, rfl⟩ := (List.eq_nil_or_concat' ms).resolve_left hms
  obtain ⟨-, he, -⟩ := valid_append.mp hfront
  have hlength := hS.length (S.input (S.last S.start front) e)
  have hpos := hS.pos
  rw [← he] at hlength
  simp only [last_append, last] at htext
  rw [htext] at hlength
  simp at hlength
  omega

end Delimited

end Scheme

end OcenPlatform.HashChain
