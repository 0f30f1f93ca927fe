import OcenPlatform.Durable.Interleaving

/-! Double-checked locking: a slot that callers fill on first use. Each looks at it without the
lock, and again with it before it makes a value. -/

namespace OcenPlatform.Durable.Once

open Interleaving (State turn run turn_locals_self turn_locals_ne run_inv run_append
  run_locals_of_notMem)

variable {ι V : Type} [DecidableEq ι]

/-- What a caller does next; what it leaves the lock with. -/
inductive Phase (V : Type) where
  | look
  | wait
  | lookAgain
  | make
  | release (error : Option String)
  | read
  | done (result : Except String V)

/-- The slot, who holds its lock, and the values that were made, in order. -/
structure Slot (ι V : Type) where
  value : Option V := none
  holder : Option ι := none
  made : List V := []

/-- A turn of the caller `i`, to whom the constructor gives `make i`. -/
def act (make : ι → Except String V) (i : ι) : Phase V → Slot ι V → Phase V × Slot ι V
  | .look, s => if s.value.isSome then (.read, s) else (.wait, s)
  | .wait, s => if s.holder.isNone then (.lookAgain, { s with holder := some i }) else (.wait, s)
  | .lookAgain, s => if s.value.isSome then (.release none, s) else (.make, s)
  | .make, s =>
    match make i with
    | .ok v => (.release none, { s with value := some v, made := s.made ++ [v] })
    | .error e => (.release (some e), s)
  | .release none, s => (.read, { s with holder := none })
  | .release (some e), s => (.done (.error e), { s with holder := none })
  | .read, s => (.done (s.value.elim (.error "None") .ok), s)
  | .done result, s => (.done result, s)

/-- Any number of callers, before the first has looked. -/
def calling (make : ι → Except String V) (schedule : List ι) : State ι (Phase V) (Slot ι V) :=
  run (act make) ⟨fun _ => .look, {}⟩ schedule

/-- The caller is between acquiring the lock and releasing it. -/
def Phase.holds : Phase V → Bool
  | .lookAgain | .make | .release _ => true
  | _ => false

/-- What a phase says of the slot. -/
def Phase.Agrees (make : ι → Except String V) (i : ι) (s : Slot ι V) : Phase V → Prop
  | .look | .wait | .lookAgain => True
  | .make => s.value = none
  | .release none | .read => s.value.isSome = true
  | .release (some e) | .done (.error e) => make i = .error e
  | .done (.ok v) => s.value = some v

/-- **The invariant.** The holder is the one caller that is past its lock, and what was made is
what the slot has. -/
structure Inv (make : ι → Except String V) (s : State ι (Phase V) (Slot ι V)) : Prop where
  holder : ∀ i, (s.locals i).holds = true ↔ s.shared.holder = some i
  made : s.shared.made = s.shared.value.toList
  source : ∀ v ∈ s.shared.made, ∃ k, make k = .ok v
  agrees : ∀ i, (s.locals i).Agrees make i s.shared

section Steps

variable {make : ι → Except String V} {s : State ι (Phase V) (Slot ι V)} {i : ι}

omit [DecidableEq ι] in
/-- A phase goes on agreeing with a slot that is not emptied, and that is only filled with the
lock. -/
theorem Phase.Agrees.later {phase : Phase V} {c c' : Slot ι V} (h : phase.Agrees make i c)
    (hvalue : c'.value = c.value ∨ c.value = none ∧ phase.holds = false) :
    phase.Agrees make i c' := by
  rcases hvalue with heq | ⟨hnone, hholds⟩
  · unfold Phase.Agrees at h ⊢
    rw [heq]
    exact h
  · cases phase with
    | look => trivial
    | wait => trivial
    | lookAgain => trivial
    | make => cases hholds
    | release error => cases hholds
    | read =>
      simp only [Phase.Agrees, hnone] at h
      cases h
    | done result =>
      cases result with
      | error e => exact h
      | ok v =>
        simp only [Phase.Agrees, hnone] at h
        cases h

variable {phase : Phase V} {c : Slot ι V} {j : ι}

omit [DecidableEq ι] in
theorem act_agrees (h : phase.Agrees make i c) :
    (act make i phase c).1.Agrees make i (act make i phase c).2 := by
  cases phase with
  | look =>
    simp only [act]
    split
    · assumption
    · trivial
  | wait =>
    simp only [act]
    split <;> trivial
  | lookAgain =>
    simp only [act]
    split
    · assumption
    · rename_i hnone
      exact Option.not_isSome_iff_eq_none.mp hnone
  | make =>
    simp only [act]
    split
    · rfl
    · rename_i hmake
      exact hmake
  | release error =>
    cases error with
    | none => exact h
    | some e => exact h
  | read =>
    obtain ⟨v, hv⟩ := Option.isSome_iff_exists.mp h
    simp only [act, hv]
    exact hv
  | done result =>
    cases result with
    | error e => exact h
    | ok v => exact h

omit [DecidableEq ι] in
/-- Only the constructor fills the slot, which was empty. -/
theorem act_value (h : phase.Agrees make i c) : (act make i phase c).2.value = c.value ∨
    c.value = none ∧ phase = .make := by
  cases phase with
  | make => exact .inr ⟨h, rfl⟩
  | look =>
    simp only [act]
    split <;> exact .inl rfl
  | wait =>
    simp only [act]
    split <;> exact .inl rfl
  | lookAgain =>
    simp only [act]
    split <;> exact .inl rfl
  | release error => cases error <;> exact .inl rfl
  | read => exact .inl rfl
  | done result => exact .inl rfl

omit [DecidableEq ι] in
theorem act_made (h : phase.Agrees make i c) (hmade : c.made = c.value.toList) :
    (act make i phase c).2.made = (act make i phase c).2.value.toList := by
  cases phase with
  | make =>
    have hnone : c.value = none := h
    simp only [act]
    split
    · simp [hmade, hnone]
    · exact hmade
  | look =>
    simp only [act]
    split <;> exact hmade
  | wait =>
    simp only [act]
    split <;> exact hmade
  | lookAgain =>
    simp only [act]
    split <;> exact hmade
  | release error => cases error <;> exact hmade
  | read => exact hmade
  | done result => exact hmade

omit [DecidableEq ι] in
theorem act_source (h : ∀ v ∈ c.made, ∃ k, make k = .ok v) :
    ∀ v ∈ (act make i phase c).2.made, ∃ k, make k = .ok v := by
  cases phase with
  | make =>
    simp only [act]
    split
    · rename_i v hmake
      intro w hw
      rcases List.mem_append.mp hw with hw | hw
      · exact h w hw
      · obtain rfl := List.mem_singleton.mp hw
        exact ⟨i, hmake⟩
    · exact h
  | look =>
    simp only [act]
    split <;> exact h
  | wait =>
    simp only [act]
    split <;> exact h
  | lookAgain =>
    simp only [act]
    split <;> exact h
  | release error => cases error <;> exact h
  | read => exact h
  | done result => exact h

omit [DecidableEq ι] in
/-- The lock changes hands only when it is free or the caller's own. -/
theorem act_holder (h : phase.holds = true ↔ c.holder = some i) :
    ((act make i phase c).1.holds = true ↔ (act make i phase c).2.holder = some i) ∧
      (j ≠ i → ((act make i phase c).2.holder = some j ↔ c.holder = some j)) := by
  cases phase with
  | look =>
    simp only [act]
    split <;> exact ⟨h, fun _ => .rfl⟩
  | wait =>
    simp only [act]
    split
    · rename_i hfree
      rw [Option.isNone_iff_eq_none] at hfree
      exact ⟨by simp [Phase.holds], fun hj => by simp [hfree, Ne.symm hj]⟩
    · exact ⟨h, fun _ => .rfl⟩
  | lookAgain =>
    simp only [act]
    split <;> exact ⟨h, fun _ => .rfl⟩
  | make =>
    simp only [act]
    split <;> exact ⟨h, fun _ => .rfl⟩
  | release error =>
    have hself : c.holder = some i := h.mp rfl
    cases error with
    | none => exact ⟨by simp [act, Phase.holds], fun hj => by simp [act, hself, Ne.symm hj]⟩
    | some e => exact ⟨by simp [act, Phase.holds], fun hj => by simp [act, hself, Ne.symm hj]⟩
  | read => exact ⟨h, fun _ => .rfl⟩
  | done result => exact ⟨h, fun _ => .rfl⟩

/-- **Step lemma.** -/
theorem Inv.turn (h : Inv make s) (i : ι) : Inv make (turn (act make) s i) where
  holder j := by
    by_cases hj : j = i
    · subst hj
      rw [turn_locals_self]
      exact (act_holder (j := j) (h.holder j)).1
    · rw [turn_locals_ne hj, h.holder j]
      exact ((act_holder (h.holder i)).2 hj).symm
  made := act_made (h.agrees i) h.made
  source := act_source h.source
  agrees j := by
    by_cases hj : j = i
    · subst hj
      rw [turn_locals_self]
      exact act_agrees (h.agrees j)
    · rw [turn_locals_ne hj]
      refine (h.agrees j).later ((act_value (h.agrees i)).imp_right ?_)
      rintro ⟨hnone, hmaking⟩
      refine ⟨hnone, ?_⟩
      -- The maker has the lock, and so the other has not.
      have hself : s.shared.holder = some i := (h.holder i).mp (by rw [hmaking]; rfl)
      by_contra hholds
      rw [Bool.not_eq_false, h.holder j, hself] at hholds
      exact hj (Option.some.inj hholds).symm

end Steps

/-- **Run lemma.** -/
theorem calling_inv (make : ι → Except String V) (schedule : List ι) :
    Inv make (calling make schedule) :=
  run_inv (fun _ i h => h.turn i)
    ⟨fun i => by simp [Phase.holds], rfl, fun v hv => absurd hv (List.not_mem_nil), fun _ => trivial⟩
    schedule

section Results

variable {make : ι → Except String V} {schedule : List ι} {i j : ι}

/-- A caller that is done stays so. -/
theorem done_append {result : Except String V} (h : (calling make schedule).locals i = .done result)
    (more : List ι) : (calling make (schedule ++ more)).locals i = .done result := by
  unfold calling at h ⊢
  rw [run_append]
  refine run_inv (P := fun s => s.locals i = Phase.done result) (fun s k hs => ?_) h more
  by_cases hk : i = k
  · subst hk
    rw [turn_locals_self, hs]
    rfl
  · rw [turn_locals_ne hk, hs]

/-- **Made once.** Of two callers that get a value, however much later the second, both get the
same, which the constructor has given to one caller. -/
theorem made_once {v v' : V} {more : List ι} (hi : (calling make schedule).locals i = .done (.ok v))
    (hj : (calling make (schedule ++ more)).locals j = .done (.ok v')) :
    v' = v ∧ ∃ k, make k = .ok v := by
  have hinv := calling_inv make (schedule ++ more)
  have hvalue := hinv.agrees i
  have hvalue' := hinv.agrees j
  rw [done_append hi more] at hvalue
  rw [hj] at hvalue'
  refine ⟨Option.some.inj (hvalue'.symm.trans hvalue), hinv.source v ?_⟩
  rw [hinv.made, show (calling make (schedule ++ more)).shared.value = some v from hvalue]
  exact .head _

/-- A caller raises what its own constructor has raised. -/
theorem raised_own {e : String} (h : (calling make schedule).locals i = .done (.error e)) :
    make i = .error e := by
  have hagrees := (calling_inv make schedule).agrees i
  rw [h] at hagrees
  exact hagrees

end Results

/-! ## Nobody waits for ever -/

/-- How many turns a caller has left. -/
def Phase.rank : Phase V → Nat
  | .look => 6
  | .wait => 5
  | .lookAgain => 4
  | .make => 3
  | .release _ => 2
  | .read => 1
  | .done _ => 0

section Progress

variable {make : ι → Except String V} {s : State ι (Phase V) (Slot ι V)} {i : ι}

omit [DecidableEq ι] in
theorem act_rank {phase : Phase V} {c : Slot ι V} (hrank : phase.rank ≠ 0)
    (hfree : c.holder = none ∨ phase.holds = true) :
    (act make i phase c).1.rank < phase.rank ∧
      ((act make i phase c).2.holder = none ∨ (act make i phase c).1.holds = true) := by
  cases phase with
  | look =>
    have hnone : c.holder = none := hfree.resolve_right (by simp [Phase.holds])
    simp only [act]
    split <;> exact ⟨by simp [Phase.rank], .inl hnone⟩
  | wait =>
    have hnone : c.holder = none := hfree.resolve_right (by simp [Phase.holds])
    simp [act, hnone, Phase.rank, Phase.holds]
  | lookAgain =>
    simp only [act]
    split <;> exact ⟨by simp [Phase.rank], .inr rfl⟩
  | make =>
    simp only [act]
    split <;> exact ⟨by simp [Phase.rank], .inr rfl⟩
  | release error => cases error <;> exact ⟨by simp [act, Phase.rank], .inl rfl⟩
  | read => exact ⟨by simp [act, Phase.rank], .inl (hfree.resolve_right (by simp [Phase.holds]))⟩
  | done result => exact absurd rfl hrank

/-- By induction on the rank: a caller that has the lock, or finds it free, gets done alone. -/
theorem exists_done (make : ι → Except String V) (hfree : s.shared.holder = none ∨ (s.locals i).holds = true) :
    ∃ n, ((run (act make) s (List.replicate n i)).locals i).rank = 0 := by
  induction hrank : (s.locals i).rank using Nat.strongRecOn generalizing s with
  | _ rank ih =>
    subst hrank
    by_cases hzero : (s.locals i).rank = 0
    · exact ⟨0, hzero⟩
    · obtain ⟨hlt, hheld⟩ : ((turn (act make) s i).locals i).rank < (s.locals i).rank ∧
          ((turn (act make) s i).shared.holder = none ∨
            ((turn (act make) s i).locals i).holds = true) := by
        rw [turn_locals_self]
        exact act_rank hzero hfree
      obtain ⟨n, hn⟩ := ih _ hlt hheld rfl
      exact ⟨n + 1, hn⟩

theorem run_replicate_locals_ne {j : ι} (h : j ≠ i) (n : Nat) :
    (run (act make) s (List.replicate n i)).locals j = s.locals j :=
  run_locals_of_notMem (fun hmem => h (List.eq_of_mem_replicate hmem))

end Progress

/-- **No deadlock.** Whatever the callers have done, there are turns after which a caller is done. -/
theorem can_finish (make : ι → Except String V) (schedule : List ι) (i : ι) :
    ∃ more result, (calling make (schedule ++ more)).locals i = .done result := by
  have hdone : ∀ phase : Phase V, phase.rank = 0 → ∃ result, phase = .done result := by
    intro phase hrank
    cases phase with
    | done result => exact ⟨result, rfl⟩
    | _ => cases hrank
  have hlast : ∀ before, (calling make before).shared.holder = none ∨
      ((calling make before).locals i).holds = true →
      ∃ more result, (calling make (before ++ more)).locals i = .done result := by
    intro before hfree
    obtain ⟨n, hn⟩ := exists_done make hfree
    refine ⟨List.replicate n i, ?_⟩
    unfold calling at hn ⊢
    rw [run_append]
    exact hdone _ hn
  cases hholder : (calling make schedule).shared.holder with
  | none => exact hlast schedule (.inl hholder)
  | some j =>
    have hinv := calling_inv make schedule
    by_cases hij : i = j
    · exact hlast schedule (.inr ((hinv.holder i).mpr (hij ▸ hholder)))
    · -- The holder goes first, and then the lock is free.
      obtain ⟨n, hn⟩ := exists_done make (.inr ((hinv.holder j).mpr hholder))
      have hafter := calling_inv make (schedule ++ List.replicate n j)
      have hfree : (calling make (schedule ++ List.replicate n j)).shared.holder = none := by
        cases hheld : (calling make (schedule ++ List.replicate n j)).shared.holder with
        | none => rfl
        | some k =>
          have hk := (hafter.holder k).mpr hheld
          unfold calling at hk hn
          rw [run_append] at hk
          by_cases hkj : k = j
          · obtain ⟨result, hresult⟩ := hdone _ hn
            rw [hkj, hresult] at hk
            cases hk
          · rw [run_replicate_locals_ne hkj] at hk
            have hsame := (hinv.holder k).mp hk
            rw [hholder] at hsame
            exact absurd (Option.some.inj hsame).symm hkj
      obtain ⟨more, result, hresult⟩ := hlast _ (.inl hfree)
      exact ⟨List.replicate n j ++ more, result, by rw [← List.append_assoc]; exact hresult⟩

end OcenPlatform.Durable.Once
