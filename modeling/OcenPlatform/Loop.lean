/-! Loops over a list whose body changes a state and may raise. A raise ends the loop, and what
the body has changed until then stays. -/

namespace OcenPlatform.Loop

variable {σ α ε : Type}

def forEach (body : σ → α → Except ε Unit × σ) (s : σ) : List α → Except ε Unit × σ
  | [] => (.ok (), s)
  | a :: rest =>
    match body s a with
    | (.ok (), s') => forEach body s' rest
    | (.error e, s') => (.error e, s')

/-- The body raises on the elements with a fault. It changes the state by `accept` if it does not
raise, and by `interrupt` if it does. -/
structure Body (body : σ → α → Except ε Unit × σ) (fault : α → Option ε) (accept interrupt : σ → α → σ) :
    Prop where
  accepts : ∀ s a, fault a = none → body s a = (.ok (), accept s a)
  interrupts : ∀ s a e, fault a = some e → body s a = (.error e, interrupt s a)

/-- The loop ends at `bad`, after the elements `before`. -/
structure StopsAt (fault : α → Option ε) (l before : List α) (bad : α) : Prop where
  split : ∃ rest, l = before ++ bad :: rest
  clean : ∀ a ∈ before, fault a = none
  faulty : fault bad ≠ none

section Faults

variable {body : σ → α → Except ε Unit × σ} {fault : α → Option ε} {accept interrupt : σ → α → σ}
  {l before : List α} {bad : α}

/-- Either no element has a fault, or the loop ends at one. -/
theorem clean_or_stopsAt (fault : α → Option ε) (l : List α) :
    (∀ a ∈ l, fault a = none) ∨ ∃ before bad, StopsAt fault l before bad := by
  induction l with
  | nil => exact .inl fun _ ha => absurd ha List.not_mem_nil
  | cons a l ih =>
    cases ha : fault a with
    | some e => exact .inr ⟨[], a, ⟨l, rfl⟩, fun _ hb => absurd hb List.not_mem_nil, by simp [ha]⟩
    | none =>
      rcases ih with hclean | ⟨before, bad, ⟨rest, hsplit⟩, hbefore, hbad⟩
      · exact .inl (List.forall_mem_cons.mpr ⟨ha, hclean⟩)
      · exact .inr ⟨a :: before, bad, ⟨rest, by rw [hsplit]; rfl⟩,
          List.forall_mem_cons.mpr ⟨ha, hbefore⟩, hbad⟩

theorem StopsAt.not_clean (h : StopsAt fault l before bad) : ¬ ∀ a ∈ l, fault a = none := by
  obtain ⟨rest, rfl⟩ := h.split
  exact fun hclean => h.faulty (hclean bad (by simp))

/-- A loop ends at one place. -/
theorem StopsAt.unique {before' : List α} {bad' : α} (h : StopsAt fault l before bad)
    (h' : StopsAt fault l before' bad') : before = before' ∧ bad = bad' := by
  obtain ⟨⟨rest, hsplit⟩, hclean, hfaulty⟩ := h
  obtain ⟨⟨rest', hsplit'⟩, hclean', hfaulty'⟩ := h'
  rw [hsplit] at hsplit'
  clear hsplit
  induction before generalizing before' with
  | nil =>
    cases before' with
    | nil => exact ⟨rfl, (List.cons.inj hsplit').1⟩
    | cons a before' =>
      obtain ⟨rfl, -⟩ := List.cons.inj hsplit'
      exact absurd (hclean' bad (.head _)) hfaulty
  | cons a before ih =>
    cases before' with
    | nil =>
      obtain ⟨rfl, -⟩ := List.cons.inj hsplit'
      exact absurd (hclean a (.head _)) hfaulty'
    | cons a' before' =>
      obtain ⟨rfl, htail⟩ := List.cons.inj hsplit'
      obtain ⟨rfl, hbad⟩ := ih (List.forall_mem_cons.mp hclean).2
        (List.forall_mem_cons.mp hclean').2 htail
      exact ⟨rfl, hbad⟩

theorem forEach_append (hbody : Body body fault accept interrupt) (s : σ)
    (hclean : ∀ a ∈ before, fault a = none) (rest : List α) :
    forEach body s (before ++ rest) = forEach body (before.foldl accept s) rest := by
  induction before generalizing s with
  | nil => rfl
  | cons a before ih =>
    obtain ⟨ha, hbefore⟩ := List.forall_mem_cons.mp hclean
    rw [List.cons_append, forEach, hbody.accepts s a ha]
    exact ih _ hbefore

/-- A loop without faults. -/
theorem forEach_clean (hbody : Body body fault accept interrupt) (s : σ)
    (hclean : ∀ a ∈ l, fault a = none) : forEach body s l = (.ok (), l.foldl accept s) := by
  have happend := forEach_append hbody s hclean []
  rw [List.append_nil] at happend
  exact happend

/-- A loop that ends early. -/
theorem forEach_stopsAt (hbody : Body body fault accept interrupt) (s : σ)
    (h : StopsAt fault l before bad) :
    ∃ e, forEach body s l = (.error e, interrupt (before.foldl accept s) bad) := by
  obtain ⟨rest, rfl⟩ := h.split
  obtain ⟨e, he⟩ := Option.ne_none_iff_exists'.mp h.faulty
  exact ⟨e, by rw [forEach_append hbody s h.clean, forEach, hbody.interrupts _ _ e he]⟩

end Faults

end OcenPlatform.Loop
