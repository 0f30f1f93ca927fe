/-! Runs of operations. If every operation that is admitted keeps an invariant of one
machine, or keeps two machines related and shows the same, then so does every run of
such operations. -/

namespace OcenPlatform.Durable.Guarded

variable {σ ω : Type}

/-- Every operation of the run is admitted in the state that it meets. -/
def Admitted (step : σ → ω → σ) (Ok : σ → ω → Prop) (s : σ) : List ω → Prop
  | [] => True
  | op :: ops => Ok s op ∧ Admitted step Ok (step s op) ops

instance decidableAdmitted {step : σ → ω → σ} {Ok : σ → ω → Prop} [∀ s, DecidablePred (Ok s)] :
    ∀ s ops, Decidable (Admitted step Ok s ops)
  | _, [] => .isTrue trivial
  | s, op :: ops =>
    have : Decidable (Admitted step Ok (step s op) ops) := decidableAdmitted (step s op) ops
    inferInstanceAs (Decidable (_ ∧ _))

/-- **Run lemma.** -/
theorem inv_foldl {step : σ → ω → σ} {Ok : σ → ω → Prop} {Inv : σ → Prop}
    (hstep : ∀ s op, Inv s → Ok s op → Inv (step s op)) {s : σ} (hs : Inv s) {ops : List ω}
    (hops : Admitted step Ok s ops) : Inv (ops.foldl step s) := by
  induction ops generalizing s with
  | nil => exact hs
  | cons op ops ih => exact ih (hstep s op hs hops.1) hops.2

/-- An invariant that the admitted operations keep and no other one does. -/
theorem inv_foldl_iff {step : σ → ω → σ} {Ok : σ → ω → Prop} {Inv : σ → Prop}
    (hstep : ∀ s op, Inv (step s op) ↔ Inv s ∧ Ok s op) {s : σ} {ops : List ω} :
    Inv (ops.foldl step s) ↔ Inv s ∧ Admitted step Ok s ops := by
  induction ops generalizing s with
  | nil => exact (and_iff_left trivial).symm
  | cons op ops ih =>
    rw [List.foldl_cons, ih, hstep, and_assoc]
    rfl

end OcenPlatform.Durable.Guarded

namespace OcenPlatform.Durable.Emitting

variable {σ ω ρ : Type} (step : σ → ω → Option ρ × σ)

def after (s : σ) (ops : List ω) : σ := ops.foldl (fun s op => (step s op).2) s

/-- What the operations of a run emit. -/
def emitted (s : σ) : List ω → List ρ
  | [] => []
  | op :: ops => (step s op).1.toList ++ emitted (step s op).2 ops

variable {step : σ → ω → Option ρ × σ} {s : σ}

@[simp] theorem after_nil : after step s [] = s := rfl

@[simp] theorem after_cons (op : ω) (ops : List ω) :
    after step s (op :: ops) = after step (step s op).2 ops := rfl

theorem emitted_cons_none {op : ω} (h : (step s op).1 = none) (ops : List ω) :
    emitted step s (op :: ops) = emitted step (step s op).2 ops := by
  rw [emitted, h, Option.toList_none, List.nil_append]

theorem emitted_cons_some {op : ω} {r : ρ} (h : (step s op).1 = some r) (ops : List ω) :
    emitted step s (op :: ops) = r :: emitted step (step s op).2 ops := by
  rw [emitted, h, Option.toList_some, List.singleton_append]

theorem emitted_append (ops ops' : List ω) : emitted step s (ops ++ ops') =
    emitted step s ops ++ emitted step (after step s ops) ops' := by
  induction ops generalizing s with
  | nil => rfl
  | cons op ops ih => rw [List.cons_append, emitted, emitted, ih, List.append_assoc, after_cons]

/-- Where in the run something was emitted. -/
theorem emitted_split {ops : List ω} {front back : List ρ} {r : ρ}
    (h : emitted step s ops = front ++ r :: back) :
    ∃ before op rest, ops = before ++ op :: rest ∧ (step (after step s before) op).1 = some r ∧
      emitted step (step (after step s before) op).2 rest = back ∧
      emitted step s before = front := by
  induction ops generalizing s front with
  | nil => simp [emitted] at h
  | cons op ops ih =>
    cases hstep : (step s op).1 with
    | none =>
      rw [emitted_cons_none hstep] at h
      obtain ⟨before, op', rest, rfl, hop, hrest, hbefore⟩ := ih h
      exact ⟨op :: before, op', rest, rfl, hop, hrest, (emitted_cons_none hstep _).trans hbefore⟩
    | some r' =>
      rw [emitted_cons_some hstep] at h
      cases front with
      | nil =>
        obtain ⟨rfl, hback⟩ := List.cons.inj h
        exact ⟨[], op, ops, rfl, hstep, hback, rfl⟩
      | cons r'' front =>
        obtain ⟨rfl, hops⟩ := List.cons.inj h
        obtain ⟨before, op', rest, rfl, hop, hrest, rfl⟩ := ih hops
        exact ⟨op :: before, op', rest, rfl, hop, hrest, emitted_cons_some hstep _⟩

/-- The first thing of its kind that was emitted. -/
theorem emitted_first {P : ρ → Prop} [DecidablePred P] {ops : List ω}
    (h : ∃ r ∈ emitted step s ops, P r) :
    ∃ before op rest r, ops = before ++ op :: rest ∧ (step (after step s before) op).1 = some r ∧
      P r ∧ ∀ r ∈ emitted step s before, ¬ P r := by
  obtain ⟨r, hmem, hr⟩ := h
  have hsome : ((emitted step s ops).find? (P ·)).isSome = true :=
    List.find?_isSome.mpr ⟨r, hmem, decide_eq_true hr⟩
  obtain ⟨r', hfind⟩ := Option.isSome_iff_exists.mp hsome
  obtain ⟨hr', front, back, hsplit, hfront⟩ := List.find?_eq_some_iff_append.mp hfind
  obtain ⟨before, op, rest, rfl, hop, -, rfl⟩ := emitted_split hsplit
  exact ⟨before, op, rest, r', rfl, hop, of_decide_eq_true hr', by simpa using hfront⟩

/-- A run whose operations are those of another run under another view. -/
theorem emitted_map {σ' ω' ρ' : Type} {step' : σ' → ω' → Option ρ' × σ'} {F : σ → σ'} {G : ω → ω'}
    {H : ρ → ρ'} (hstep : ∀ s op, step' (F s) (G op) = ((step s op).1.map H, F (step s op).2))
    (s : σ) (ops : List ω) :
    emitted step' (F s) (ops.map G) = (emitted step s ops).map H := by
  induction ops generalizing s with
  | nil => rfl
  | cons op ops ih =>
    rw [List.map_cons, emitted, emitted, hstep, ih, List.map_append]
    cases (step s op).1 <;> rfl

/-- Where in the run two things were emitted, one after the other. -/
theorem emitted_pair {ops : List ω} {r r' : ρ} (h : [r, r'].Sublist (emitted step s ops)) :
    ∃ before op between op' rest, ops = before ++ op :: (between ++ op' :: rest) ∧
      (step (after step s before) op).1 = some r ∧
      (step (after step (step (after step s before) op).2 between) op').1 = some r' := by
  obtain ⟨first, second, heq, hr, hr'⟩ := List.cons_sublist_iff.mp h
  obtain ⟨front, back, rfl⟩ := List.append_of_mem hr
  rw [List.append_assoc, List.cons_append] at heq
  obtain ⟨before, op, rest, rfl, hop, hrest, -⟩ := emitted_split heq
  have hmem : r' ∈ emitted step (step (after step s before) op).2 rest := by
    rw [hrest]
    exact List.mem_append_right _ (List.singleton_sublist.mp hr')
  obtain ⟨front', back', hsplit⟩ := List.append_of_mem hmem
  obtain ⟨between, op', rest', rfl, hop', -⟩ := emitted_split hsplit
  exact ⟨before, op, between, op', rest', rfl, hop, hop'⟩

/-- What holds of everything that a step emits holds of everything emitted. -/
theorem mem_emitted {ops : List ω} {r : ρ} (h : r ∈ emitted step s ops) :
    ∃ before op rest, ops = before ++ op :: rest ∧ (step (after step s before) op).1 = some r := by
  obtain ⟨front, back, hsplit⟩ := List.append_of_mem h
  obtain ⟨before, op, rest, hops, hop, -⟩ := emitted_split hsplit
  exact ⟨before, op, rest, hops, hop⟩

end OcenPlatform.Durable.Emitting

namespace OcenPlatform.Durable.Lockstep

variable {σ τ ω ρ : Type}

/-- The results of the operations, one after another. -/
def results (step : σ → ω → ρ × σ) (s : σ) : List ω → List ρ
  | [] => []
  | op :: ops => (step s op).1 :: results step (step s op).2 ops

/-- A result is that of its operation after the ones before it. -/
theorem results_getElem? (step : σ → ω → ρ × σ) (s : σ) (before : List ω) (op : ω) (rest : List ω) :
    (results step s (before ++ op :: rest))[before.length]? =
      some (step (before.foldl (fun s op => (step s op).2) s) op).1 := by
  induction before generalizing s with
  | nil => rfl
  | cons first before ih => exact ih (step s first).2

/-- Every operation of the run is admitted in the states that it meets. -/
def Admitted (step : σ → ω → ρ × σ) (step' : τ → ω → ρ × τ) (Ok : σ → τ → ω → Prop) (s : σ) (t : τ) :
    List ω → Prop
  | [] => True
  | op :: ops => Ok s t op ∧ Admitted step step' Ok (step s op).2 (step' t op).2 ops

/-- **Run lemma.** -/
theorem results_eq {step : σ → ω → ρ × σ} {step' : τ → ω → ρ × τ} {Ok : σ → τ → ω → Prop}
    {Related : σ → τ → Prop} {κ : Type} {view : ρ → κ}
    (hstep : ∀ s t op, Related s t → Ok s t op →
      view (step s op).1 = view (step' t op).1 ∧ Related (step s op).2 (step' t op).2)
    {s : σ} {t : τ} (hrelated : Related s t) {ops : List ω} (hops : Admitted step step' Ok s t ops) :
    (results step s ops).map view = (results step' t ops).map view := by
  induction ops generalizing s t with
  | nil => rfl
  | cons op ops ih =>
    obtain ⟨hview, hnext⟩ := hstep s t op hrelated hops.1
    simp only [results, List.map_cons, hview, ih hnext hops.2]

end OcenPlatform.Durable.Lockstep
