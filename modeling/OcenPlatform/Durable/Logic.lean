import OcenPlatform.Durable.Program

/-! A program logic for durable workflows. `VC` is the verification condition of
a program over histories: results and the signals that arrive while the run is
suspended are arbitrary, attributes are read off the history. `holds_run` turns
a proved condition into a fact about every run. -/

namespace OcenPlatform.Durable

variable {S A R G O α β : Type}

/-- What is claimed of a run in each kind of status: while activity `a` runs,
while a condition is awaited, when the run cannot go on, and at its return. -/
structure Contract (A R G O : Type) where
  pending : A → History A R G → Prop
  waiting : History A R G → Prop
  broken : History A R G → Prop
  returned : O → History A R G → Prop

def Contract.Holds (K : Contract A R G O) (x : Exec S A R G O) : Prop :=
  match x.status with
  | .awaiting a _ => K.pending a x.history
  | .waiting _ _ _ => K.waiting x.history
  | .returned out => K.returned out x.history
  | .failed _ | .stuck _ => K.broken x.history

theorem Contract.Holds.pending {K : Contract A R G O} {x : Exec S A R G O} (h : K.Holds x) {a : A}
    {next : R → Program S A R O O} (hx : x.status = .awaiting a next) : K.pending a x.history := by
  simpa [Contract.Holds, hx] using h

variable (w : Handlers S G) (K : Contract A R G O)

/-- The condition under which `p`, started after history `h`, keeps the contract
and establishes `Q` where it ends normally. The list `gs` holds the signals
delivered while the program is suspended. -/
def VC (Q : α → History A R G → Prop) : Program S A R O α → History A R G → Prop
  | .ret v, h => Q v h
  | .exit out, h => K.returned out h
  | .raise _, h => K.broken h
  | .activity a next, h => ∀ gs : List G,
      K.pending a (h ++ [.scheduled a] ++ gs.map .signalled) ∧
      K.broken (h ++ [.scheduled a] ++ gs.map .signalled ++ [.failed a]) ∧
      ∀ r, VC Q (next r) (h ++ [.scheduled a] ++ gs.map .signalled ++ [.completed a r])
  | .wait cond _ next, h => ∀ gs : List G,
      if cond (replay w (h ++ gs.map .signalled)) then VC Q (next true) (h ++ gs.map .signalled)
      else K.waiting (h ++ gs.map .signalled) ∧
        VC Q (next false) (h ++ gs.map .signalled ++ [.timedOut])
  | .read next, h => VC Q (next (replay w h)) h

variable {w K}

/-- **Rule of consequence.** -/
theorem VC.mono {Q Q' : α → History A R G → Prop} (hQ : ∀ v h, Q v h → Q' v h)
    {p : Program S A R O α} {h : History A R G} (hp : VC w K Q p h) : VC w K Q' p h := by
  induction p generalizing h with
  | ret v => exact hQ v h hp
  | exit out => exact hp
  | raise e => exact hp
  | activity a next ih =>
    intro gs
    obtain ⟨hpend, hfail, hnext⟩ := hp gs
    exact ⟨hpend, hfail, fun r => ih r (hnext r)⟩
  | wait cond hours next ih =>
    intro gs
    have hgs := hp gs
    split at hgs
    · rw [if_pos (by assumption)]; exact ih true hgs
    · rw [if_neg (by assumption)]; exact ⟨hgs.1, ih false hgs.2⟩
  | read next ih => exact ih _ hp

/-- **Sequencing.** -/
theorem VC_bind {Q : β → History A R G → Prop} (p : Program S A R O α)
    (f : α → Program S A R O β) (h : History A R G) :
    VC w K Q (p >>= f) h ↔ VC w K (fun v => VC w K Q (f v)) p h := by
  change VC w K Q (p.bind f) h ↔ _
  induction p generalizing h with
  | ret v => rfl
  | exit out => rfl
  | raise e => rfl
  | activity a next ih => simp only [Program.bind, VC, ih]
  | wait cond hours next ih => simp only [Program.bind, VC, ih]
  | read next ih => simp only [Program.bind, VC, ih]

section Rules

variable {Q : α → History A R G → Prop} {h : History A R G}

theorem VC_pure (v : α) : VC w K Q (pure v : Program S A R O α) h ↔ Q v h := Iff.rfl

theorem VC_ofExcept (e : Except String α) : VC w K Q (.ofExcept e : Program S A R O α) h ↔
    match e with
    | .ok v => Q v h
    | .error _ => K.broken h := by
  cases e <;> rfl

theorem VC_waitCondition {Q : Bool → History A R G → Prop} (cond : S → Bool) (hours : Nat) :
    VC w K Q (.waitCondition cond hours : Program S A R O Bool) h ↔ ∀ gs : List G,
      if cond (replay w (h ++ gs.map .signalled)) then Q true (h ++ gs.map .signalled)
      else K.waiting (h ++ gs.map .signalled) ∧ Q false (h ++ gs.map .signalled ++ [.timedOut]) :=
  Iff.rfl

theorem VC_self {Q : S → History A R G → Prop} :
    VC w K Q (.self : Program S A R O S) h ↔ Q (replay w h) h := Iff.rfl

end Rules

/-! ## Soundness -/

/-- The invariant behind `holds_run`: the attributes are those of the history,
and whatever resumes the run next finds its verification condition proved. -/
def Sound (w : Handlers S G) (K : Contract A R G O) (x : Exec S A R G O) : Prop :=
  x.self = replay w x.history ∧
  match x.status with
  | .awaiting a next => ∀ gs : List G,
      K.pending a (x.history ++ gs.map .signalled) ∧
      K.broken (x.history ++ gs.map .signalled ++ [.failed a]) ∧
      ∀ r, VC w K K.returned (next r) (x.history ++ gs.map .signalled ++ [.completed a r])
  | .waiting cond _ next => cond x.self = false ∧ ∀ gs : List G,
      if cond (replay w (x.history ++ gs.map .signalled)) then
        VC w K K.returned (next true) (x.history ++ gs.map .signalled)
      else K.waiting (x.history ++ gs.map .signalled) ∧
        VC w K K.returned (next false) (x.history ++ gs.map .signalled ++ [.timedOut])
  | .returned out => K.returned out x.history
  | .failed _ | .stuck _ => K.broken x.history

theorem resume_sound {s : S} {h : History A R G} (p : Program S A R O O)
    (hs : s = replay w h) (hp : VC w K K.returned p h) : Sound w K (resume s h p) := by
  subst hs
  induction p with
  | ret out =>
    simp only [resume, advance, Status.schedules, List.append_nil]
    exact ⟨rfl, hp⟩
  | exit out =>
    simp only [resume, advance, Status.schedules, List.append_nil]
    exact ⟨rfl, hp⟩
  | raise e =>
    simp only [resume, advance, Status.schedules, List.append_nil]
    exact ⟨rfl, hp⟩
  | activity a next _ => exact ⟨by simp [resume, advance, Status.schedules], hp⟩
  | wait cond hours next ih =>
    by_cases hc : cond (replay w h) = true
    · have hgo := hp []
      rw [List.map_nil, List.append_nil, if_pos hc] at hgo
      simpa only [resume, advance, if_pos hc] using ih true hgo
    · simp only [resume, advance, if_neg hc, Status.schedules, List.append_nil]
      exact ⟨rfl, by simpa using hc, hp⟩
  | read next ih => simpa only [resume, advance] using ih (replay w h) hp

theorem start_sound {p : Program S A R O O} {early : List G}
    (hp : VC w K K.returned p (early.map .signalled)) : Sound w K (start w p early) :=
  resume_sound p (by simp [replay]) hp

/-- **Step lemma.** Every event preserves the invariant. -/
theorem step_sound {x : Exec S A R G O} (hx : Sound w K x) (e : Event R G) :
    Sound w K (step w x e) := by
  obtain ⟨s, h, st⟩ := x
  obtain ⟨hself, hst⟩ := hx
  simp only at hself
  cases e with
  | signals batch =>
    have hs : batch.foldl w.handle s = replay w (h ++ batch.map .signalled) := by
      rw [replay_signalled, hself]
    cases st with
    | awaiting a next =>
      refine ⟨hs, fun gs => ?_⟩
      simpa only [step, List.map_append, List.append_assoc] using hst (batch ++ gs)
    | waiting cond hours next =>
      by_cases hc : cond (batch.foldl w.handle s) = true
      · have hgo := hst.2 batch
        rw [← hs, if_pos hc] at hgo
        simpa only [step, if_pos hc] using resume_sound _ hs hgo
      · simp only [step, if_neg hc]
        refine ⟨hs, by simpa using hc, fun gs => ?_⟩
        simpa only [List.map_append, List.append_assoc] using hst.2 (batch ++ gs)
    | returned out => exact ⟨hself, hst⟩
    | failed a => exact ⟨hself, hst⟩
    | stuck err => exact ⟨hself, hst⟩
  | completed r =>
    cases st with
    | awaiting a next =>
      have hnext := (hst []).2.2 r
      rw [List.map_nil, List.append_nil] at hnext
      exact resume_sound _ (by simp [hself]) hnext
    | waiting cond hours next => exact ⟨hself, hst⟩
    | returned out => exact ⟨hself, hst⟩
    | failed a => exact ⟨hself, hst⟩
    | stuck err => exact ⟨hself, hst⟩
  | failed =>
    cases st with
    | awaiting a next =>
      have hfail := (hst []).2.1
      rw [List.map_nil, List.append_nil] at hfail
      exact ⟨by simp [step, hself], hfail⟩
    | waiting cond hours next => exact ⟨hself, hst⟩
    | returned out => exact ⟨hself, hst⟩
    | failed a => exact ⟨hself, hst⟩
    | stuck err => exact ⟨hself, hst⟩
  | timerFired =>
    cases st with
    | waiting cond hours next =>
      have hgo := hst.2 []
      rw [List.map_nil, List.append_nil, ← hself, hst.1] at hgo
      exact resume_sound _ (by simp [hself]) hgo.2
    | awaiting a next => exact ⟨hself, hst⟩
    | returned out => exact ⟨hself, hst⟩
    | failed a => exact ⟨hself, hst⟩
    | stuck err => exact ⟨hself, hst⟩

/-- **Run lemma.** -/
theorem foldl_sound {x : Exec S A R G O} (hx : Sound w K x) (events : List (Event R G)) :
    Sound w K (events.foldl (step w) x) := by
  induction events generalizing x with
  | nil => exact hx
  | cons e events ih => exact ih (step_sound hx e)

/-- A program whose verification condition holds after any signals that precede
its first activation keeps its contract in every run. -/
theorem holds_run {p : Program S A R O O}
    (hp : ∀ early : List G, VC w K K.returned p (early.map .signalled))
    (early : List G) (events : List (Event R G)) : K.Holds (run w p early events) := by
  have hrun : Sound w K (run w p early events) := foldl_sound (start_sound (hp early)) events
  obtain ⟨hself, hst⟩ := hrun
  revert hself hst
  generalize run w p early events = x
  intro hself hst
  cases hx : x.status with
  | awaiting a next =>
    rw [hx] at hst
    simpa [Contract.Holds, hx] using (hst []).1
  | waiting cond hours next =>
    rw [hx] at hst
    have hwait := hst.2 []
    rw [List.map_nil, List.append_nil, ← hself, hst.1] at hwait
    simpa [Contract.Holds, hx] using hwait.1
  | returned out => simpa [Contract.Holds, hx] using hst
  | failed a => simpa [Contract.Holds, hx] using hst
  | stuck err => simpa [Contract.Holds, hx] using hst

/-! ## What every program keeps -/

/-- Every completed activity was scheduled. -/
def Closed (h : History A R G) : Prop := ∀ a r, (a, r) ∈ h.results → a ∈ h.scheduled

def closedContract : Contract A R G O where
  pending a h := Closed h ∧ a ∈ h.scheduled
  waiting := Closed
  broken := Closed
  returned _ := Closed

/-- What completes nothing keeps it. -/
theorem Closed.append {h : History A R G} (hc : Closed h) {h' : History A R G}
    (hresults : h'.results = []) : Closed (h ++ h') := by
  intro a r hmem
  have hold := hc a r (by simpa [hresults] using hmem)
  simp [hold]

theorem Closed.completed {h : History A R G} (hc : Closed h) {a : A} (ha : a ∈ h.scheduled)
    (r : R) : Closed (h ++ [.completed a r]) := by
  intro b r' hmem
  have hmem : (b, r') ∈ h.results ∨ b = a ∧ r' = r := by simpa using hmem
  rcases hmem with hmem | ⟨rfl, -⟩
  · simp [hc b r' hmem]
  · simpa using ha

theorem VC_closed (p : Program S A R O α) {h : History A R G} (hc : Closed h) :
    VC w closedContract (fun _ => Closed) p h := by
  induction p generalizing h with
  | ret v => exact hc
  | exit out => exact hc
  | raise e => exact hc
  | activity a next ih =>
    intro gs
    have hsched : Closed (h ++ [.scheduled a]) := hc.append rfl
    have hrun := hsched.append (History.results_signalled gs)
    have ha : a ∈ History.scheduled (h ++ [.scheduled a] ++ gs.map .signalled) := by simp
    exact ⟨⟨hrun, ha⟩, hrun.append rfl, fun r => ih r (hrun.completed ha r)⟩
  | wait cond hours next ih =>
    intro gs
    have hgs := hc.append (History.results_signalled gs)
    split
    · exact ih true hgs
    · exact ⟨hgs, ih false (hgs.append rfl)⟩
  | read next ih => exact ih _ hc

theorem run_closed (w : Handlers S G) (p : Program S A R O O) (early : List G)
    (events : List (Event R G)) : Closed (run w p early events).history := by
  have hnil : Closed ([] : History A R G) := by
    intro a r hmem
    simp at hmem
  have hcontract := holds_run (w := w) (K := closedContract)
    (fun early => VC_closed p (hnil.append (History.results_signalled early))) early events
  unfold Contract.Holds at hcontract
  split at hcontract
  · exact hcontract.1
  all_goals exact hcontract

end OcenPlatform.Durable
