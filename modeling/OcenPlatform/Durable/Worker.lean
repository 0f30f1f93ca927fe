import OcenPlatform.Durable.Attempt

/-! A workflow run together with the workers that execute its activities. An
activity is attempted as often as its retry policy allows, on any worker; the
environment changes at any time between two steps of an attempt. -/

namespace OcenPlatform.Durable

variable {S A R G O W E : Type} {C : Type} {Y : C → Type}

/-- A workflow, the code of its activities on each worker `W`, their retry policies,
and the answers that calls can get in each environment `E`. -/
structure Deployment (S A R G O W E : Type) (C : Type) (Y : C → Type) where
  handlers : Handlers S G
  program : Program S A R O O
  code : W → A → Proc C Y R
  retryPolicy : A → RetryPolicy
  answers : E → (c : C) → Except String (Y c) → Bool

/-- `attempt` is what the running attempt of the awaited activity still has to do,
`used` how many attempts of it have been started. -/
structure World (S A R G O W E : Type) (C : Type) (Y : C → Type) where
  exec : Exec S A R G O
  env : E
  attempt : Option (Proc C Y R) := none
  used : Nat := 0
  log : Log W A C Y R E := []

inductive Happening (G W E : Type) (C : Type) (Y : C → Type) where
  | signals (batch : List G)
  | timerFired
  | envChanged (env : E)
  | attemptStarted (w : W)
  | answered (answer : (c : C) → Except String (Y c))
  /-- The attempt returns, or raises the exception it stands at. -/
  | attemptLeft
  /-- The attempt times out or its worker is gone, wherever it stands. -/
  | attemptLost

section Steps

variable (D : Deployment S A R G O W E C Y)

/-- An attempt ends without a result: it can be tried again, or the activity fails. -/
def World.retire (x : World S A R G O W E C Y) (a : A) (retryable : Bool) :
    World S A R G O W E C Y :=
  if retryable && x.used < (D.retryPolicy a).maximumAttempts then
    { x with attempt := none, log := x.log ++ [.ended a] }
  else
    { x with
      exec := step D.handlers x.exec .failed
      attempt := none
      used := 0
      log := x.log ++ [.ended a] }

/-- One step. What cannot happen in this state is dropped. -/
def World.step (x : World S A R G O W E C Y) :
    Happening G W E C Y → World S A R G O W E C Y
  | .signals batch => { x with exec := Durable.step D.handlers x.exec (.signals batch) }
  | .timerFired => { x with exec := Durable.step D.handlers x.exec .timerFired }
  | .envChanged env => { x with env := env, log := x.log ++ [.changed env] }
  | .attemptStarted w =>
    match x.exec.status, x.attempt with
    | .awaiting a _, none =>
      if x.used < (D.retryPolicy a).maximumAttempts then
        { x with
          attempt := some (D.code w a)
          used := x.used + 1
          log := x.log ++ [.started w a] }
      else x
    | _, _ => x
  | .answered answer =>
    match x.exec.status, x.attempt with
    | .awaiting a _, some (.call c next) =>
      if D.answers x.env c (answer c) then
        { x with attempt := some (next (answer c)), log := x.log ++ [.called a c (answer c)] }
      else x
    | _, _ => x
  | .attemptLeft =>
    match x.exec.status, x.attempt with
    | .awaiting a _, some (.done r) =>
      { x with
        exec := Durable.step D.handlers x.exec (.completed r)
        attempt := none
        used := 0
        log := x.log ++ [.finished a r] }
    | .awaiting a _, some (.raise err) =>
      x.retire D a (err ∉ (D.retryPolicy a).nonRetryableErrorTypes)
    | _, _ => x
  | .attemptLost =>
    match x.exec.status, x.attempt with
    | .awaiting a _, some _ => x.retire D a true
    | _, _ => x

def World.start (early : List G) (env : E) : World S A R G O W E C Y where
  exec := Durable.start D.handlers D.program early
  env := env

def World.run (early : List G) (env : E) (happenings : List (Happening G W E C Y)) :
    World S A R G O W E C Y :=
  happenings.foldl (World.step D) (World.start D early env)

/-! ## What the log says about a run -/

/-- After this log an attempt of `a` stands at `p`. -/
def InAttempt (l : Log W A C Y R E) (w : W) (a : A) (p : Proc C Y R) : Prop :=
  ∃ before seg, l = before ++ .started w a :: seg ∧ Reaches a (D.code w a) seg p

/-- The workflow has got somewhere, with some events, from its start. -/
def Reachable (early : List G) (x : Exec S A R G O) : Prop :=
  ∃ events, x = Durable.run D.handlers D.program early events

/-- Why an entry can follow the log before it. -/
def Explained (early : List G) (env : E) (before : Log W A C Y R E) :
    Entry W A C Y R E → Prop
  | .started _ a => ∃ x next, Reachable D early x ∧ x.status = .awaiting a next ∧
      x.history.results = before.results
  | .called a c y => (∃ w next, InAttempt D before w a (.call c next)) ∧
      D.answers (before.envAfter env) c y = true
  | .finished a r => ∃ w, InAttempt D before w a (.done r)
  | .ended a => ∃ w p, InAttempt D before w a p
  | .changed _ => True

/-- The invariant of a run: the workflow is in a state of its own, with the results
that the log records, and every entry of the log is explained. -/
structure Coherent (early : List G) (env : E) (x : World S A R G O W E C Y) : Prop where
  reachable : Reachable D early x.exec
  completed : x.exec.history.results = x.log.results
  environment : x.env = x.log.envAfter env
  attempt : ∀ p, x.attempt = some p → ∃ w a next, x.exec.status = .awaiting a next ∧
    InAttempt D x.log w a p
  explained : EachEntry (Explained D early env) x.log

variable {D} {early : List G} {env : E} {x : World S A R G O W E C Y}

theorem InAttempt.snoc_called {l : Log W A C Y R E} {w : W} {a : A} {c : C}
    {next : Except String (Y c) → Proc C Y R} (h : InAttempt D l w a (.call c next))
    (y : Except String (Y c)) : InAttempt D (l ++ [.called a c y]) w a (next y) := by
  obtain ⟨before, seg, rfl, hseg⟩ := h
  exact ⟨before, seg ++ [.called a c y], by simp, hseg.snoc_called y⟩

theorem InAttempt.snoc_changed {l : Log W A C Y R E} {w : W} {a : A} {p : Proc C Y R}
    (h : InAttempt D l w a p) (env : E) : InAttempt D (l ++ [.changed env]) w a p := by
  obtain ⟨before, seg, rfl, hseg⟩ := h
  exact ⟨before, seg ++ [.changed env], by simp, hseg.snoc_changed env⟩

theorem Reachable.step {x : Exec S A R G O} (hx : Reachable D early x) (e : Event R G) :
    Reachable D early (Durable.step D.handlers x e) := by
  obtain ⟨events, rfl⟩ := hx
  exact ⟨events ++ [e], by rw [run_append]; rfl⟩

theorem coherent_start : Coherent D early env (World.start D early env) where
  reachable := ⟨[], rfl⟩
  completed := by
    have hsched := Status.schedules_results (R := R) (G := G)
      (advance (early.foldl D.handlers.handle D.handlers.init) D.program)
    simp [World.start, Durable.start, resume, hsched, Log.results]
  environment := rfl
  attempt := by simp [World.start]
  explained := eachEntry_nil

/-- Recording what is neither a result nor a change of the environment. -/
theorem Coherent.record (hx : Coherent D early env x) (o : Entry W A C Y R E)
    (hresult : o.result? = none) (hchange : o.change? = none)
    (hwhy : Explained D early env x.log o) {attempt : Option (Proc C Y R)} {used : Nat}
    (hattempt : ∀ p, attempt = some p → ∃ w a next, x.exec.status = .awaiting a next ∧
      InAttempt D (x.log ++ [o]) w a p) :
    Coherent D early env
      { x with attempt := attempt, used := used, log := x.log ++ [o] } where
  reachable := hx.reachable
  completed := by
    rw [Log.results_append, Log.results_cons, hresult]
    simpa using hx.completed
  environment := by
    rw [Log.envAfter_snoc, hchange]
    exact hx.environment
  attempt := hattempt
  explained := (eachEntry_snoc _).mpr ⟨hx.explained, hwhy⟩

/-- An attempt that ends without a result. -/
theorem Coherent.retire (hx : Coherent D early env x) {w : W} {a : A}
    {next : R → Program S A R O O} {p : Proc C Y R}
    (hstatus : x.exec.status = .awaiting a next) (hattempt : InAttempt D x.log w a p)
    (retryable : Bool) : Coherent D early env (x.retire D a retryable) := by
  have hwhy : Explained D early env x.log (.ended a) := ⟨w, p, hattempt⟩
  unfold World.retire
  split
  · exact hx.record (.ended a) rfl rfl hwhy (by simp)
  · refine ⟨hx.reachable.step .failed, ?_, ?_, by simp, (eachEntry_snoc _).mpr ⟨hx.explained, hwhy⟩⟩
    · simpa [step_failed_results _ hstatus] using hx.completed
    · simpa using hx.environment

/-- The running attempt is one of the activity that the workflow awaits. -/
theorem Coherent.running (hx : Coherent D early env x) {a : A}
    {next : R → Program S A R O O} {p : Proc C Y R} (hstatus : x.exec.status = .awaiting a next)
    (hattempt : x.attempt = some p) : ∃ w, InAttempt D x.log w a p := by
  obtain ⟨w, a', next', hstatus', hin⟩ := hx.attempt p hattempt
  obtain ⟨rfl, -⟩ : a = a' ∧ _ := by simpa [hstatus] using hstatus'
  exact ⟨w, hin⟩

/-- **Step lemma.** -/
theorem Coherent.step (hx : Coherent D early env x) (e : Happening G W E C Y) :
    Coherent D early env (x.step D e) := by
  cases e with
  | signals batch =>
    refine ⟨hx.reachable.step (.signals batch), ?_, hx.environment, ?_, hx.explained⟩
    · exact (step_signals_results D.handlers batch).trans hx.completed
    · intro p hp
      obtain ⟨w, a, next, hstatus, hin⟩ := hx.attempt p hp
      exact ⟨w, a, next, step_signals_awaiting D.handlers hstatus batch, hin⟩
  | timerFired =>
    refine ⟨hx.reachable.step .timerFired, ?_, hx.environment, ?_, hx.explained⟩
    · exact (step_timerFired_results D.handlers).trans hx.completed
    · intro p hp
      obtain ⟨w, a, next, hstatus, hin⟩ := hx.attempt p hp
      exact ⟨w, a, next, step_timerFired_awaiting D.handlers hstatus, hin⟩
  | envChanged env' =>
    refine ⟨hx.reachable, ?_, ?_, ?_, (eachEntry_snoc _).mpr ⟨hx.explained, trivial⟩⟩
    · simpa [World.step] using hx.completed
    · simp [World.step]
    · intro p hp
      obtain ⟨w, a, next, hstatus, hin⟩ := hx.attempt p hp
      exact ⟨w, a, next, hstatus, hin.snoc_changed env'⟩
  | attemptStarted w =>
    simp only [World.step]
    split
    next a next hstatus hnone =>
      split
      · refine hx.record (.started w a) rfl rfl ⟨x.exec, next, hx.reachable, hstatus, hx.completed⟩ ?_
        intro p hp
        obtain rfl := Option.some.inj hp
        exact ⟨w, a, next, hstatus, x.log, [], rfl, .here⟩
      · exact hx
    next => exact hx
  | answered answer =>
    simp only [World.step]
    split
    next a next c cont hstatus hattempt =>
      obtain ⟨w, hin⟩ := hx.running hstatus hattempt
      split
      · rename_i hanswers
        have hwhy : D.answers (x.log.envAfter env) c (answer c) = true := by
          rw [← hx.environment]
          exact hanswers
        refine hx.record (.called a c (answer c)) rfl rfl ⟨⟨w, cont, hin⟩, hwhy⟩ ?_
        intro p hp
        obtain rfl := Option.some.inj hp
        exact ⟨w, a, next, hstatus, hin.snoc_called (answer c)⟩
      · exact hx
    next => exact hx
  | attemptLeft =>
    simp only [World.step]
    split
    next a next r hstatus hattempt =>
      obtain ⟨w, hin⟩ := hx.running hstatus hattempt
      refine ⟨hx.reachable.step (.completed r), ?_, ?_, by simp,
        (eachEntry_snoc _).mpr ⟨hx.explained, w, hin⟩⟩
      · simpa [step_completed_results _ hstatus] using hx.completed
      · simpa using hx.environment
    next a next err hstatus hattempt =>
      obtain ⟨w, hin⟩ := hx.running hstatus hattempt
      exact hx.retire hstatus hin _
    next => exact hx
  | attemptLost =>
    simp only [World.step]
    split
    next a next p hstatus hattempt =>
      obtain ⟨w, hin⟩ := hx.running hstatus hattempt
      exact hx.retire hstatus hin true
    next => exact hx

/-- **Run lemma.** Every run with its workers is coherent. -/
theorem coherent_run (D : Deployment S A R G O W E C Y) (early : List G) (env : E)
    (happenings : List (Happening G W E C Y)) :
    Coherent D early env (World.run D early env happenings) := by
  unfold World.run
  have hstart : Coherent D early env (World.start D early env) := coherent_start
  generalize World.start D early env = x at hstart
  induction happenings generalizing x with
  | nil => exact hstart
  | cons e happenings ih => exact ih (x.step D e) (hstart.step e)

section Log

variable {l : Log W A C Y R E} {a : A}

/-- A result that the workflow has got was returned by the activity's code. -/
theorem Coherent.returned (hx : Coherent D early env x) {r : R}
    (hmem : (a, r) ∈ x.exec.history.results) : ∃ w, (D.code w a).Returns r := by
  rw [hx.completed] at hmem
  obtain ⟨before, after, hlog⟩ := Log.mem_results.mp hmem
  obtain ⟨w, b, seg, -, hseg⟩ := hx.explained before _ after hlog
  exact ⟨w, hseg.returns⟩

/-- A result of the log was returned by an attempt that has started before. -/
theorem Coherent.started_of_mem (hx : Coherent D early env x) {l' : Log W A C Y R E}
    (hlog : x.log = l ++ l') {r : R} (hmem : (a, r) ∈ l.results) :
    ∃ w, .started w a ∈ l ∧ (D.code w a).Returns r := by
  obtain ⟨before, after, rfl⟩ := Log.mem_results.mp hmem
  have hsplit : x.log = before ++ .finished a r :: (after ++ l') := by simp [hlog]
  obtain ⟨w, start, seg, rfl, hseg⟩ := hx.explained before _ _ hsplit
  exact ⟨w, by simp, hseg.returns⟩

end Log

end Steps

end OcenPlatform.Durable
