/-! Durable workflows: a deterministic coroutine that schedules activities one
after another, waits for conditions on its own attributes with a timeout, and
is changed by signals while it is suspended. One event is one activation of the
workflow: the signal handlers of a batch all run, then conditions are checked. -/

namespace OcenPlatform.Durable

variable {S A R G O α β : Type}

/-- The body of a workflow over attributes `S`, activities `A` with results `R`
and final value `O`. `exit` is an early `return` of the run method, `raise` an
exception that fails the workflow task, so that the run makes no progress. -/
inductive Program (S A R O α : Type) where
  | ret (value : α)
  | exit (out : O)
  | raise (error : String)
  | activity (a : A) (next : R → Program S A R O α)
  | wait (cond : S → Bool) (hours : Nat) (next : Bool → Program S A R O α)
  | read (next : S → Program S A R O α)

namespace Program

def bind : Program S A R O α → (α → Program S A R O β) → Program S A R O β
  | .ret v, f => f v
  | .exit out, _ => .exit out
  | .raise e, _ => .raise e
  | .activity a next, f => .activity a fun r => (next r).bind f
  | .wait cond hours next, f => .wait cond hours fun b => (next b).bind f
  | .read next, f => .read fun s => (next s).bind f

instance : Monad (Program S A R O) where
  pure := .ret
  bind := bind

/-- `await workflow.execute_activity(a)`. -/
def execute (a : A) : Program S A R O R := .activity a .ret

/-- `await workflow.wait_condition(cond, timeout)`: false is the `TimeoutError`. -/
def waitCondition (cond : S → Bool) (hours : Nat) : Program S A R O Bool := .wait cond hours .ret

/-- The attributes of the workflow instance at this point. -/
def self : Program S A R O S := .read .ret

def ofExcept : Except String α → Program S A R O α
  | .ok v => .ret v
  | .error e => .raise e

end Program

/-- `RetryPolicy` of an activity. -/
structure RetryPolicy where
  maximumAttempts : Nat
  nonRetryableErrorTypes : List String := []

/-- What the workflow's history records, in order. -/
inductive Obs (A R G : Type) where
  | scheduled (a : A)
  | completed (a : A) (r : R)
  | failed (a : A)
  | timedOut
  | signalled (g : G)
  deriving Repr

abbrev History (A R G : Type) := List (Obs A R G)

/-- Initial attributes and signal handlers of a workflow class. -/
structure Handlers (S G : Type) where
  init : S
  handle : S → G → S

/-- Where a run stands between two events. -/
inductive Status (S A R O : Type) where
  | awaiting (a : A) (next : R → Program S A R O O)
  | waiting (cond : S → Bool) (hours : Nat) (next : Bool → Program S A R O O)
  | returned (out : O)
  | failed (a : A)
  | stuck (error : String)

structure Exec (S A R G O : Type) where
  self : S
  history : History A R G
  status : Status S A R O

/-- What reaches a suspended workflow: a batch of signals, the final result or
the final failure (after all retries) of the running activity, or the timer of
the wait it is in. -/
inductive Event (R G : Type) where
  | signals (batch : List G)
  | completed (r : R)
  | failed
  | timerFired

/-- Run the coroutine up to the next point where it is suspended or ends. -/
def advance (s : S) : Program S A R O O → Status S A R O
  | .ret out => .returned out
  | .exit out => .returned out
  | .raise e => .stuck e
  | .activity a next => .awaiting a next
  | .wait cond hours next => if cond s then advance s (next true) else .waiting cond hours next
  | .read next => advance s (next s)

/-- Reaching an activity schedules it. -/
def Status.schedules : Status S A R O → History A R G
  | .awaiting a _ => [.scheduled a]
  | _ => []

def resume (s : S) (h : History A R G) (p : Program S A R O O) : Exec S A R G O :=
  ⟨s, h ++ (advance s p).schedules, advance s p⟩

section Run

variable (w : Handlers S G)

/-- Signals that are there before the first activation are handled before it. -/
def start (p : Program S A R O O) (early : List G) : Exec S A R G O :=
  resume (early.foldl w.handle w.init) (early.map .signalled) p

/-- One activation. An event for which the run does not wait is dropped, and so
is everything sent to a run that has ended. -/
def step (x : Exec S A R G O) : Event R G → Exec S A R G O
  | .signals batch =>
    let s := batch.foldl w.handle x.self
    let h := x.history ++ batch.map .signalled
    match x.status with
    | .awaiting _ _ => ⟨s, h, x.status⟩
    | .waiting cond _ next => if cond s then resume s h (next true) else ⟨s, h, x.status⟩
    | _ => x
  | .completed r =>
    match x.status with
    | .awaiting a next => resume x.self (x.history ++ [.completed a r]) (next r)
    | _ => x
  | .failed =>
    match x.status with
    | .awaiting a _ => ⟨x.self, x.history ++ [.failed a], .failed a⟩
    | _ => x
  | .timerFired =>
    match x.status with
    | .waiting _ _ next => resume x.self (x.history ++ [.timedOut]) (next false)
    | _ => x

def run (p : Program S A R O O) (early : List G) (events : List (Event R G)) :
    Exec S A R G O :=
  events.foldl (step w) (start w p early)

end Run

/-! ## Entries of a list and what comes before them -/

/-- `P` holds of every entry of the list and the entries before it. -/
def EachEntry {ι : Type} (P : List ι → ι → Prop) (l : List ι) : Prop :=
  ∀ before o after, l = before ++ o :: after → P before o

theorem eachEntry_nil {ι : Type} {P : List ι → ι → Prop} : EachEntry P [] := by
  intro before o after heq
  simp at heq

theorem EachEntry.left {ι : Type} {P : List ι → ι → Prop} {l l' : List ι}
    (h : EachEntry P (l ++ l')) : EachEntry P l := by
  rintro before o after rfl
  exact h before o (after ++ l') (List.append_assoc _ _ _)

theorem eachEntry_snoc {ι : Type} {P : List ι → ι → Prop} {l : List ι} (o : ι) :
    EachEntry P (l ++ [o]) ↔ EachEntry P l ∧ P l o := by
  constructor
  · intro hall
    exact ⟨hall.left, hall l o [] rfl⟩
  · rintro ⟨hall, hlast⟩ before o' after heq
    rcases List.append_eq_append_iff.mp heq with ⟨mid, hbefore, hafter⟩ | ⟨mid, hl, hafter⟩
    · cases mid with
      | nil =>
        obtain ⟨rfl, -⟩ : o = o' ∧ _ := by simpa using hafter
        rw [hbefore, List.append_nil]
        exact hlast
      | cons x mid => simp at hafter
    · cases mid with
      | nil =>
        obtain ⟨rfl, -⟩ : o' = o ∧ _ := by simpa using hafter
        rw [← List.append_nil before, ← hl]
        exact hlast
      | cons x mid =>
        obtain ⟨rfl, -⟩ := List.cons.inj hafter
        exact hall before o' mid hl

/-! ## Reading a history -/

@[simp] def Obs.signal? : Obs A R G → Option G
  | .signalled g => some g
  | _ => none

@[simp] def Obs.scheduled? : Obs A R G → Option A
  | .scheduled a => some a
  | _ => none

@[simp] def Obs.result? : Obs A R G → Option (A × R)
  | .completed a r => some (a, r)
  | _ => none

namespace History

def signals (h : History A R G) : List G := h.filterMap Obs.signal?

def scheduled (h : History A R G) : List A := h.filterMap Obs.scheduled?

def results (h : History A R G) : List (A × R) := h.filterMap Obs.result?

@[simp] theorem signals_append (h h' : History A R G) :
    signals (h ++ h') = signals h ++ signals h' := List.filterMap_append

@[simp] theorem scheduled_append (h h' : History A R G) :
    scheduled (h ++ h') = scheduled h ++ scheduled h' := List.filterMap_append

@[simp] theorem results_append (h h' : History A R G) :
    results (h ++ h') = results h ++ results h' := List.filterMap_append

@[simp] theorem signals_nil : signals ([] : History A R G) = [] := rfl

@[simp] theorem scheduled_nil : scheduled ([] : History A R G) = [] := rfl

@[simp] theorem results_nil : results ([] : History A R G) = [] := rfl

@[simp] theorem signals_cons (o : Obs A R G) (h : History A R G) :
    signals (o :: h) = o.signal?.toList ++ signals h := by
  cases o <;> rfl

@[simp] theorem scheduled_cons (o : Obs A R G) (h : History A R G) :
    scheduled (o :: h) = o.scheduled?.toList ++ scheduled h := by
  cases o <;> rfl

@[simp] theorem results_cons (o : Obs A R G) (h : History A R G) :
    results (o :: h) = o.result?.toList ++ results h := by
  cases o <;> rfl

@[simp] theorem signals_signalled (gs : List G) :
    signals (gs.map .signalled : History A R G) = gs := by
  induction gs with
  | nil => rfl
  | cons g gs ih => simpa using ih

@[simp] theorem scheduled_signalled (gs : List G) :
    scheduled (gs.map .signalled : History A R G) = [] := by
  induction gs with
  | nil => rfl
  | cons g gs ih => simpa using ih

@[simp] theorem results_signalled (gs : List G) :
    results (gs.map .signalled : History A R G) = [] := by
  induction gs with
  | nil => rfl
  | cons g gs ih => simpa using ih

theorem mem_results_completed (h : History A R G) (a : A) (r : R) :
    (a, r) ∈ results (h ++ [.completed a r]) := by simp

/-- `P` holds of every scheduled activity and the history before it. -/
def EachScheduled (P : History A R G → A → Prop) (h : History A R G) : Prop :=
  ∀ before a after, h = before ++ .scheduled a :: after → P before a

section EachScheduled

variable {P : History A R G → A → Prop} {h : History A R G}

theorem eachScheduled_iff : EachScheduled P h ↔
    EachEntry (fun before o => ∀ a, o = .scheduled a → P before a) h := by
  constructor
  · rintro hall before o after heq a rfl
    exact hall before a after heq
  · intro hall before a after heq
    exact hall before _ after heq a rfl

theorem eachScheduled_nil : EachScheduled P ([] : History A R G) :=
  eachScheduled_iff.mpr eachEntry_nil

theorem eachScheduled_snoc (o : Obs A R G) :
    EachScheduled P (h ++ [o]) ↔ EachScheduled P h ∧ ∀ a, o = .scheduled a → P h a := by
  rw [eachScheduled_iff, eachEntry_snoc, eachScheduled_iff]

theorem eachScheduled_signalled (gs : List G) :
    EachScheduled P (h ++ gs.map .signalled) ↔ EachScheduled P h := by
  induction gs generalizing h with
  | nil => simp
  | cons g gs ih =>
    have hsplit : h ++ (g :: gs).map .signalled = h ++ [.signalled g] ++ gs.map .signalled := by
      simp
    rw [hsplit, ih, eachScheduled_snoc]
    simp

end EachScheduled

end History

/-- The attributes that the signals of a history leave behind. -/
def replay (w : Handlers S G) (h : History A R G) : S :=
  (History.signals h).foldl w.handle w.init

section Replay

variable (w : Handlers S G) (h : History A R G)

@[simp] theorem replay_scheduled (a : A) : replay w (h ++ [.scheduled a]) = replay w h := by
  simp [replay]

@[simp] theorem replay_completed (a : A) (r : R) :
    replay w (h ++ [.completed a r]) = replay w h := by
  simp [replay]

@[simp] theorem replay_failed (a : A) : replay w (h ++ [.failed a]) = replay w h := by
  simp [replay]

@[simp] theorem replay_timedOut : replay w (h ++ [.timedOut]) = replay w h := by
  simp [replay]

theorem replay_signalled (gs : List G) :
    replay w (h ++ gs.map .signalled) = gs.foldl w.handle (replay w h) := by
  simp [replay, List.foldl_append]

end Replay

/-! ## Single steps -/

section Steps

variable (w : Handlers S G) {x : Exec S A R G O}

theorem Status.schedules_results (st : Status S A R O) :
    History.results (st.schedules : History A R G) = [] := by
  cases st <;> rfl

theorem Status.schedules_signals (st : Status S A R O) :
    History.signals (st.schedules : History A R G) = [] := by
  cases st <;> rfl

/-- Signals complete nothing. -/
theorem step_signals_results (batch : List G) :
    (step w x (.signals batch)).history.results = x.history.results := by
  obtain ⟨s, h, st⟩ := x
  cases st with
  | awaiting a next => simp [step]
  | waiting cond hours next =>
    simp only [step]
    split <;> simp [resume, Status.schedules_results]
  | returned out => rfl
  | failed a => rfl
  | stuck err => rfl

theorem step_signals_signals {cond : S → Bool} {hours : Nat} {next : Bool → Program S A R O O}
    (hx : x.status = .waiting cond hours next) (batch : List G) :
    (step w x (.signals batch)).history.signals = x.history.signals ++ batch := by
  obtain ⟨s, h, st⟩ := x
  subst hx
  simp only [step]
  split <;> simp [resume, Status.schedules_signals]

theorem step_timerFired_results :
    (step w x .timerFired).history.results = x.history.results := by
  obtain ⟨s, h, st⟩ := x
  cases st <;> simp [step, resume, Status.schedules_results]

section Awaiting

variable {a : A} {next : R → Program S A R O O}

theorem step_completed_results (hx : x.status = .awaiting a next) (r : R) :
    (step w x (.completed r)).history.results = x.history.results ++ [(a, r)] := by
  simp [step, hx, resume, Status.schedules_results]

theorem step_failed_results (hx : x.status = .awaiting a next) :
    (step w x .failed).history.results = x.history.results := by
  simp [step, hx]

/-- Only its own result or failure ends the wait for an activity. -/
theorem step_signals_awaiting (hx : x.status = .awaiting a next) (batch : List G) :
    (step w x (.signals batch)).status = .awaiting a next := by
  simp [step, hx]

theorem step_timerFired_awaiting (hx : x.status = .awaiting a next) :
    (step w x .timerFired).status = .awaiting a next := by
  simp [step, hx]

end Awaiting

/-- Nothing reaches a run that has returned. -/
theorem foldl_step_returned {out : O} (hx : x.status = .returned out)
    (events : List (Event R G)) : events.foldl (step w) x = x := by
  induction events with
  | nil => rfl
  | cons e events ih =>
    have hstep : step w x e = x := by
      cases e <;> simp [step, hx]
    rw [List.foldl_cons, hstep, ih]

theorem run_append (p : Program S A R O O) (early : List G) (events events' : List (Event R G)) :
    run w p early (events ++ events') = events'.foldl (step w) (run w p early events) :=
  List.foldl_append

end Steps

end OcenPlatform.Durable
