import Mathlib.Algebra.Ring.Nat
import OcenPlatform.Durable.Worker

/-! Runs against a clock, in seconds. An attempt ends at its timeout at the latest, a timer fires
when it is due, and a worker takes up an attempt within `pickup` of when it can start. -/

namespace OcenPlatform.Durable

variable {S A R G O W E α β : Type} {C : Type} {Y : C → Type}

/-! ## Activities -/

/-- The timeouts of an activity's attempts, and the intervals between them. -/
structure Timing where
  startToClose : Nat
  heartbeat : Option Nat := none
  initialInterval : Nat := 1
  maximumInterval : Nat := 100

namespace Timing

variable (T : Timing)

/-- What an attempt can take that sends no heartbeat. -/
def attempt : Nat := min T.startToClose (T.heartbeat.getD T.startToClose)

/-- The interval after so many attempts. It doubles up to its maximum. -/
def backoff : Nat → Nat
  | 0 => 0
  | used + 1 => min (T.initialInterval * 2 ^ used) T.maximumInterval

/-- The longest that `n` more attempts take, after `used` of them. -/
def attempts (pickup used : Nat) : Nat → Nat
  | 0 => 0
  | n + 1 => T.backoff used + pickup + (T.attempt + attempts pickup (used + 1) n)

end Timing

/-! ## Programs -/

/-- Whatever results of their kind its activities have, and however long they take, the program
raises nothing and is over within `d`. -/
def Program.Within (ok : A → R → Prop) (cost : A → Nat) : Program S A R O α → Nat → Prop
  | .ret _, _ => True
  | .exit _, _ => True
  | .raise _, _ => False
  | .activity a next, d => ∃ e, cost a + e ≤ d ∧ ∀ r, ok a r → (next r).Within ok cost e
  | .wait _ hours next, d => ∃ e, hours * 3600 + e ≤ d ∧ ∀ b, (next b).Within ok cost e
  | .read next, d => ∀ s, (next s).Within ok cost d

namespace Program

variable {ok : A → R → Prop} {cost : A → Nat} {d d' e : Nat}

theorem Within.mono {p : Program S A R O α} (h : p.Within ok cost d) (hle : d ≤ d') :
    p.Within ok cost d' := by
  induction p generalizing d d' with
  | ret v => trivial
  | exit out => trivial
  | raise err => exact h
  | activity a next ih =>
    obtain ⟨e, he, hnext⟩ := h
    exact ⟨e, Nat.le_trans he hle, hnext⟩
  | wait cond hours next ih =>
    obtain ⟨e, he, hnext⟩ := h
    exact ⟨e, Nat.le_trans he hle, hnext⟩
  | read next ih => exact fun s => ih s (h s) hle

/-- Fewer results have to be allowed for. -/
theorem Within.imp {ok' : A → R → Prop} {p : Program S A R O α} (h : p.Within ok cost d)
    (hok : ∀ a r, ok' a r → ok a r) : p.Within ok' cost d := by
  induction p generalizing d with
  | ret v => trivial
  | exit out => trivial
  | raise err => exact h
  | activity a next ih =>
    obtain ⟨e, he, hnext⟩ := h
    exact ⟨e, he, fun r hr => ih r (hnext r (hok a r hr))⟩
  | wait cond hours next ih =>
    obtain ⟨e, he, hnext⟩ := h
    exact ⟨e, he, fun b => ih b (hnext b)⟩
  | read next ih => exact fun s => ih s (h s)

/-- **Sequencing.** -/
theorem within_bind {p : Program S A R O α} {f : α → Program S A R O β} (hp : p.Within ok cost d)
    (hf : ∀ v, (f v).Within ok cost e) : (p >>= f).Within ok cost (d + e) := by
  change (p.bind f).Within ok cost (d + e)
  induction p generalizing d with
  | ret v => exact (hf v).mono (Nat.le_add_left _ _)
  | exit out => trivial
  | raise err => exact hp
  | activity a next ih =>
    obtain ⟨d', hd, hnext⟩ := hp
    exact ⟨d' + e, by omega, fun r hr => ih r (hnext r hr)⟩
  | wait cond hours next ih =>
    obtain ⟨d', hd, hnext⟩ := hp
    exact ⟨d' + e, by omega, fun b => ih b (hnext b)⟩
  | read next ih => exact fun s => ih s (hp s)

theorem within_execute_bind {a : A} {f : R → Program S A R O β}
    (hf : ∀ r, ok a r → (f r).Within ok cost e) :
    (execute a >>= f).Within ok cost (cost a + e) :=
  ⟨e, Nat.le_refl _, hf⟩

theorem within_execute_bind_bind {γ : Type} {a : A} {f : R → Program S A R O β}
    {g : β → Program S A R O γ} (hf : ∀ r, ok a r → (f r >>= g).Within ok cost e) :
    (execute a >>= f >>= g).Within ok cost (cost a + e) :=
  ⟨e, Nat.le_refl _, hf⟩

theorem within_ofExcept_bind {x : Except String α} {v : α} {f : α → Program S A R O β} (hx : x = .ok v)
    (hf : (f v).Within ok cost e) : (ofExcept x >>= f).Within ok cost e := by
  subst hx
  exact hf

theorem within_waitCondition_bind {cond : S → Bool} {hours : Nat} {f : Bool → Program S A R O β}
    (hf : ∀ b, (f b).Within ok cost e) :
    (waitCondition cond hours >>= f).Within ok cost (hours * 3600 + e) :=
  ⟨e, Nat.le_refl _, hf⟩

theorem within_self_bind {f : S → Program S A R O β} (hf : ∀ s, (f s).Within ok cost e) :
    (self >>= f).Within ok cost e := hf

end Program

/-! ## Runs -/

section Runs

variable (D : Deployment S A R G O W E C Y) (timing : A → Timing) (pickup : Nat)

/-- How long the world can stay as it is. -/
def World.limit (x : World S A R G O W E C Y) : Option Nat :=
  match x.exec.status, x.attempt with
  | .awaiting a _, none => some ((timing a).backoff x.used + pickup)
  | .awaiting a _, some _ => some (timing a).attempt
  | .waiting _ hours _, _ => some (hours * 3600)
  | _, _ => none

/-- Whether the happening starts or ends an attempt or a wait. -/
def World.moves (x : World S A R G O W E C Y) : Happening G W E C Y → Bool
  | .signals batch =>
    match x.exec.status with
    | .waiting cond _ _ => cond (batch.foldl D.handlers.handle x.exec.self)
    | _ => false
  | .timerFired =>
    match x.exec.status with
    | .waiting _ _ _ => true
    | _ => false
  | .attemptStarted _ =>
    match x.exec.status, x.attempt with
    | .awaiting a _, none => x.used < (D.retryPolicy a).maximumAttempts
    | _, _ => false
  | .attemptLeft =>
    match x.exec.status, x.attempt with
    | .awaiting _ _, some (.done _) => true
    | .awaiting _ _, some (.raise _) => true
    | _, _ => false
  | .attemptLost =>
    match x.exec.status, x.attempt with
    | .awaiting _ _, some _ => true
    | _, _ => false
  | .envChanged _ | .answered _ => false

/-- `since` is the time of the last such happening. -/
structure Timed (S A R G O W E : Type) (C : Type) (Y : C → Type) where
  world : World S A R G O W E C Y
  now : Nat := 0
  since : Nat := 0

namespace Timed

/-- The clock can get to this time. -/
def admits (s : Timed S A R G O W E C Y) (time : Nat) : Bool :=
  s.now ≤ time && (s.world.limit timing pickup).all fun limit => time ≤ s.since + limit

def step (s : Timed S A R G O W E C Y) (e : Nat × Happening G W E C Y) : Timed S A R G O W E C Y where
  world := s.world.step D e.2
  now := e.1
  since := if s.world.moves D e.2 then e.1 else s.since

/-- Nothing happens later than it must. -/
def punctual (s : Timed S A R G O W E C Y) : List (Nat × Happening G W E C Y) → Bool
  | [] => true
  | e :: rest => s.admits timing pickup e.1 && (s.step D e).punctual rest

def start (early : List G) (env : E) : Timed S A R G O W E C Y where
  world := World.start D early env

def run (early : List G) (env : E) (happenings : List (Nat × Happening G W E C Y)) :
    Timed S A R G O W E C Y :=
  happenings.foldl (step D) (start D early env)

end Timed

/-! ## The invariant -/

/-- What attempts of the activity can still take, after `used` of them. -/
def attemptsLeft (a : A) (used : Nat) : Nat :=
  (timing a).attempts pickup used ((D.retryPolicy a).maximumAttempts - used)

/-- The longest that an activity takes. -/
def activityCost (a : A) : Nat := attemptsLeft D timing pickup a 0

/-- A run that has been in this status since then is over by `total`. -/
def Due (ok : A → R → Prop) (total since used : Nat) (attempt : Option (Proc C Y R)) :
    Status S A R O → Prop
  | .awaiting a next => ∃ d, (∀ r, ok a r → (next r).Within ok (activityCost D timing pickup) d) ∧
    match attempt with
    | none => used < (D.retryPolicy a).maximumAttempts ∧
      since + attemptsLeft D timing pickup a used + d ≤ total
    | some p => (∀ r, p.Returns r → ok a r) ∧
      since + ((timing a).attempt + attemptsLeft D timing pickup a used) + d ≤ total
  | .waiting _ hours next => attempt = none ∧ used = 0 ∧
    ∃ d, (∀ b, (next b).Within ok (activityCost D timing pickup) d) ∧
      since + (hours * 3600 + d) ≤ total
  | .returned _ | .failed _ => since ≤ total
  | .stuck _ => False

def Timed.Sound (ok : A → R → Prop) (total : Nat) (s : Timed S A R G O W E C Y) : Prop :=
  Due D timing pickup ok total s.since s.world.used s.world.attempt s.world.exec.status

variable {D timing pickup} {ok : A → R → Prop} {total since used time : Nat}

theorem attemptsLeft_succ {a : A} (h : used < (D.retryPolicy a).maximumAttempts) :
    attemptsLeft D timing pickup a used = (timing a).backoff used + pickup +
      ((timing a).attempt + attemptsLeft D timing pickup a (used + 1)) := by
  unfold attemptsLeft
  obtain ⟨n, hn⟩ : ∃ n, (D.retryPolicy a).maximumAttempts - used = n + 1 := ⟨_, (Nat.succ_pred_eq_of_pos
    (Nat.sub_pos_of_lt h)).symm⟩
  rw [hn, show (D.retryPolicy a).maximumAttempts - (used + 1) = n by omega]
  rfl

/-- The program goes on from here to where it is suspended next. -/
theorem due_advance (hmax : ∀ a, 0 < (D.retryPolicy a).maximumAttempts) {p : Program S A R O O}
    {d : Nat} (s : S) (hp : p.Within ok (activityCost D timing pickup) d) (hle : since + d ≤ total) :
    Due D timing pickup ok total since 0 none (advance s p) := by
  induction p generalizing d with
  | ret v => exact Nat.le_trans (Nat.le_add_right _ _) hle
  | exit out => exact Nat.le_trans (Nat.le_add_right _ _) hle
  | raise err => exact hp
  | activity a next _ =>
    obtain ⟨e, he, hnext⟩ := hp
    refine ⟨e, hnext, hmax a, ?_⟩
    unfold activityCost at he
    omega
  | wait cond hours next ih =>
    obtain ⟨e, he, hnext⟩ := hp
    unfold advance
    split
    · exact ih true (hnext true) (by omega)
    · exact ⟨rfl, rfl, e, hnext, by omega⟩
  | read next ih => exact ih s (hp s) hle

/-- A happening that moves nothing leaves what is due as it was. -/
theorem World.step_of_not_moves {x : World S A R G O W E C Y} {e : Happening G W E C Y}
    (hx : Due D timing pickup ok total since x.used x.attempt x.exec.status)
    (hmoves : x.moves D e = false) :
    Due D timing pickup ok total since (x.step D e).used (x.step D e).attempt
      (x.step D e).exec.status := by
  obtain ⟨⟨self, history, status⟩, env, attempt, used, log⟩ := x
  cases e with
  | signals batch =>
    cases status with
    | waiting cond hours next =>
      simp only [World.moves] at hmoves
      simp only [World.step, Durable.step, hmoves]
      exact hx
    | _ => exact hx
  | timerFired =>
    cases status with
    | waiting cond hours next => cases hmoves
    | _ => exact hx
  | envChanged env => exact hx
  | attemptStarted w =>
    cases status with
    | awaiting a next =>
      cases attempt with
      | none =>
        simp only [World.moves, decide_eq_false_iff_not] at hmoves
        simp only [World.step, if_neg hmoves]
        exact hx
      | some p => exact hx
    | _ => exact hx
  | answered answer =>
    cases status with
    | awaiting a next =>
      cases attempt with
      | none => exact hx
      | some p =>
        cases p with
        | call c cont =>
          simp only [World.step]
          split
          · obtain ⟨d, hnext, hreturns, hle⟩ := hx
            exact ⟨d, hnext, fun r hr => hreturns r (.call _ hr), hle⟩
          · exact hx
        | _ => exact hx
    | _ => exact hx
  | attemptLeft =>
    cases status with
    | awaiting a next =>
      cases attempt with
      | none => exact hx
      | some p =>
        cases p with
        | call c cont => exact hx
        | done r => cases hmoves
        | raise err => cases hmoves
    | _ => exact hx
  | attemptLost =>
    cases status with
    | awaiting a next =>
      cases attempt with
      | none => exact hx
      | some p => cases hmoves
    | _ => exact hx

/-- An attempt that ends without a result leaves the time for those after it. -/
theorem World.due_retire {x : World S A R G O W E C Y} {a : A} {next : R → Program S A R O O}
    {p : Proc C Y R} {retryable : Bool} (hstatus : x.exec.status = .awaiting a next)
    (hattempt : x.attempt = some p)
    (hx : Due D timing pickup ok total since x.used x.attempt x.exec.status)
    (htime : time ≤ since + (timing a).attempt) :
    Due D timing pickup ok total time (x.retire D a retryable).used
      (x.retire D a retryable).attempt (x.retire D a retryable).exec.status := by
  rw [hstatus, hattempt] at hx
  obtain ⟨d, hnext, -, hle⟩ := hx
  unfold World.retire
  split
  · rename_i hretry
    simp only [Bool.and_eq_true, decide_eq_true_eq] at hretry
    simp only [hstatus]
    exact ⟨d, hnext, hretry.2, by omega⟩
  · have hfailed : (Durable.step D.handlers x.exec .failed).status = .failed a := by
      simp [Durable.step, hstatus]
    rw [hfailed]
    change time ≤ total
    omega

/-- **Step lemma** for what starts or ends an attempt or a wait, in time. -/
theorem World.step_of_moves (hmax : ∀ a, 0 < (D.retryPolicy a).maximumAttempts)
    (hok : ∀ w a r, (D.code w a).Returns r → ok a r) {x : World S A R G O W E C Y}
    {e : Happening G W E C Y} (hx : Due D timing pickup ok total since x.used x.attempt x.exec.status)
    (hmoves : x.moves D e = true)
    (htime : ∀ limit, x.limit timing pickup = some limit → time ≤ since + limit) :
    Due D timing pickup ok total time (x.step D e).used (x.step D e).attempt
      (x.step D e).exec.status := by
  obtain ⟨⟨self, history, status⟩, env, attempt, used, log⟩ := x
  cases e with
  | signals batch =>
    cases status with
    | waiting cond hours next =>
      obtain ⟨hnone, hused, d, hnext, hle⟩ := hx
      have hlimit := htime _ rfl
      simp only at hnone hused
      subst hnone hused
      simp only [World.moves] at hmoves
      simp only [World.step, Durable.step, if_pos hmoves, resume]
      exact due_advance hmax _ (hnext true) (by omega)
    | _ => cases hmoves
  | timerFired =>
    cases status with
    | waiting cond hours next =>
      obtain ⟨hnone, hused, d, hnext, hle⟩ := hx
      have hlimit := htime _ rfl
      simp only at hnone hused
      subst hnone hused
      exact due_advance hmax _ (hnext false) (by omega)
    | _ => cases hmoves
  | envChanged env => cases hmoves
  | answered answer => cases hmoves
  | attemptStarted w =>
    cases status with
    | awaiting a next =>
      cases attempt with
      | none =>
        obtain ⟨d, hnext, hused, hle⟩ := hx
        have hlimit := htime _ rfl
        simp only at hused hle hlimit
        simp only [World.step, if_pos hused]
        rw [attemptsLeft_succ hused] at hle
        exact ⟨d, hnext, fun r hr => hok w a r hr, by omega⟩
      | some p => cases hmoves
    | _ => cases hmoves
  | attemptLeft =>
    cases status with
    | awaiting a next =>
      cases attempt with
      | none => cases hmoves
      | some p =>
        have hlimit := htime _ rfl
        cases p with
        | call c cont => cases hmoves
        | done r =>
          obtain ⟨d, hnext, hreturns, hle⟩ := hx
          simp only at hlimit hle
          exact due_advance hmax _ (hnext r (hreturns r .done)) (by omega)
        | raise err => exact World.due_retire rfl rfl hx hlimit
    | _ => cases hmoves
  | attemptLost =>
    cases status with
    | awaiting a next =>
      cases attempt with
      | none => cases hmoves
      | some p => exact World.due_retire rfl rfl hx (htime _ rfl)
    | _ => cases hmoves

namespace Timed

theorem Sound.step (hmax : ∀ a, 0 < (D.retryPolicy a).maximumAttempts)
    (hok : ∀ w a r, (D.code w a).Returns r → ok a r) {s : Timed S A R G O W E C Y}
    (hs : s.Sound D timing pickup ok total) {e : Nat × Happening G W E C Y}
    (hadmits : s.admits timing pickup e.1 = true) : (s.step D e).Sound D timing pickup ok total := by
  unfold Sound Timed.step
  simp only
  split
  · rename_i hmoves
    refine World.step_of_moves hmax hok hs hmoves fun limit hlimit => ?_
    simp only [admits, hlimit, Option.all_some, Bool.and_eq_true, decide_eq_true_eq] at hadmits
    exact hadmits.2
  · rename_i hmoves
    exact World.step_of_not_moves hs (by simpa using hmoves)

/-- **Run lemma.** -/
theorem sound_run (hmax : ∀ a, 0 < (D.retryPolicy a).maximumAttempts)
    (hok : ∀ w a r, (D.code w a).Returns r → ok a r)
    (hprogram : D.program.Within ok (activityCost D timing pickup) total) {early : List G} {env : E}
    {happenings : List (Nat × Happening G W E C Y)}
    (hpunctual : (start D early env).punctual D timing pickup happenings = true) :
    (run D early env happenings).Sound D timing pickup ok total := by
  have hstart : (start D early env).Sound D timing pickup ok total :=
    due_advance hmax _ hprogram (by simp [start])
  unfold run
  generalize start D early env = s at hstart hpunctual
  induction happenings generalizing s with
  | nil => exact hstart
  | cons e happenings ih =>
    simp only [punctual, Bool.and_eq_true] at hpunctual
    exact ih _ (hstart.step hmax hok hpunctual.1) hpunctual.2

/-- Without its clock a run is one of the world. -/
theorem run_world (early : List G) (env : E) (happenings : List (Nat × Happening G W E C Y)) :
    (run D early env happenings).world = World.run D early env (happenings.map Prod.snd) := by
  have hfold : ∀ s : Timed S A R G O W E C Y, (happenings.foldl (Timed.step D) s).world =
      (happenings.map Prod.snd).foldl (World.step D) s.world := by
    induction happenings with
    | nil => exact fun _ => rfl
    | cons e happenings ih => exact fun s => ih (s.step D e)
  exact hfold (start D early env)

/-- The workflow has returned, or failed for good. -/
def Over (s : Timed S A R G O W E C Y) : Prop :=
  (∃ out, s.world.exec.status = .returned out) ∨ ∃ a, s.world.exec.status = .failed a

variable (timing pickup) in
/-- The run was over by then, or the clock cannot get further than that. -/
def InTime (s : Timed S A R G O W E C Y) (total : Nat) : Prop :=
  s.Over ∧ s.since ≤ total ∨ ∀ time, s.admits timing pickup time = true → time ≤ total

/-- **Over in time.** -/
theorem Sound.inTime {s : Timed S A R G O W E C Y} (hs : s.Sound D timing pickup ok total) :
    s.InTime timing pickup total := by
  have hadmitted : ∀ {limit}, s.world.limit timing pickup = some limit → s.since + limit ≤ total →
      ∀ time, s.admits timing pickup time = true → time ≤ total := by
    intro limit hlimit hle time hadmits
    simp only [admits, hlimit, Option.all_some, Bool.and_eq_true, decide_eq_true_eq] at hadmits
    exact Nat.le_trans hadmits.2 hle
  unfold Sound at hs
  cases hstatus : s.world.exec.status with
  | returned out =>
    rw [hstatus] at hs
    exact .inl ⟨.inl ⟨out, hstatus⟩, hs⟩
  | failed a =>
    rw [hstatus] at hs
    exact .inl ⟨.inr ⟨a, hstatus⟩, hs⟩
  | stuck err =>
    rw [hstatus] at hs
    exact hs.elim
  | waiting cond hours next =>
    rw [hstatus] at hs
    obtain ⟨-, -, d, -, hle⟩ := hs
    have hlimit : s.world.limit timing pickup = some (hours * 3600) := by
      simp only [World.limit, hstatus]
    exact .inr (hadmitted hlimit (Nat.le_trans (Nat.add_le_add_left (Nat.le_add_right _ d) _) hle))
  | awaiting a next =>
    cases hattempt : s.world.attempt with
    | none =>
      rw [hstatus, hattempt] at hs
      obtain ⟨d, -, hused, hle⟩ := hs
      rw [attemptsLeft_succ hused] at hle
      exact .inr (hadmitted (by rw [World.limit, hstatus, hattempt]) (by omega))
    | some p =>
      rw [hstatus, hattempt] at hs
      obtain ⟨d, -, -, hle⟩ := hs
      exact .inr (hadmitted (by rw [World.limit, hstatus, hattempt]) (by omega))

end Timed

end Runs

end OcenPlatform.Durable
