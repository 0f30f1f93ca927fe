import Mathlib.Data.List.Forall2
import Mathlib.Data.List.Induction
import OcenPlatform.Durable.Worker

/-! A namespace that hosts runs of workflows. A start is refused while a run with its id is
open; a signal is taken by the open run with its id, or refused; all runs live in one
environment. Each run is a run of its own, and together they have taken what was accepted. -/

namespace OcenPlatform.Durable

/-- The run can go no further: a run that is stuck is still open. -/
def Status.isOver {S A R O : Type} : Status S A R O → Bool
  | .returned _ | .failed _ => true
  | _ => false

/-- What the timers and the workers do, unlike signals and changes of the environment. -/
def Happening.isOwn {G W E : Type} {C : Type} {Y : C → Type} : Happening G W E C Y → Bool
  | .signals _ | .envChanged _ => false
  | _ => true

/-- What can activate the workflow. -/
def Happening.activates {G W E : Type} {C : Type} {Y : C → Type} : Happening G W E C Y → Bool
  | .timerFired | .attemptLeft | .attemptLost => true
  | _ => false

/-- The signals of a happening. -/
def Happening.batch {G W E : Type} {C : Type} {Y : C → Type} : Happening G W E C Y → List G
  | .signals gs => gs
  | _ => []

/-- `taken` are the signals that were accepted for a run, `pending` those that it has not been
handed yet. Its world is there from its first activation on. -/
structure Hosted (ι I S A R G O W E : Type) (C : Type) (Y : C → Type) where
  id : ι
  input : I
  taken : List G := []
  pending : List G := []
  world : Option (World S A R G O W E C Y) := none

/-- `accepted` are the signals that were taken, in order, with the ids that they were sent to. -/
structure Host (ι I S A R G O W E : Type) (C : Type) (Y : C → Type) where
  env : E
  runs : List (Hosted ι I S A R G O W E C Y) := []
  accepted : List (ι × G) := []

inductive Turn (ι I G W E : Type) (C : Type) (Y : C → Type) where
  | start (id : ι) (input : I)
  | signal (id : ι) (g : G)
  /-- The run at this position is handed the signals that are pending. -/
  | activated (i : Nat)
  | happened (i : Nat) (e : Happening G W E C Y)
  | envChanged (env : E)

variable {ι I S A R G O W E : Type} {C : Type} {Y : C → Type}
  (D : I → Deployment S A R G O W E C Y)

namespace Hosted

def isOpen (r : Hosted ι I S A R G O W E C Y) : Bool :=
  r.world.all fun x => !x.exec.status.isOver

def take (g : G) (r : Hosted ι I S A R G O W E C Y) : Hosted ι I S A R G O W E C Y :=
  { r with taken := r.taken ++ [g], pending := r.pending ++ [g] }

def activate (env : E) (r : Hosted ι I S A R G O W E C Y) : Hosted ι I S A R G O W E C Y :=
  match r.world with
  | none => { r with world := some (World.start (D r.input) r.pending env), pending := [] }
  | some x => { r with world := some (x.step (D r.input) (.signals r.pending)), pending := [] }

/-- An activation handles the pending signals first. -/
def happen (e : Happening G W E C Y) (r : Hosted ι I S A R G O W E C Y) :
    Hosted ι I S A R G O W E C Y :=
  match r.world with
  | none => r
  | some x =>
    if e.activates then
      { r with
        world := some ((x.step (D r.input) (.signals r.pending)).step (D r.input) e)
        pending := [] }
    else { r with world := some (x.step (D r.input) e) }

def changeEnv (env : E) (r : Hosted ι I S A R G O W E C Y) : Hosted ι I S A R G O W E C Y :=
  { r with world := r.world.map fun x => x.step (D r.input) (.envChanged env) }

end Hosted

namespace Host

variable [DecidableEq ι]

/-- An open run has this id. -/
def hasOpen (id : ι) (runs : List (Hosted ι I S A R G O W E C Y)) : Bool :=
  runs.any fun r => r.id = id && r.isOpen

/-- The open run with this id takes the signal. -/
def deliver (id : ι) (g : G) (runs : List (Hosted ι I S A R G O W E C Y)) :
    List (Hosted ι I S A R G O W E C Y) :=
  runs.map fun r => if r.id = id && r.isOpen then r.take g else r

def step (s : Host ι I S A R G O W E C Y) : Turn ι I G W E C Y → Host ι I S A R G O W E C Y
  | .start id input =>
    if hasOpen id s.runs then s else { s with runs := s.runs ++ [{ id, input }] }
  | .signal id g =>
    if hasOpen id s.runs then
      { s with runs := deliver id g s.runs, accepted := s.accepted ++ [(id, g)] }
    else s
  | .activated i => { s with runs := s.runs.modify i (Hosted.activate D s.env) }
  | .happened i e => if e.isOwn then { s with runs := s.runs.modify i (Hosted.happen D e) } else s
  | .envChanged env => { s with env, runs := s.runs.map (Hosted.changeEnv D env) }

def run (env : E) (turns : List (Turn ι I G W E C Y)) : Host ι I S A R G O W E C Y :=
  turns.foldl (step D) { env }

/-- What the runs with this id have taken, in the order of their starts. -/
def takenBy (id : ι) (runs : List (Hosted ι I S A R G O W E C Y)) : List G :=
  (runs.filter (·.id = id)).flatMap Hosted.taken

/-- What was accepted for this id. -/
def acceptedFor (id : ι) (accepted : List (ι × G)) : List G :=
  (accepted.filter (·.1 = id)).map Prod.snd

end Host

/-! ## Single runs -/

/-- The run is one of its workflow by itself, in this environment. It has been handed the signals
that were accepted for it, in order, but for those that are pending; a run that is over has been
handed them all. -/
structure Hosted.Genuine (env : E) (r : Hosted ι I S A R G O W E C Y) : Prop where
  fresh : r.world = none → r.pending = r.taken
  lived : ∀ x, r.world = some x → x.env = env ∧ ∃ early env₀ happenings,
    x = World.run (D r.input) early env₀ happenings ∧
      early ++ happenings.flatMap Happening.batch ++ r.pending = r.taken
  ended : r.isOpen = false → r.pending = []

variable {D} {env : E} {x : World S A R G O W E C Y} {r : Hosted ι I S A R G O W E C Y}

theorem World.run_snoc (D : Deployment S A R G O W E C Y) (early : List G) (env : E)
    (happenings : List (Happening G W E C Y)) (e : Happening G W E C Y) :
    World.run D early env (happenings ++ [e]) = (World.run D early env happenings).step D e := by
  simp [World.run]

/-- A run that is over stays as it is. -/
theorem World.step_over {D : Deployment S A R G O W E C Y} (hover : x.exec.status.isOver = true)
    (e : Happening G W E C Y) : (x.step D e).exec = x.exec := by
  obtain ⟨⟨s, h, status⟩, env, attempt, used, log⟩ := x
  cases status with
  | returned out => cases e <;> rfl
  | failed a => cases e <;> rfl
  | awaiting a next => cases hover
  | waiting cond hours next => cases hover
  | stuck error => cases hover

/-- Only a change of the environment changes it. -/
theorem World.step_env {D : Deployment S A R G O W E C Y} {e : Happening G W E C Y}
    (he : ∀ env, e ≠ .envChanged env) : (x.step D e).env = x.env := by
  cases e with
  | envChanged env => exact absurd rfl (he env)
  | signals batch => rfl
  | timerFired => rfl
  | attemptStarted w =>
    simp only [World.step]
    repeat' split
    all_goals rfl
  | answered answer =>
    simp only [World.step]
    repeat' split
    all_goals rfl
  | attemptLeft =>
    simp only [World.step, World.retire]
    repeat' split
    all_goals rfl
  | attemptLost =>
    simp only [World.step, World.retire]
    repeat' split
    all_goals rfl

/-- What cannot activate the workflow leaves it alone. -/
theorem World.step_idle {D : Deployment S A R G O W E C Y} {e : Happening G W E C Y}
    (hown : e.isOwn = true) (he : e.activates = false) : (x.step D e).exec = x.exec := by
  cases e with
  | attemptStarted w =>
    simp only [World.step]
    repeat' split
    all_goals rfl
  | answered answer =>
    simp only [World.step]
    repeat' split
    all_goals rfl
  | signals batch => cases hown
  | envChanged env => cases hown
  | timerFired => cases he
  | attemptLeft => cases he
  | attemptLost => cases he

/-- Other events record no signals. -/
theorem step_signals_of_ne (w : Handlers S G) (x : Exec S A R G O) {e : Event R G}
    (he : ∀ batch, e ≠ .signals batch) :
    (Durable.step w x e).history.signals = x.history.signals := by
  obtain ⟨s, h, status⟩ := x
  cases e with
  | signals batch => exact absurd rfl (he batch)
  | completed r => cases status <;> simp [Durable.step, resume, Status.schedules_signals]
  | failed => cases status <;> simp [Durable.step]
  | timerFired => cases status <;> simp [Durable.step, resume, Status.schedules_signals]

theorem World.retire_signals (D : Deployment S A R G O W E C Y) (x : World S A R G O W E C Y) (a : A)
    (retryable : Bool) : (x.retire D a retryable).exec.history.signals = x.exec.history.signals := by
  unfold World.retire
  split
  · rfl
  · exact step_signals_of_ne D.handlers x.exec (by simp)

/-- What the history of a run records of signals in one step. -/
theorem World.step_signals (D : Deployment S A R G O W E C Y) (x : World S A R G O W E C Y)
    (e : Happening G W E C Y) : ∃ gs, gs.Sublist e.batch ∧
      (x.step D e).exec.history.signals = x.exec.history.signals ++ gs := by
  obtain ⟨⟨s, h, status⟩, env, attempt, used, log⟩ := x
  have hnone : ∀ e : Happening G W E C Y, ∃ gs : List G, gs.Sublist e.batch ∧
      h.signals = h.signals ++ gs :=
    fun e => ⟨[], List.nil_sublist _, by simp⟩
  cases e with
  | signals batch =>
    cases status with
    | awaiting a next => exact ⟨batch, .refl _, by simp [World.step, Durable.step]⟩
    | waiting cond hours next =>
      exact ⟨batch, .refl _, by simpa [World.step] using step_signals_signals D.handlers rfl batch⟩
    | returned out => exact hnone _
    | failed a => exact hnone _
    | stuck error => exact hnone _
  | timerFired =>
    refine ⟨[], List.nil_sublist _, ?_⟩
    simpa [World.step] using step_signals_of_ne D.handlers _ (by simp)
  | envChanged env' => exact hnone _
  | attemptStarted w =>
    rw [World.step_idle rfl rfl]
    exact hnone _
  | answered answer =>
    rw [World.step_idle rfl rfl]
    exact hnone _
  | attemptLeft =>
    refine ⟨[], List.nil_sublist _, ?_⟩
    rw [List.append_nil]
    simp only [World.step]
    split
    next => exact step_signals_of_ne D.handlers _ (by simp)
    next => exact World.retire_signals D _ _ _
    next => rfl
  | attemptLost =>
    refine ⟨[], List.nil_sublist _, ?_⟩
    rw [List.append_nil]
    simp only [World.step]
    split
    next => exact World.retire_signals D _ _ _
    next => rfl

/-- A run's history records no signal that it has not been handed. -/
theorem World.run_signals (D : Deployment S A R G O W E C Y) (early : List G) (env : E)
    (happenings : List (Happening G W E C Y)) :
    (World.run D early env happenings).exec.history.signals.Sublist
      (early ++ happenings.flatMap Happening.batch) := by
  induction happenings using List.reverseRecOn with
  | nil => simp [World.run, World.start, Durable.start, resume, Status.schedules_signals]
  | append_singleton happenings e ih =>
    obtain ⟨gs, hgs, hsignals⟩ := World.step_signals D (World.run D early env happenings) e
    rw [World.run_snoc, hsignals, List.flatMap_append, ← List.append_assoc]
    exact ih.append (by simpa using hgs)

namespace Hosted

/-- It is the same run, with the same signals. -/
structure Keeps (r r' : Hosted ι I S A R G O W E C Y) : Prop where
  id : r'.id = r.id
  input : r'.input = r.input
  taken : r'.taken = r.taken
  ended : r.isOpen = false → r'.isOpen = false

theorem Keeps.refl (r : Hosted ι I S A R G O W E C Y) : r.Keeps r := ⟨rfl, rfl, rfl, fun h => h⟩

theorem isOpen_some (hx : r.world = some x) : r.isOpen = !x.exec.status.isOver := by
  simp [isOpen, hx]

theorem isOpen_none (hx : r.world = none) : r.isOpen = true := by
  simp [isOpen, hx]

theorem genuine_start (id : ι) (input : I) :
    Genuine D env ({ id, input } : Hosted ι I S A R G O W E C Y) :=
  ⟨fun _ => rfl, by simp, fun _ => rfl⟩

/-- An open run takes a signal. -/
theorem Genuine.take (hr : r.Genuine D env) (hopen : r.isOpen = true) (g : G) :
    (r.take g).Genuine D env where
  fresh hx := by simp [Hosted.take, hr.fresh hx]
  lived x hx := by
    obtain ⟨henv, early, env₀, happenings, hrun, htaken⟩ := hr.lived x hx
    exact ⟨henv, early, env₀, happenings, hrun, by simp [Hosted.take, ← htaken]⟩
  ended hover := by
    have hsame : (r.take g).isOpen = r.isOpen := rfl
    rw [hsame, hopen] at hover
    cases hover

/-- The world of a run that goes on, with what it has been handed since. -/
theorem Genuine.extend (hr : r.Genuine D env) (hx : r.world = some x)
    (more : List (Happening G W E C Y)) (hmore : ∀ e ∈ more, ∀ env, e ≠ .envChanged env)
    {pending : List G} (hpending : more.flatMap Happening.batch ++ pending = r.pending) :
    (more.foldl (World.step (D r.input)) x).env = env ∧ ∃ early env₀ happenings,
      more.foldl (World.step (D r.input)) x = World.run (D r.input) early env₀ happenings ∧
        early ++ happenings.flatMap Happening.batch ++ pending = r.taken := by
  obtain ⟨henv, early, env₀, happenings, rfl, htaken⟩ := hr.lived x hx
  refine ⟨?_, early, env₀, happenings ++ more, by simp [World.run], ?_⟩
  · exact List.foldlRecOn (motive := fun y : World S A R G O W E C Y => y.env = env) more _ henv
      fun y hy e he => (World.step_env (hmore e he)).trans hy
  · rw [← htaken, ← hpending]
    simp

/-- Its history records only signals that were accepted for it. -/
theorem Genuine.signals (hr : r.Genuine D env) (hx : r.world = some x) :
    x.exec.history.signals.Sublist r.taken := by
  obtain ⟨-, early, env₀, happenings, rfl, htaken⟩ := hr.lived x hx
  rw [← htaken]
  exact (World.run_signals _ early env₀ happenings).trans (List.sublist_append_left _ _)

theorem Genuine.activate (hr : r.Genuine D env) : (r.activate D env).Genuine D env := by
  unfold Hosted.activate
  split
  next hx =>
    refine ⟨by simp, ?_, fun _ => rfl⟩
    rintro _ ⟨⟩
    exact ⟨rfl, r.pending, env, [], rfl, by simp [hr.fresh hx]⟩
  next x hx =>
    refine ⟨by simp, ?_, fun _ => rfl⟩
    rintro _ ⟨⟩
    exact hr.extend hx [.signals r.pending] (by simp) (by simp [Happening.batch])

theorem batch_eq_nil {e : Happening G W E C Y} (he : e.isOwn = true) : e.batch = [] := by
  cases e with
  | signals gs => cases he
  | _ => rfl

theorem ne_envChanged {e : Happening G W E C Y} (he : e.isOwn = true) (env : E) :
    e ≠ .envChanged env := by
  rintro rfl
  cases he

theorem Genuine.happen (hr : r.Genuine D env) {e : Happening G W E C Y} (he : e.isOwn = true) :
    (r.happen D e).Genuine D env := by
  unfold Hosted.happen
  split
  next => exact hr
  next x hx =>
    split
    next =>
      refine ⟨by simp, ?_, fun _ => rfl⟩
      rintro _ ⟨⟩
      exact hr.extend hx [.signals r.pending, e] (by simp [ne_envChanged he])
        (by rw [List.flatMap_cons, List.flatMap_cons, batch_eq_nil he]; simp [Happening.batch])
    next hidle =>
      refine ⟨by simp, ?_, fun hover => hr.ended ?_⟩
      · rintro _ ⟨⟩
        exact hr.extend hx [e] (by simp [ne_envChanged he]) (by simp [batch_eq_nil he])
      · rw [isOpen_some rfl, World.step_idle he (by simpa using hidle)] at hover
        rw [isOpen_some hx]
        exact hover

theorem Genuine.changeEnv (hr : r.Genuine D env) (env' : E) :
    (r.changeEnv D env').Genuine D env' where
  fresh hx := hr.fresh (by simpa [Hosted.changeEnv] using hx)
  lived x hx := by
    obtain ⟨y, hy, rfl⟩ := Option.map_eq_some_iff.mp hx
    obtain ⟨-, early, env₀, happenings, rfl, htaken⟩ := hr.lived y hy
    refine ⟨rfl, early, env₀, happenings ++ [.envChanged env'], (World.run_snoc _ _ _ _ _).symm, ?_⟩
    simpa [Happening.batch, Hosted.changeEnv] using htaken
  ended hover := by
    refine hr.ended ?_
    cases hx : r.world with
    | none => simp [Hosted.changeEnv, isOpen, hx] at hover
    | some x => simpa [Hosted.changeEnv, isOpen, hx, World.step] using hover

theorem keeps_activate (env : E) (r : Hosted ι I S A R G O W E C Y) :
    r.Keeps (r.activate D env) := by
  unfold Hosted.activate
  split
  next hx => exact ⟨rfl, rfl, rfl, fun hover => by simp [isOpen_none hx] at hover⟩
  next x hx =>
    refine ⟨rfl, rfl, rfl, fun hover => ?_⟩
    rw [isOpen_some hx] at hover
    rw [isOpen_some rfl, World.step_over (by simpa using hover)]
    exact hover

theorem keeps_happen (e : Happening G W E C Y) (r : Hosted ι I S A R G O W E C Y) :
    r.Keeps (r.happen D e) := by
  unfold Hosted.happen
  split
  next => exact .refl r
  next x hx =>
    have hover' : r.isOpen = false → x.exec.status.isOver = true := by simp [isOpen_some hx]
    split
    · refine ⟨rfl, rfl, rfl, fun hover => ?_⟩
      have hsignals := World.step_over (D := D r.input) (hover' hover) (.signals r.pending)
      rw [isOpen_some rfl, World.step_over (by rw [hsignals]; exact hover' hover), hsignals]
      simp [hover' hover]
    · refine ⟨rfl, rfl, rfl, fun hover => ?_⟩
      rw [isOpen_some rfl, World.step_over (hover' hover)]
      simp [hover' hover]

theorem keeps_changeEnv (env : E) (r : Hosted ι I S A R G O W E C Y) :
    r.Keeps (r.changeEnv D env) := by
  refine ⟨rfl, rfl, rfl, fun hover => ?_⟩
  cases hx : r.world with
  | none => simp [isOpen_none hx] at hover
  | some x => simpa [Hosted.changeEnv, isOpen, hx, World.step] using hover

end Hosted

/-! ## All runs -/

namespace Host

/-- The same runs, further on. -/
abbrev Onward (l l' : List (Hosted ι I S A R G O W E C Y)) : Prop := List.Forall₂ Hosted.Keeps l l'

theorem onward_modify {f : Hosted ι I S A R G O W E C Y → Hosted ι I S A R G O W E C Y}
    (hf : ∀ r, Hosted.Keeps r (f r)) (l : List (Hosted ι I S A R G O W E C Y)) (i : Nat) :
    Onward l (l.modify i f) := by
  have hrefl : ∀ l : List (Hosted ι I S A R G O W E C Y), Onward l l :=
    fun l => List.forall₂_same.mpr fun r _ => .refl r
  induction l generalizing i with
  | nil => simp
  | cons r l ih =>
    cases i with
    | zero => exact .cons (hf r) (hrefl l)
    | succ i => exact .cons (.refl r) (ih i)

/-- A run that is open is the last one with its id. -/
def OpenLast (l : List (Hosted ι I S A R G O W E C Y)) : Prop :=
  l.Pairwise fun r r' => r.id = r'.id → r.isOpen = false

variable {l l' : List (Hosted ι I S A R G O W E C Y)}

/-- What a run was before. -/
theorem Onward.mem (h : Onward l l') {r' : Hosted ι I S A R G O W E C Y} (hr' : r' ∈ l') :
    ∃ r ∈ l, r.Keeps r' := by
  induction h with
  | nil => cases hr'
  | cons hkeeps _ ih =>
    rcases List.mem_cons.mp hr' with rfl | hr'
    · exact ⟨_, .head _, hkeeps⟩
    · obtain ⟨r, hr, hrr'⟩ := ih hr'
      exact ⟨r, .tail _ hr, hrr'⟩

theorem Onward.openLast (h : Onward l l') (hlast : OpenLast l) : OpenLast l' := by
  induction h with
  | nil => exact .nil
  | cons hkeeps hrest ih =>
    rw [OpenLast, List.pairwise_cons] at hlast ⊢
    refine ⟨fun r' hr' hid => ?_, ih hlast.2⟩
    obtain ⟨r, hr, hrr'⟩ := Onward.mem hrest hr'
    exact hkeeps.ended (hlast.1 r hr (by rw [← hkeeps.id, hid, hrr'.id]))

variable [DecidableEq ι]

theorem takenBy_cons (id : ι) (r : Hosted ι I S A R G O W E C Y) :
    takenBy id (r :: l) = (if r.id = id then r.taken else []) ++ takenBy id l := by
  simp only [takenBy, List.filter_cons, decide_eq_true_eq]
  split <;> rfl

theorem Onward.takenBy (h : Onward l l') (id : ι) : takenBy id l' = takenBy id l := by
  induction h with
  | nil => rfl
  | cons hkeeps _ ih => rw [takenBy_cons, takenBy_cons, ih, hkeeps.id, hkeeps.taken]

theorem takenBy_other {id : ι} (h : ∀ r ∈ l, r.id ≠ id) : takenBy id l = [] := by
  have hnone : l.filter (·.id = id) = [] := by simpa [List.filter_eq_nil_iff] using h
  rw [takenBy, hnone]
  rfl

theorem deliver_cons (id : ι) (g : G) (r : Hosted ι I S A R G O W E C Y) :
    deliver id g (r :: l) = (if r.id = id && r.isOpen then r.take g else r) :: deliver id g l :=
  rfl

/-- Nothing is sent to the runs with other ids. -/
theorem deliver_other {id : ι} {g : G} (h : ∀ r ∈ l, r.id ≠ id) : deliver id g l = l := by
  induction l with
  | nil => rfl
  | cons r l ih =>
    have hr := h r (.head _)
    rw [deliver_cons, ih fun r' hr' => h r' (.tail _ hr')]
    simp [hr]

theorem takenBy_deliver_ne {id id' : ι} (h : id' ≠ id) (g : G) :
    takenBy id' (deliver id g l) = takenBy id' l := by
  induction l with
  | nil => rfl
  | cons r l ih =>
    rw [deliver_cons, takenBy_cons, takenBy_cons, ih]
    congr 1
    split
    next hr =>
      have hid : r.id = id := by simpa using (Bool.and_eq_true_iff.mp hr).1
      have hother : r.id ≠ id' := fun heq => h (heq.symm.trans hid)
      rw [if_neg hother, if_neg (show (r.take g).id ≠ id' from hother)]
    next => rfl

/-- A signal is taken by one run, and by the last one with its id. -/
theorem takenBy_deliver {id : ι} (hlast : OpenLast l) (hopen : hasOpen id l = true) (g : G) :
    takenBy id (deliver id g l) = takenBy id l ++ [g] := by
  induction l with
  | nil => cases hopen
  | cons r l ih =>
    rw [OpenLast, List.pairwise_cons] at hlast
    by_cases hr : r.id = id ∧ r.isOpen = true
    · have hothers : ∀ r' ∈ l, r'.id ≠ id := by
        intro r' hr' hid
        have hover := hlast.1 r' hr' (hr.1.trans hid.symm)
        rw [hr.2] at hover
        cases hover
      rw [deliver_cons, deliver_other hothers, takenBy_cons, takenBy_cons, takenBy_other hothers]
      simp [hr.1, hr.2, Hosted.take]
    · have hrest : hasOpen id l = true := by
        simpa [hasOpen, hr] using hopen
      rw [deliver_cons, takenBy_cons, takenBy_cons, List.append_assoc, ← ih hlast.2 hrest]
      simp [hr]

/-! ## Runs of the namespace -/

/-- Every run is one of its workflow by itself, an open run is the last one with its id, and the
runs with an id have taken what was accepted for it, each signal once and in order. -/
structure Sound (D : I → Deployment S A R G O W E C Y) (s : Host ι I S A R G O W E C Y) : Prop where
  genuine : ∀ r ∈ s.runs, r.Genuine D s.env
  last : OpenLast s.runs
  accounted : ∀ id, takenBy id s.runs = acceptedFor id s.accepted

theorem sound_start (env : E) : Sound D ({ env } : Host ι I S A R G O W E C Y) where
  genuine := by simp
  last := .nil
  accounted _ := rfl

variable {s : Host ι I S A R G O W E C Y}

/-- Runs that go on, each by itself, keep what was taken. -/
theorem Sound.onward (hs : s.Sound D) (h : Onward s.runs l) (env : E)
    (hgenuine : ∀ r ∈ l, r.Genuine D env) : Sound D { s with env, runs := l } where
  genuine := hgenuine
  last := h.openLast hs.last
  accounted id := (h.takenBy id).trans (hs.accounted id)

theorem mem_modify {α : Type} {f : α → α} {l : List α} {i : Nat} {a : α} (h : a ∈ l.modify i f) :
    a ∈ l ∨ ∃ b ∈ l, a = f b := by
  induction l generalizing i with
  | nil => simp at h
  | cons b l ih =>
    cases i with
    | zero =>
      rcases List.mem_cons.mp h with rfl | h
      · exact .inr ⟨b, .head _, rfl⟩
      · exact .inl (.tail _ h)
    | succ i =>
      rcases List.mem_cons.mp h with rfl | h
      · exact .inl (.head _)
      · rcases ih h with h | ⟨c, hc, rfl⟩
        · exact .inl (.tail _ h)
        · exact .inr ⟨c, .tail _ hc, rfl⟩

/-- A run is started under an id that no open run has. -/
theorem Sound.start (hs : s.Sound D) {id : ι} (hshut : ¬ hasOpen id s.runs = true) (input : I) :
    Sound D { s with runs := s.runs ++ [{ id, input }] } where
  genuine r hr := by
    rcases List.mem_append.mp hr with hr | hr
    · exact hs.genuine r hr
    · obtain rfl := List.mem_singleton.mp hr
      exact Hosted.genuine_start id input
  last := by
    refine List.pairwise_append.mpr ⟨hs.last, List.pairwise_singleton _ _, ?_⟩
    intro r hr r' hr' hid
    obtain rfl := List.mem_singleton.mp hr'
    have hover := List.any_eq_false.mp (Bool.eq_false_iff.mpr hshut) r hr
    simpa [hid] using hover
  accounted id' := by
    rw [← hs.accounted id']
    simp only [takenBy, List.filter_append, List.flatMap_append]
    simp [List.filter_cons]

theorem OpenLast.deliver (h : OpenLast l) (id : ι) (g : G) : OpenLast (deliver id g l) := by
  have hid : ∀ r : Hosted ι I S A R G O W E C Y,
      (if r.id = id && r.isOpen then r.take g else r).id = r.id := by
    intro r
    split <;> rfl
  have hopen : ∀ r : Hosted ι I S A R G O W E C Y,
      (if r.id = id && r.isOpen then r.take g else r).isOpen = r.isOpen := by
    intro r
    split <;> rfl
  refine List.pairwise_map.mpr (h.imp fun {r r'} hshut hsame => ?_)
  rw [hid, hid] at hsame
  rw [hopen]
  exact hshut hsame

/-- The open run with the id takes a signal. -/
theorem Sound.signal (hs : s.Sound D) {id : ι} (hopen : hasOpen id s.runs = true) (g : G) :
    Sound D { s with
      runs := Host.deliver id g s.runs
      accepted := s.accepted ++ [(id, g)] } where
  genuine r hr := by
    obtain ⟨r₀, hr₀, rfl⟩ := List.mem_map.mp hr
    split
    next htake => exact (hs.genuine r₀ hr₀).take (Bool.and_eq_true_iff.mp htake).2 g
    next => exact hs.genuine r₀ hr₀
  last := hs.last.deliver id g
  accounted id' := by
    by_cases hid : id' = id
    · subst hid
      rw [takenBy_deliver hs.last hopen, hs.accounted]
      simp [acceptedFor]
    · rw [takenBy_deliver_ne hid, hs.accounted]
      simp [acceptedFor, Ne.symm hid]

/-- **Step lemma.** -/
theorem Sound.step (hs : s.Sound D) (t : Turn ι I G W E C Y) : (s.step D t).Sound D := by
  cases t with
  | start id input =>
    simp only [Host.step]
    split
    next => exact hs
    next hshut => exact hs.start hshut input
  | signal id g =>
    simp only [Host.step]
    split
    next hopen => exact hs.signal hopen g
    next => exact hs
  | activated i =>
    refine hs.onward (onward_modify (Hosted.keeps_activate s.env) s.runs i) s.env fun r hr => ?_
    rcases mem_modify hr with hr | ⟨r₀, hr₀, rfl⟩
    · exact hs.genuine r hr
    · exact (hs.genuine r₀ hr₀).activate
  | happened i e =>
    simp only [Host.step]
    split
    next he =>
      refine hs.onward (onward_modify (Hosted.keeps_happen e) s.runs i) s.env fun r hr => ?_
      rcases mem_modify hr with hr | ⟨r₀, hr₀, rfl⟩
      · exact hs.genuine r hr
      · exact (hs.genuine r₀ hr₀).happen he
    next => exact hs
  | envChanged env =>
    have honward : Onward s.runs (s.runs.map (Hosted.changeEnv D env)) :=
      List.forall₂_map_right_iff.mpr (List.forall₂_same.mpr fun r _ => Hosted.keeps_changeEnv env r)
    refine hs.onward honward env fun r hr => ?_
    obtain ⟨r₀, hr₀, rfl⟩ := List.mem_map.mp hr
    exact (hs.genuine r₀ hr₀).changeEnv env

/-- **Run lemma.** -/
theorem sound_run (env : E) (turns : List (Turn ι I G W E C Y)) : Sound D (run D env turns) := by
  unfold run
  exact List.foldlRecOn turns _ (sound_start env) fun s hs t _ => hs.step t

/-- Where a run comes from: it was there before, or this turn has started it. -/
theorem mem_step {t : Turn ι I G W E C Y} {r : Hosted ι I S A R G O W E C Y}
    (hr : r ∈ (s.step D t).runs) :
    (∃ r₀ ∈ s.runs, r₀.id = r.id ∧ r₀.input = r.input) ∨ t = .start r.id r.input := by
  have honward : ∀ l, Onward s.runs l → r ∈ l →
      ∃ r₀ ∈ s.runs, r₀.id = r.id ∧ r₀.input = r.input := by
    intro l h hmem
    obtain ⟨r₀, hr₀, hkeeps⟩ := h.mem hmem
    exact ⟨r₀, hr₀, hkeeps.id.symm, hkeeps.input.symm⟩
  cases t with
  | start id input =>
    simp only [Host.step] at hr
    split at hr
    · exact .inl ⟨r, hr, rfl, rfl⟩
    · rcases List.mem_append.mp hr with hr | hr
      · exact .inl ⟨r, hr, rfl, rfl⟩
      · obtain rfl := List.mem_singleton.mp hr
        exact .inr rfl
  | signal id g =>
    simp only [Host.step] at hr
    split at hr
    · obtain ⟨r₀, hr₀, rfl⟩ := List.mem_map.mp hr
      exact .inl ⟨r₀, hr₀, by split <;> rfl, by split <;> rfl⟩
    · exact .inl ⟨r, hr, rfl, rfl⟩
  | activated i => exact .inl (honward _ (onward_modify (Hosted.keeps_activate s.env) s.runs i) hr)
  | happened i e =>
    simp only [Host.step] at hr
    split at hr
    · exact .inl (honward _ (onward_modify (Hosted.keeps_happen e) s.runs i) hr)
    · exact .inl ⟨r, hr, rfl, rfl⟩
  | envChanged env =>
    obtain ⟨r₀, hr₀, rfl⟩ := List.mem_map.mp hr
    exact .inl ⟨r₀, hr₀, rfl, rfl⟩

/-- Only a signal that the open run with its id can take is accepted. -/
theorem step_accepted (D : I → Deployment S A R G O W E C Y) (s : Host ι I S A R G O W E C Y)
    (t : Turn ι I G W E C Y) : (s.step D t).accepted = s.accepted ++ match t with
      | .signal id g => if hasOpen id s.runs then [(id, g)] else []
      | _ => [] := by
  cases t with
  | start id input => simp only [Host.step]; split <;> simp
  | signal id g => simp only [Host.step]; split <;> simp
  | happened i e => simp only [Host.step]; split <;> simp
  | activated i => simp [Host.step]
  | envChanged env => simp [Host.step]

/-- What was taken stays taken, in its place. -/
theorem accepted_mono (s : Host ι I S A R G O W E C Y) (turns : List (Turn ι I G W E C Y)) :
    s.accepted <+: (turns.foldl (step D) s).accepted := by
  induction turns generalizing s with
  | nil => exact List.prefix_rfl
  | cons t turns ih =>
    refine List.IsPrefix.trans ?_ (ih (s.step D t))
    rw [step_accepted]
    exact List.prefix_append _ _

end Host

end OcenPlatform.Durable
