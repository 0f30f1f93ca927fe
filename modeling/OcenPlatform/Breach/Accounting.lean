import Mathlib.Data.List.Nodup
import OcenPlatform.Breach.Confirmation

/-! Breach accounting: which event counts towards which workflow. To tell events of one time
apart, a run is repeated with a number on every event. -/

namespace OcenPlatform.Breach

open Durable
open Stamped (time)

/-! ## Numbered runs -/

section View

variable {ε ε' : Type} (f : ε → ε')

def Message.map (m : Message ε) : Message ε' where
  value := m.value
  added := f m.added
  logged := m.logged
  named := m.named
  counted := m.counted
  started := m.started

def Poll.map : Poll ε → Poll ε'
  | .nothing => .nothing
  | .kafkaError => .kafkaError
  | .message m => .message (m.map f)

def Detection.map (d : Detection ε) : Detection ε' where
  message := d.message.map f
  workflowId := d.workflowId
  input := d.input
  counted := d.counted.map f

def SlidingWindow.map (w : SlidingWindow ε) : SlidingWindow ε' where
  windowSeconds := w.windowSeconds
  threshold := w.threshold
  events := w.events.map f

def Consumer.map (c : Consumer ε) : Consumer ε' where
  rules := c.rules
  windows := PyDict.mapValues (SlidingWindow.map f) c.windows

variable {f} [Stamped ε] [Stamped ε'] (hf : ∀ e, time (f e) = time e)
include hf

theorem pruned_map (now : Rat) (w : SlidingWindow ε) : (w.map f).pruned now = (w.pruned now).map f := by
  have htime : (time ∘ f : ε → Rat) = time := funext hf
  simp only [SlidingWindow.pruned, SlidingWindow.map, Window.prune_map, htime]

theorem add_map (e : ε) (w : SlidingWindow ε) :
    (w.map f).add (f e) = ((w.add e).1, (w.add e).2.map f) := by
  have hadd : ({ w.map f with events := (w.map f).events ++ [f e] } : SlidingWindow ε') =
      { w with events := w.events ++ [e] : SlidingWindow ε }.map f := by
    simp [SlidingWindow.map]
  simp only [SlidingWindow.add, hadd, hf, pruned_map hf]
  simp [SlidingWindow.map]

theorem count_map (now : Rat) (w : SlidingWindow ε) :
    (w.map f).count now = ((w.count now).1, (w.count now).2.map f) := by
  simp only [SlidingWindow.count, pruned_map hf]
  simp [SlidingWindow.map]

theorem process_map (r : DetectionRule) (ruleName : String) (actorId : Json) (m : Message ε)
    (w : SlidingWindow ε) : (w.map f).process r ruleName actorId (m.map f) =
      ((w.process r ruleName actorId m).1.map (Detection.map f),
        (w.process r ruleName actorId m).2.map f) := by
  have hadd : (w.map f).add (m.map f).added = ((w.add m.added).1, (w.add m.added).2.map f) :=
    add_map hf m.added w
  simp only [SlidingWindow.process, hadd]
  split
  · rfl
  · simp only [count_map hf]
    have hstarted : (m.map f).started = m.started := rfl
    refine Prod.ext rfl ?_
    simp only [hstarted]
    split <;> rfl

/-- A step sees of an event only its time. -/
theorem step_map (c : Consumer ε) (p : Poll ε) :
    (c.map f).step (p.map f) = ((c.step p).1.map (Detection.map f), (c.step p).2.map f) := by
  cases p with
  | nothing => rfl
  | kafkaError => rfl
  | message m =>
    have hreads : (m.map f).read = m.read := rfl
    cases hread : m.read with
    | error _ => simp only [Poll.map, Consumer.step, hreads, hread, Option.map_none]
    | ok read =>
      obtain ⟨x | x, actorId⟩ := read
      · simp only [Poll.map, Consumer.step, hreads, hread, Option.map_none]
      have hwindows : PyDict.find? (c.map f).windows x =
          (PyDict.find? c.windows x).map (SlidingWindow.map f) := PyDict.find?_mapValues _ _ _
      have hrules : (c.map f).rules = c.rules := rfl
      simp only [Poll.map, Consumer.step, hreads, hread, hwindows, hrules]
      cases hw : PyDict.find? c.windows x with
      | none => simp only [Option.map_none]
      | some w =>
        cases hr : PyDict.find? c.rules x with
        | none => simp only [Option.map_some, Option.map_none]
        | some r =>
          simp only [Option.map_some, process_map hf]
          simp only [Consumer.map, PyDict.set_mapValues]

theorem detections_map (c : Consumer ε) (polls : List (Poll ε)) :
    (c.map f).detections (polls.map (Poll.map f)) = (c.detections polls).map (Detection.map f) :=
  Emitting.emitted_map (step_map hf) c polls

omit [Stamped ε] [Stamped ε'] hf in
theorem load_map (detectionRules : List DetectionRule) :
    (Consumer.load detectionRules : Consumer ε).map f = Consumer.load detectionRules := by
  simp only [Consumer.load, Consumer.map, PyDict.mapValues, List.map_map]
  rfl

end View

/-- Every event with its place in the run. -/
def number (polls : List (Poll Rat)) : List (Poll (Nat × Rat)) :=
  polls.zipIdx.map fun p => p.1.map fun t => (p.2, t)

theorem number_erase (polls : List (Poll Rat)) : (number polls).map (Poll.map Prod.snd) = polls := by
  have herase : ∀ p : Poll Rat × Nat, (p.1.map fun t => (p.2, t)).map Prod.snd = p.1 := by
    rintro ⟨_ | _ | m, n⟩ <;> rfl
  rw [number, List.map_map]
  calc polls.zipIdx.map (Poll.map Prod.snd ∘ fun p => p.1.map fun t => (p.2, t))
      = polls.zipIdx.map Prod.fst := List.map_congr_left fun p _ => herase p
    _ = polls := List.zipIdx_map_fst 0 polls

theorem number_added_nodup (polls : List (Poll Rat)) : ((number polls).flatMap Poll.added).Nodup := by
  have hplaces : (((number polls).flatMap Poll.added).map Prod.fst).Sublist
      (polls.zipIdx.map Prod.snd) := by
    rw [number]
    induction polls.zipIdx with
    | nil => exact .refl _
    | cons p rest ih =>
      obtain ⟨_ | _ | m, n⟩ := p
      · exact ih.cons n
      · exact ih.cons n
      · exact ih.cons_cons n
  have hnodup : (polls.zipIdx.map Prod.snd).Nodup := by
    rw [List.zipIdx_map_snd]
    exact List.nodup_range'
  exact List.Nodup.of_map _ (hnodup.sublist hplaces)

theorem number_readings (polls : List (Poll Rat)) :
    (number polls).flatMap Poll.readings = polls.flatMap Poll.readings := by
  have hreadings : ∀ p : Poll Rat × Nat, Poll.readings (p.1.map fun t => (p.2, t)) = p.1.readings := by
    rintro ⟨_ | _ | m, n⟩ <;> rfl
  rw [number, List.flatMap_map]
  calc polls.zipIdx.flatMap (fun p => Poll.readings (p.1.map fun t => (p.2, t)))
      = polls.zipIdx.flatMap (fun p => p.1.readings) := by simp only [hreadings]
    _ = (polls.zipIdx.map Prod.fst).flatMap Poll.readings := by rw [List.flatMap_map]
    _ = polls.flatMap Poll.readings := by rw [List.zipIdx_map_fst]

/-! ## No event counts twice -/

section Run

variable {ε : Type} [Stamped ε] {c c' : Consumer ε} {polls : List (Poll ε)}

theorem counted_sublist {r : DetectionRule} {m : Message ε} {events : List ε} :
    (r.counted m events).Sublist (events ++ [m.added]) :=
  (Window.prune_sublist.trans Window.prune_sublist).trans Window.prune_sublist

/-- A detection counts events of its window and events that came later. -/
theorem detection_counted_sublist (h : c.Configured) {d : Detection ε} (hd : d ∈ c.detections polls) :
    d.counted.Sublist (c.eventsOf d.input.rule ++ polls.flatMap Poll.added) := by
  obtain ⟨before, p, rest, _, rfl, hpass⟩ := exists_pass h hd
  cases hpass with
  | @detected m x r _ _ _ _ _ _ _ _ hrulename _ _ hcounted _ =>
    subst hrulename
    rw [List.flatMap_append, List.flatMap_cons, ← List.append_assoc, ← List.append_assoc, hcounted]
    have hbefore := after_eventsOf_sublist h before d.input.rule
    exact (counted_sublist.trans (hbefore.append_right [m.added])).trans
      (List.sublist_append_left _ _)

theorem detection_eventCount (h : c.Configured) {d : Detection ε} (hd : d ∈ c.detections polls) :
    d.input.eventCount = d.counted.length := by
  obtain ⟨_, _, _, _, -, hpass⟩ := exists_pass h hd
  cases hpass with
  | detected _ _ _ _ _ _ _ _ hcount _ _ => exact hcount

/-- No event is behind two workflows that started for one rule. -/
def CountedOnce (detections : List (Detection ε)) : Prop :=
  detections.Pairwise fun d e => d.message.started = true → e.message.started = true →
    d.input.rule = e.input.rule → d.counted.Disjoint e.counted

/-- The events that a window holds and those to come are distinct, and a start empties the
window. -/
theorem countedOnce (h : c.Configured)
    (hnodup : ∀ x, (c.eventsOf x ++ polls.flatMap Poll.added).Nodup) :
    CountedOnce (c.detections polls) := by
  induction polls generalizing c with
  | nil => exact .nil
  | cons p polls ih =>
    have hpass := step_pass h p
    have hconfigured := (step_configured h p).2
    have hrest : CountedOnce ((c.step p).2.detections polls) := by
      refine ih hconfigured fun x => (hnodup x).sublist ?_
      rw [List.flatMap_cons, ← List.append_assoc]
      exact (hpass.sublist x).append_right _
    cases hstep : (c.step p).1 with
    | none =>
      rw [Consumer.detections, Emitting.emitted_cons_none hstep]
      exact hrest
    | some d =>
      rw [Consumer.detections, Emitting.emitted_cons_some hstep]
      refine List.Pairwise.cons (fun e he hd _ hrule => ?_) hrest
      have hlater := detection_counted_sublist hconfigured he
      rw [hstep] at hpass
      generalize (c.step p).2 = c' at hpass hlater
      cases hpass with
      | @detected m x r _ _ _ _ _ hmessage _ _ hrulename _ _ hcounted hevents =>
        subst hmessage hrulename
        rw [← hrule, hevents, if_pos hd, List.nil_append] at hlater
        have hnodup := hnodup d.input.rule
        rw [List.flatMap_cons, ← List.append_assoc] at hnodup
        have hearlier : d.counted.Sublist (c.eventsOf d.input.rule ++ [d.message.added]) := by
          rw [hcounted]
          exact counted_sublist
        intro v hv hv'
        exact List.disjoint_of_nodup_append hnodup (hearlier.subset hv) (hlater.subset hv')

/-! ## A failed start loses nothing -/

/-- The window of the rule at the time `now`. -/
def DetectionRule.Young (r : DetectionRule) (now : Rat) (e : ε) : Prop :=
  now - ((r.windowMinutes * 60 : Int) : Rat) < time e

theorem DetectionRule.Young.earlier {r : DetectionRule} {now later : Rat} {e : ε}
    (h : r.Young later e) (hle : now ≤ later) : r.Young now e :=
  lt_of_le_of_lt (sub_le_sub_right hle _) h

theorem mem_kept {r : DetectionRule} {m : Message ε} {events : List ε} {v : ε} :
    v ∈ r.kept m events ↔ v ∈ events ++ [m.added] ∧ r.Young (time m.added) v := Window.mem_prune

theorem mem_counted {r : DetectionRule} {m : Message ε} {events : List ε} {v : ε} :
    v ∈ r.counted m events ↔ v ∈ events ++ [m.added] ∧
      r.Young (time m.added) v ∧ r.Young m.logged v ∧ r.Young m.counted v := by
  simp only [DetectionRule.counted, Window.mem_prune, mem_kept, DetectionRule.Young, and_assoc]

/-- An event that is young at `now` was young at all readings before. -/
theorem mem_counted_of_young {r : DetectionRule} {m : Message ε} {events : List ε} {now : Rat} {v : ε}
    (hv : v ∈ events ++ [m.added]) (hyoung : r.Young now v)
    (hnow : ∀ t ∈ (Poll.message m).readings, t ≤ now) : v ∈ r.counted m events := by
  refine mem_counted.mpr ⟨hv, hyoung.earlier (hnow _ ?_), hyoung.earlier (hnow _ ?_),
    hyoung.earlier (hnow _ ?_)⟩ <;> simp [Poll.readings]

section Kept

variable {r : DetectionRule} {x : String} {now : Rat} {v : ε} (hr : PyDict.find? c.rules x = some r)
  (hyoung : r.Young now v)
include hr hyoung

/-- What is still young after a pass stays in the window, unless the pass starts a workflow
of the rule. -/
theorem Pass.mem_eventsOf {p : Poll ε} {o : Option (Detection ε)} (h : Pass c p o c')
    (hnow : ∀ t ∈ p.readings, t ≤ now)
    (hfailed : ∀ d ∈ o, d.input.rule = x → d.message.started = false) (hv : v ∈ c.eventsOf x) :
    v ∈ c'.eventsOf x := by
  cases h with
  | idle => exact hv
  | @added m y r' _ hrule hframe _ hevents =>
    by_cases hx : x = y
    · subst hx
      obtain rfl := Option.some.inj (hr.symm.trans hrule)
      rw [hevents]
      exact mem_kept.mpr ⟨List.mem_append_left _ hv, hyoung.earlier (hnow _ (.head _))⟩
    · rwa [hframe x hx]
  | @detected m y r' _ d hrule hframe _ hmessage _ _ hrulename _ _ hcounted hevents =>
    by_cases hx : x = y
    · subst hx
      obtain rfl := Option.some.inj (hr.symm.trans hrule)
      have hstarted := hfailed d rfl hrulename
      rw [hmessage] at hstarted
      rw [hevents, hstarted, if_neg Bool.false_ne_true, hcounted]
      exact mem_counted_of_young (List.mem_append_left _ hv) hyoung hnow
    · rwa [hframe x hx]

/-- A start that fails leaves the event that led to it as well. -/
theorem Pass.mem_eventsOf_failed {m : Message ε} {d : Detection ε} (h : Pass c (.message m) (some d) c')
    (hx : d.input.rule = x) (hnow : ∀ t ∈ (Poll.message m).readings, t ≤ now)
    (hfailed : d.message.started = false) (hv : v ∈ c.eventsOf x ++ [m.added]) :
    v ∈ c'.eventsOf x := by
  cases h with
  | @detected m y r' _ d hrule hframe _ hmessage _ _ hrulename _ _ hcounted hevents =>
    subst hx hrulename
    obtain rfl := Option.some.inj (hr.symm.trans hrule)
    rw [hmessage] at hfailed
    rw [hevents, hfailed, if_neg Bool.false_ne_true, hcounted]
    exact mem_counted_of_young hv hyoung hnow

theorem Pass.mem_counted {m : Message ε} {d : Detection ε} (h : Pass c (.message m) (some d) c')
    (hx : d.input.rule = x) (hnow : ∀ t ∈ (Poll.message m).readings, t ≤ now)
    (hv : v ∈ c.eventsOf x) : v ∈ d.counted := by
  cases h with
  | @detected m y r' _ d hrule hframe _ hmessage _ _ hrulename _ _ hcounted hevents =>
    subst hx hrulename
    obtain rfl := Option.some.inj (hr.symm.trans hrule)
    rw [hcounted]
    exact mem_counted_of_young (List.mem_append_left _ hv) hyoung hnow

/-- **Run lemma.** -/
theorem mem_eventsOf_after (h : c.Configured) (hnow : ∀ t ∈ polls.flatMap Poll.readings, t ≤ now)
    (hfailed : ∀ d ∈ c.detections polls, d.input.rule = x → d.message.started = false)
    (hv : v ∈ c.eventsOf x) : v ∈ (c.after polls).eventsOf x := by
  induction polls generalizing c with
  | nil => exact hv
  | cons p polls ih =>
    rw [List.flatMap_cons] at hnow
    obtain ⟨hrules, hconfigured⟩ := step_configured h p
    have hfirst : v ∈ (c.step p).2.eventsOf x := by
      refine (step_pass h p).mem_eventsOf hr hyoung (fun t ht => hnow t (List.mem_append_left _ ht)) ?_ hv
      intro d hd
      exact hfailed d (List.mem_append_left _ (Option.mem_toList.mpr hd))
    refine ih (hrules ▸ hr) hconfigured (fun t ht => hnow t (List.mem_append_right _ ht)) ?_ hfirst
    intro d hd
    exact hfailed d (List.mem_append_right _ hd)

end Kept

/-- The last reading of a message is the latest so far. -/
theorem le_counted {m : Message ε} {earlier : List Rat}
    (h : (earlier ++ (Poll.message m).readings).Pairwise (· ≤ ·)) :
    ∀ t ∈ earlier ++ (Poll.message m).readings, t ≤ m.counted := by
  have hlast : (Poll.message m).readings = [time m.added, m.logged, m.named] ++ [m.counted] := rfl
  rw [hlast, ← List.append_assoc] at h ⊢
  intro t ht
  rcases List.mem_append.mp ht with ht | ht
  · exact (List.pairwise_append.mp h).2.2 t ht _ (.head _)
  · exact le_of_eq (List.mem_singleton.mp ht)

/-- A failed start loses no event that is still young. -/
def NothingLost (c : Consumer ε) (polls : List (Poll ε)) : Prop :=
  ∀ before m rest d r, polls = before ++ .message m :: rest →
    ((c.after before).step (.message m)).1 = some d → d.message.started = false →
    PyDict.find? c.rules d.input.rule = some r →
    ∀ v ∈ (c.after before).eventsOf d.input.rule ++ [m.added], r.Young m.counted v →
      v ∈ ((c.after before).step (.message m)).2.eventsOf d.input.rule

/-- If no workflow of its rule starts between a failed start and a later detection, the later
one counts all that the failed one could count and that is still young. -/
def CountsNext (c : Consumer ε) (polls : List (Poll ε)) : Prop :=
  ∀ before m between m' rest d e r,
    polls = before ++ .message m :: (between ++ .message m' :: rest) →
    ((c.after before).step (.message m)).1 = some d → d.message.started = false →
    PyDict.find? c.rules d.input.rule = some r →
    (∀ d' ∈ ((c.after before).step (.message m)).2.detections between,
      d'.input.rule = d.input.rule → d'.message.started = false) →
    ((((c.after before).step (.message m)).2.after between).step (.message m')).1 = some e →
    e.input.rule = d.input.rule →
    ∀ v ∈ (c.after before).eventsOf d.input.rule ++ [m.added], r.Young m'.counted v → v ∈ e.counted

theorem nothingLost (h : c.Configured) (hclock : Clocked polls) : NothingLost c polls := by
  rintro before m rest d r rfl hd hstarted hr v hv hyoung
  obtain ⟨hrules, hbefore⟩ := after_configured h before
  have hreadings : (Poll.message m).readings.Pairwise (· ≤ ·) := by
    rw [Clocked, List.flatMap_append, List.flatMap_cons] at hclock
    exact hclock.sublist ((List.sublist_append_left _ _).trans (List.sublist_append_right _ _))
  have hpass := step_pass hbefore (.message m)
  rw [hd] at hpass
  have hle : ∀ t ∈ [] ++ (Poll.message m).readings, t ≤ m.counted := le_counted hreadings
  exact hpass.mem_eventsOf_failed (hrules ▸ hr) hyoung rfl hle hstarted hv

theorem countsNext (h : c.Configured) (hclock : Clocked polls) : CountsNext c polls := by
  rintro before m between m' rest d e r rfl hd hstarted hr hbetween he hrule v hv hyoung
  obtain ⟨hrules, hbefore⟩ := after_configured h before
  obtain ⟨hrules', hm⟩ := step_configured hbefore (.message m)
  obtain ⟨hrules'', hlast⟩ := after_configured hm between
  have hnow : ∀ t ∈ ((Poll.message m).readings ++ between.flatMap Poll.readings) ++
      (Poll.message m').readings, t ≤ m'.counted := by
    refine le_counted ?_
    rw [Clocked, List.flatMap_append, List.flatMap_cons, List.flatMap_append, List.flatMap_cons,
      ← List.append_assoc (between.flatMap _), ← List.append_assoc (Poll.message m).readings,
      ← List.append_assoc (Poll.message m).readings] at hclock
    exact hclock.sublist ((List.sublist_append_left _ _).trans (List.sublist_append_right _ _))
  have hpass := step_pass hbefore (.message m)
  rw [hd] at hpass
  have hfirst := hpass.mem_eventsOf_failed (hrules ▸ hr) hyoung rfl
    (fun t ht => hnow t (List.mem_append_left _ (List.mem_append_left _ ht))) hstarted hv
  have hkept := mem_eventsOf_after (hrules' ▸ hrules ▸ hr) hyoung hm
    (fun t ht => hnow t (List.mem_append_left _ (List.mem_append_right _ ht))) hbetween hfirst
  have hpass' := step_pass hlast (.message m')
  rw [he] at hpass'
  exact hpass'.mem_counted (hrules'' ▸ hrules' ▸ hrules ▸ hr) hyoung hrule
    (fun t ht => hnow t (List.mem_append_right _ ht)) hkept

/-! ## Frame -/

theorem step_window_ne {p : Poll ε} {x : String} (hx : p.rule ≠ some x) :
    PyDict.find? (c.step p).2.windows x = PyDict.find? c.windows x := by
  cases p with
  | nothing => rfl
  | kafkaError => rfl
  | message m =>
    cases hread : m.read with
    | error _ => simp only [Consumer.step, hread]
    | ok read =>
      obtain ⟨y | y, actorId⟩ := read
      · simp only [Consumer.step, hread]
      have hy : x ≠ y := by
        rintro rfl
        simp [Poll.rule, hread] at hx
      simp only [Consumer.step, hread]
      split
      · exact PyDict.find?_set_ne hy
      · rfl

end Run

/-- The accounting of every run: the numbered run is the run, with what each detection
counted; no event is counted by two workflows that started; a failed start keeps what is
still in the window for the next detection; and no event changes the window of another rule. -/
theorem breach_accounting (detectionRules : List DetectionRule) (polls : List (Poll Rat))
    (hclock : Clocked polls) :
    ((Consumer.load detectionRules).detections (number polls)).map (Detection.map Prod.snd) =
      (Consumer.load detectionRules).detections polls ∧
    (∀ d ∈ (Consumer.load detectionRules).detections (number polls),
      d.input.eventCount = d.counted.length) ∧
    CountedOnce ((Consumer.load detectionRules).detections (number polls)) ∧
    NothingLost (Consumer.load detectionRules) (number polls) ∧
    CountsNext (Consumer.load detectionRules) (number polls) ∧
    ∀ before p rest x, polls = before ++ p :: rest → p.rule ≠ some x →
      PyDict.find? (((Consumer.load detectionRules).after before).step p).2.windows x =
        PyDict.find? ((Consumer.load detectionRules).after before).windows x := by
  have hnumbered : Clocked (number polls) := by rwa [Clocked, number_readings]
  refine ⟨?_, ?_, ?_, nothingLost (configured_load _) hnumbered,
    countsNext (configured_load _) hnumbered, fun _ _ _ _ _ hx => step_window_ne hx⟩
  · have hmap := @detections_map (Nat × Rat) Rat Prod.snd _ _ (fun _ => rfl)
      (Consumer.load detectionRules) (number polls)
    rwa [number_erase, load_map, eq_comm] at hmap
  · intro d hd
    exact detection_eventCount (configured_load _) hd
  · refine countedOnce (configured_load _) fun x => ?_
    rw [eventsOf_load, List.nil_append]
    exact number_added_nodup polls

/-! Logins that fail at 0, 10, 20, 30 and 40 seconds, with a threshold of two. The first
workflow does not start. -/

def login (at_ : Rat) (started : Bool) : Poll Rat :=
  .message { sampleMessage "auth_failed" at_ at_ with started }

def logins : List (Poll Rat) :=
  [login 0 true, login 10 false, login 20 true, login 30 true, login 40 true]

theorem breach_accounting_logins : CountedOnce ((Consumer.load sampleRules).detections (number logins)) ∧
    ((Consumer.load sampleRules).detections (number logins)).map
      (fun d => (d.message.started, d.counted.map Prod.fst)) =
        [(false, [0, 1]), (true, [0, 1, 2]), (true, [3, 4])] :=
  ⟨(breach_accounting sampleRules logins (by decide +kernel)).2.2.1, by decide +kernel⟩

end OcenPlatform.Breach
