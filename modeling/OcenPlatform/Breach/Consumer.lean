import Mathlib.Algebra.Order.Field.Rat
import OcenPlatform.Durable.Lockstep
import OcenPlatform.Durable.Window
import OcenPlatform.Json

/-! The breach consumer: a sliding window of audit events for each detection rule, and the
workflows that it starts. -/

namespace OcenPlatform.Breach

open Durable

/-! ## Rules -/

/-- An entry of `breach.detection_rules`. -/
structure DetectionRule where
  rule : String
  threshold : Int
  windowMinutes : Int
  deriving DecidableEq, Repr

/-- The rules by name. Of two entries with one name the later counts. -/
def loadDetectionRules (detectionRules : List DetectionRule) : PyDict String DetectionRule :=
  detectionRules.foldl (fun rules r => PyDict.set rules r.rule r) []

def mapping : PyDict String String :=
  [("bulk_pii_access", "bulk_access"), ("pii_export", "export_without_dsr"),
    ("auth_failed", "failed_auth")]

/-- `map_event_to_rule`. Lists and dicts cannot be looked up. -/
def mapEventToRule : Json → Except String (Option String)
  | .str eventType => .ok (PyDict.find? mapping eventType)
  | .arr _ | .obj _ => .error "TypeError"
  | _ => .ok none

/-! ## `SlidingWindow` -/

/-- An event of a window. In the code it is its timestamp; it can have a number beside it, by
which a run accounts for it. -/
class Stamped (ε : Type) where
  time : ε → Rat

instance : Stamped Rat := ⟨id⟩

instance : Stamped (Nat × Rat) := ⟨Prod.snd⟩

open Stamped (time)

structure SlidingWindow (ε : Type) where
  windowSeconds : Int
  threshold : Int
  events : List ε := []

variable {ε : Type} [Stamped ε]

namespace SlidingWindow

def pruned (now : Rat) (w : SlidingWindow ε) : SlidingWindow ε :=
  { w with events := Window.prune time now w.windowSeconds w.events }

def add (e : ε) (w : SlidingWindow ε) : Bool × SlidingWindow ε :=
  let w := { w with events := w.events ++ [e] }.pruned (time e)
  (w.threshold ≤ w.events.length, w)

/-- `count`, which prunes as it reads. -/
def count (now : Rat) (w : SlidingWindow ε) : Nat × SlidingWindow ε :=
  ((w.pruned now).events.length, w.pruned now)

end SlidingWindow

/-! ## The loop -/

/-- A message with what the clock shows while it is processed: in `add`, at the log line, in
the workflow id and at the count for the workflow; and how the start of a workflow ends. -/
structure Message (ε : Type) where
  value : Except String Json
  added : ε
  logged : Rat
  named : Rat
  counted : Rat
  started : Bool := true

/-- What `consumer.poll` returns. -/
inductive Poll (ε : Type) where
  | nothing
  | kafkaError
  | message (m : Message ε)

structure BreachDetectionInput where
  rule : String
  eventCount : Nat
  windowMinutes : Int
  actorId : Json

/-- An `add` that returned `True`: the message, the call of `start_workflow` that it led to,
and the events behind the `event_count` of the call. -/
structure Detection (ε : Type) where
  message : Message ε
  workflowId : String
  input : BreachDetectionInput
  counted : List ε

structure Consumer (ε : Type) where
  rules : PyDict String DetectionRule
  windows : PyDict String (SlidingWindow ε)

def DetectionRule.window (r : DetectionRule) : SlidingWindow ε where
  windowSeconds := r.windowMinutes * 60
  threshold := r.threshold

/-- `run_consumer` before its loop. -/
def Consumer.load (detectionRules : List DetectionRule) : Consumer ε where
  rules := loadDetectionRules detectionRules
  windows := PyDict.mapValues DetectionRule.window (loadDetectionRules detectionRules)

/-- The rule that the message's event falls under, and the actor. -/
def Message.read (m : Message ε) : Except String (Option String × Json) := do
  let event ← m.value
  let eventType ← event.get "event_type" (.str "")
  let actorId ← event.get "actor_id" (.str "")
  return (← mapEventToRule eventType, actorId)

/-- `int(x)` of a float. -/
def truncate (q : Rat) : Int := q.num.tdiv q.den

def workflowId (ruleName : String) (now : Rat) : String :=
  "breach-" ++ ruleName ++ "-" ++ toString (truncate now)

/-- One event of a rule: the rule's window afterwards, and the detection if it was breached. -/
def SlidingWindow.process (r : DetectionRule) (ruleName : String) (actorId : Json) (m : Message ε)
    (w : SlidingWindow ε) : Option (Detection ε) × SlidingWindow ε :=
  let (breached, w) := w.add m.added
  if breached = false then (none, w)
  else
    let (_, w) := w.count m.logged
    let (eventCount, w) := w.count m.counted
    (some {
      message := m
      workflowId := workflowId ruleName m.named
      input := { rule := ruleName, eventCount, windowMinutes := r.windowMinutes, actorId }
      counted := w.events },
      if m.started then r.window else w)

/-- A pass of the loop. Whatever is raised is caught and logged; the two dicts have the
same keys. -/
def Consumer.step (c : Consumer ε) : Poll ε → Option (Detection ε) × Consumer ε
  | .nothing | .kafkaError => (none, c)
  | .message m =>
    match m.read with
    | .error _ | .ok (none, _) => (none, c)
    | .ok (some ruleName, actorId) =>
      match PyDict.find? c.windows ruleName, PyDict.find? c.rules ruleName with
      | some w, some r =>
        let (d, w) := w.process r ruleName actorId m
        (d, { c with windows := PyDict.set c.windows ruleName w })
      | _, _ => (none, c)

/-! ## Runs -/

abbrev Consumer.after (c : Consumer ε) (polls : List (Poll ε)) : Consumer ε :=
  Emitting.after Consumer.step c polls

abbrev Consumer.detections (c : Consumer ε) (polls : List (Poll ε)) : List (Detection ε) :=
  Emitting.emitted Consumer.step c polls

/-- The readings of the clock for a message, in their order. -/
def Poll.readings : Poll ε → List Rat
  | .message m => [time m.added, m.logged, m.named, m.counted]
  | _ => []

/-- The rule that a poll's event is mapped to. -/
def Poll.rule : Poll ε → Option String
  | .message m => match m.read with
    | .ok (ruleName, _) => ruleName
    | .error _ => none
  | _ => none

/-- The clock does not go back. -/
def Clocked (polls : List (Poll ε)) : Prop := (polls.flatMap Poll.readings).Pairwise (· ≤ ·)

instance (polls : List (Poll ε)) : Decidable (Clocked polls) :=
  inferInstanceAs (Decidable (List.Pairwise _ _))

/-! ## What a pass can do -/

def SlidingWindow.shape (w : SlidingWindow ε) : Int × Int := (w.windowSeconds, w.threshold)

/-- The rules have windows, each with the width and the threshold of its rule. -/
def Consumer.Configured (c : Consumer ε) : Prop :=
  ∀ x, (PyDict.find? c.windows x).map SlidingWindow.shape =
    (PyDict.find? c.rules x).map fun r => (r.windowMinutes * 60, r.threshold)

/-- The events in a rule's window. -/
def Consumer.eventsOf (c : Consumer ε) (x : String) : List ε :=
  ((PyDict.find? c.windows x).map SlidingWindow.events).getD []

/-- What `add` leaves in the window. -/
def DetectionRule.kept (r : DetectionRule) (m : Message ε) (events : List ε) : List ε :=
  Window.prune time (time m.added) ((r.windowMinutes * 60 : Int) : Rat) (events ++ [m.added])

/-- What the later of the two readings of `count` leaves of that. -/
def DetectionRule.counted (r : DetectionRule) (m : Message ε) (events : List ε) : List ε :=
  Window.prune time m.counted ((r.windowMinutes * 60 : Int) : Rat)
    (Window.prune time m.logged ((r.windowMinutes * 60 : Int) : Rat) (r.kept m events))

/-- A pass does nothing, or it adds an event to one window, or the event completes a
detection. The window then starts again if the workflow has started. -/
inductive Pass (c : Consumer ε) : Poll ε → Option (Detection ε) → Consumer ε → Prop where
  | idle {p : Poll ε} (hnone : ∀ x, p.rule = some x → PyDict.find? c.rules x = none) : Pass c p none c
  | added {m : Message ε} {x : String} {r : DetectionRule} {c' : Consumer ε}
      (hrule : PyDict.find? c.rules x = some r) (hframe : ∀ y ≠ x, c'.eventsOf y = c.eventsOf y)
      (hbelow : (r.kept m (c.eventsOf x)).length < r.threshold)
      (hevents : c'.eventsOf x = r.kept m (c.eventsOf x))
      (hread : (Poll.message m).rule = some x) : Pass c (.message m) none c'
  | detected {m : Message ε} {x : String} {r : DetectionRule} {c' : Consumer ε} {d : Detection ε}
      (hrule : PyDict.find? c.rules x = some r) (hframe : ∀ y ≠ x, c'.eventsOf y = c.eventsOf y)
      (hbreached : r.threshold ≤ (r.kept m (c.eventsOf x)).length)
      (hmessage : d.message = m) (hname : d.workflowId = workflowId x m.named)
      (hmapped : x ∈ mapping.map Prod.snd) (hrulename : d.input.rule = x)
      (hminutes : d.input.windowMinutes = r.windowMinutes)
      (hcount : d.input.eventCount = d.counted.length)
      (hcounted : d.counted = r.counted m (c.eventsOf x))
      (hevents : c'.eventsOf x = if m.started then [] else d.counted)
      (hread : (Poll.message m).rule = some x) : Pass c (.message m) (some d) c'

section Step

variable {c : Consumer ε} {p : Poll ε}

omit [Stamped ε] in
theorem configured_load (detectionRules : List DetectionRule) :
    (Consumer.load detectionRules : Consumer ε).Configured := by
  intro x
  rw [Consumer.load, PyDict.find?_mapValues, Option.map_map]
  rfl

omit [Stamped ε] in
theorem Consumer.Configured.rule (h : c.Configured) {x : String} {w : SlidingWindow ε}
    (hw : PyDict.find? c.windows x = some w) : ∃ r, PyDict.find? c.rules x = some r ∧
      w.windowSeconds = r.windowMinutes * 60 ∧ w.threshold = r.threshold := by
  have hx := h x
  rw [hw, Option.map_some, eq_comm, Option.map_eq_some_iff] at hx
  obtain ⟨r, hr, hshape⟩ := hx
  obtain ⟨hwidth, hthreshold⟩ := Prod.mk.inj hshape
  exact ⟨r, hr, hwidth.symm, hthreshold.symm⟩

omit [Stamped ε] in
theorem Consumer.Configured.rule_none (h : c.Configured) {x : String}
    (hw : PyDict.find? c.windows x = none) : PyDict.find? c.rules x = none := by
  have hx := h x
  rw [hw, Option.map_none, eq_comm, Option.map_eq_none_iff] at hx
  exact hx

omit [Stamped ε] in
theorem rule_of_read {m : Message ε} {read : Option String × Json} (h : m.read = .ok read) :
    (Poll.message m).rule = read.1 := by
  simp only [Poll.rule, h]

omit [Stamped ε] in
theorem eventsOf_set (windows : PyDict String (SlidingWindow ε)) (x : String) (w : SlidingWindow ε) :
    Consumer.eventsOf { c with windows := PyDict.set windows x w } x = w.events := by
  simp [Consumer.eventsOf]

omit [Stamped ε] in
/-- **Frame.** The windows of the other rules stay. -/
theorem eventsOf_set_ne {x y : String} (h : y ≠ x) (w : SlidingWindow ε) :
    Consumer.eventsOf { c with windows := PyDict.set c.windows x w } y = c.eventsOf y := by
  simp [Consumer.eventsOf, PyDict.find?_set_ne h]

omit [Stamped ε] in
/-- Only the rules that events are mapped to have detections. -/
theorem read_mapped {m : Message ε} {x : String} {actorId : Json}
    (h : m.read = .ok (some x, actorId)) : x ∈ mapping.map Prod.snd := by
  obtain ⟨event, -, h⟩ := exists_of_bind_ok h
  obtain ⟨eventType, -, h⟩ := exists_of_bind_ok h
  obtain ⟨actorId', -, h⟩ := exists_of_bind_ok h
  obtain ⟨ruleName, hrule, h⟩ := exists_of_bind_ok h
  obtain ⟨rfl, -⟩ := Prod.mk.inj (Except.ok.inj h)
  cases eventType with
  | str text => exact List.mem_map_of_mem (PyDict.mem_of_find? (Except.ok.inj hrule))
  | null => cases hrule
  | bool b => cases hrule
  | num q => cases hrule
  | arr items => cases hrule
  | obj fields => cases hrule

/-- **Step lemma.** -/
theorem step_pass (h : c.Configured) (p : Poll ε) : Pass c p (c.step p).1 (c.step p).2 := by
  cases p with
  | nothing => exact .idle nofun
  | kafkaError => exact .idle nofun
  | message m =>
    cases hread : m.read with
    | error _ => simpa only [Consumer.step, hread] using .idle (by simp [Poll.rule, hread])
    | ok read =>
      have hrule := rule_of_read hread
      obtain ⟨x | x, actorId⟩ := read
      · simpa only [Consumer.step, hread] using .idle (by simp [hrule])
      cases hw : PyDict.find? c.windows x with
      | none =>
        have hnone : ∀ y, (Poll.message m).rule = some y → PyDict.find? c.rules y = none := by
          intro y hy
          obtain rfl := Option.some.inj (hrule.symm.trans hy)
          exact h.rule_none hw
        simpa only [Consumer.step, hread, hw] using .idle hnone
      | some w =>
        obtain ⟨r, hr, hwidth, hthreshold⟩ := h.rule hw
        have hevents : c.eventsOf x = w.events := by simp [Consumer.eventsOf, hw]
        have hadd : (w.add m.added).2.events = r.kept m (c.eventsOf x) := by
          rw [hevents, DetectionRule.kept, ← hwidth]
          rfl
        simp only [Consumer.step, hread, hw, hr, SlidingWindow.process]
        by_cases hbreached : (w.add m.added).1 = false
        · rw [if_pos hbreached]
          refine .added hr (fun y hy => eventsOf_set_ne hy _) ?_ ((eventsOf_set ..).trans hadd) hrule
          rw [← hadd, ← hthreshold]
          exact not_le.mp (of_decide_eq_false hbreached)
        · rw [if_neg hbreached]
          have hlater : (((w.add m.added).2.pruned m.logged).pruned m.counted).events =
              r.counted m (c.eventsOf x) := by
            rw [DetectionRule.counted, ← hadd, ← hwidth]
            rfl
          refine .detected hr (fun y hy => eventsOf_set_ne hy _) ?_ rfl rfl (read_mapped hread) rfl
            rfl rfl hlater ?_ hrule
          · rw [← hadd, ← hthreshold]
            exact of_decide_eq_true (eq_true_of_ne_false hbreached)
          · rw [eventsOf_set]
            cases m.started <;> rfl

theorem shape_process (r : DetectionRule) (x : String) (actorId : Json) (m : Message ε)
    {w : SlidingWindow ε} (hw : w.shape = (r.windowMinutes * 60, r.threshold)) :
    (w.process r x actorId m).2.shape = w.shape := by
  simp only [SlidingWindow.process]
  split
  · rfl
  · split
    · exact hw.symm
    · rfl

theorem step_configured (h : c.Configured) (p : Poll ε) :
    (c.step p).2.rules = c.rules ∧ (c.step p).2.Configured := by
  cases p with
  | nothing => exact ⟨rfl, h⟩
  | kafkaError => exact ⟨rfl, h⟩
  | message m =>
    cases hread : m.read with
    | error _ => simpa only [Consumer.step, hread] using ⟨trivial, h⟩
    | ok read =>
      obtain ⟨x | x, actorId⟩ := read
      · simpa only [Consumer.step, hread] using ⟨trivial, h⟩
      cases hw : PyDict.find? c.windows x with
      | none => simpa only [Consumer.step, hread, hw] using ⟨trivial, h⟩
      | some w =>
        obtain ⟨r, hr, hwidth, hthreshold⟩ := h.rule hw
        simp only [Consumer.step, hread, hw, hr]
        refine ⟨trivial, fun y => ?_⟩
        rw [← h y]
        by_cases hy : y = x
        · subst hy
          rw [PyDict.find?_set_self, hw, Option.map_some, Option.map_some]
          exact congrArg some (shape_process r y actorId m (Prod.ext hwidth hthreshold))
        · rw [PyDict.find?_set_ne hy]

end Step

/-! ## Every run -/

section Run

variable {c : Consumer ε} {polls : List (Poll ε)}

theorem after_configured (h : c.Configured) (polls : List (Poll ε)) :
    (c.after polls).rules = c.rules ∧ (c.after polls).Configured := by
  induction polls generalizing c with
  | nil => exact ⟨rfl, h⟩
  | cons p polls ih =>
    obtain ⟨hrules, hc⟩ := step_configured h p
    obtain ⟨hrules', hc'⟩ := ih hc
    exact ⟨hrules'.trans hrules, hc'⟩

/-- The pass that made a detection of a run. -/
theorem exists_pass (h : c.Configured) {d : Detection ε} (hd : d ∈ c.detections polls) :
    ∃ before p rest c', polls = before ++ p :: rest ∧ Pass (c.after before) p (some d) c' := by
  obtain ⟨before, p, rest, hpolls, hp⟩ := Emitting.mem_emitted hd
  have hpass := step_pass (after_configured h before).2 p
  rw [hp] at hpass
  exact ⟨before, p, rest, _, hpolls, hpass⟩

/-- The event that a poll may add to a window. -/
def Poll.added : Poll ε → List ε
  | .message m => [m.added]
  | _ => []

theorem Pass.sublist {p : Poll ε} {o : Option (Detection ε)} {c' : Consumer ε} (h : Pass c p o c')
    (x : String) : (c'.eventsOf x).Sublist (c.eventsOf x ++ p.added) := by
  cases h with
  | idle => exact List.sublist_append_left _ _
  | @added m y r _ _ hframe _ hevents =>
    by_cases hx : x = y
    · rw [hx, hevents]
      exact Window.prune_sublist
    · rw [hframe x hx]
      exact List.sublist_append_left _ _
  | @detected m y r _ d _ hframe _ _ _ _ _ _ _ hcounted hevents =>
    by_cases hx : x = y
    · rw [hx, hevents, hcounted]
      cases m.started with
      | true => exact List.nil_sublist _
      | false => exact (Window.prune_sublist.trans Window.prune_sublist).trans Window.prune_sublist
    · rw [hframe x hx]
      exact List.sublist_append_left _ _

/-- A window holds events in the order in which they came. -/
theorem after_eventsOf_sublist (h : c.Configured) (polls : List (Poll ε)) (x : String) :
    ((c.after polls).eventsOf x).Sublist (c.eventsOf x ++ polls.flatMap Poll.added) := by
  induction polls generalizing c with
  | nil => simp
  | cons p polls ih =>
    have hrest := ih (step_configured h p).2
    have hfirst := ((step_pass h p).sublist x).append_right (polls.flatMap Poll.added)
    rw [List.flatMap_cons, ← List.append_assoc]
    exact hrest.trans hfirst

omit [Stamped ε] in
theorem eventsOf_load (detectionRules : List DetectionRule) (x : String) :
    (Consumer.load detectionRules : Consumer ε).eventsOf x = [] := by
  rw [Consumer.eventsOf, Consumer.load, PyDict.find?_mapValues]
  cases PyDict.find? (loadDetectionRules detectionRules) x <;> rfl

theorem added_sublist_readings (polls : List (Poll ε)) :
    ((polls.flatMap Poll.added).map time).Sublist (polls.flatMap Poll.readings) := by
  induction polls with
  | nil => exact .refl _
  | cons p polls ih =>
    rw [List.flatMap_cons, List.flatMap_cons, List.map_append]
    refine List.Sublist.append ?_ ih
    cases p with
    | nothing => exact .refl _
    | kafkaError => exact .refl _
    | message m => simp [Poll.added, Poll.readings]

end Run

end OcenPlatform.Breach
