import OcenPlatform.Breach.Consumer

/-! Whether a detected breach is confirmed. The consumer counts again after the threshold
test, and the workflow compares this count with the threshold. -/

namespace OcenPlatform.Breach

open Durable
open Stamped (time)

/-- `detect_breaches`, which reads the rules of the configuration again. -/
def detectBreaches (detectionRules : List DetectionRule) (input : BreachDetectionInput) : Dict :=
  match PyDict.find? (loadDetectionRules detectionRules) input.rule with
  | none => [("confirmed", .bool false), ("reason", .str ("unknown_rule: " ++ input.rule))]
  | some r =>
    if r.threshold ≤ input.eventCount then
      [("confirmed", .bool true), ("threshold", .num r.threshold), ("actual", .num input.eventCount)]
    else [("confirmed", .bool false), ("reason", .str "below_threshold")]

/-- `detection_result.get("confirmed")`. -/
def Confirmed (result : Dict) : Prop := (PyDict.get result "confirmed" .null).truthy = true

instance (result : Dict) : Decidable (Confirmed result) := inferInstanceAs (Decidable (_ = true))

/-- Of the events up to the message, the oldest one that the threshold needs is still in the
window at the count for the workflow. -/
def StillYoung (r : DetectionRule) (events : List Rat) (m : Message Rat) : Prop :=
  r.threshold ≤ 0 ∨ ∃ e ∈ (events ++ [m.added]).reverse[(r.threshold - 1).toNat]?,
    m.counted - ((r.windowMinutes * 60 : Int) : Rat) < e

instance (r : DetectionRule) (events : List Rat) (m : Message Rat) :
    Decidable (StillYoung r events m) :=
  inferInstanceAs (Decidable (_ ∨ ∃ e ∈ _, _))

section Confirm

variable {detectionRules : List DetectionRule} {input : BreachDetectionInput} {r : DetectionRule}

theorem confirmed_iff (h : PyDict.find? (loadDetectionRules detectionRules) input.rule = some r) :
    Confirmed (detectBreaches detectionRules input) ↔ r.threshold ≤ input.eventCount := by
  simp only [Confirmed, detectBreaches, h]
  split
  · rename_i hle
    simp [PyDict.get, Json.truthy, hle]
  · rename_i hlt
    simp [PyDict.get, Json.truthy, hlt]

/-- Between the test and the count nothing is lost but what has become too old. -/
theorem counted_eq {m : Message Rat} {events : List Rat} (hlogged : m.added ≤ m.logged)
    (hcounted : m.logged ≤ m.counted) : r.counted m events =
      Window.prune id m.counted ((r.windowMinutes * 60 : Int) : Rat) (events ++ [m.added]) := by
  unfold DetectionRule.counted DetectionRule.kept
  exact (Window.prune_prune hcounted).trans (Window.prune_prune (hlogged.trans hcounted))

theorem threshold_le_counted_iff {m : Message Rat} {events : List Rat} (hlogged : m.added ≤ m.logged)
    (hcounted : m.logged ≤ m.counted) (hsorted : (events ++ [m.added]).Pairwise (· ≤ ·)) :
    r.threshold ≤ (r.counted m events).length ↔ StillYoung r events m := by
  have hlt : (r.threshold - 1).toNat < (Window.prune id m.counted
      ((r.windowMinutes * 60 : Int) : Rat) (events ++ [m.added])).length ↔
        ∃ e ∈ (events ++ [m.added]).reverse[(r.threshold - 1).toNat]?,
          m.counted - ((r.windowMinutes * 60 : Int) : Rat) < e :=
    Window.lt_length_prune_iff hsorted
  rw [counted_eq hlogged hcounted, StillYoung, ← hlt]
  omega

/-- The readings of a message and the events before it are in order. -/
theorem Clocked.sorted {before rest : List (Poll Rat)} {m : Message Rat} {x : String}
    (hclock : Clocked (before ++ .message m :: rest)) :
    m.added ≤ m.logged ∧ m.logged ≤ m.counted ∧
      ((((Consumer.load detectionRules).after before).eventsOf x) ++ [m.added]).Pairwise
        (· ≤ ·) := by
  rw [Clocked, List.flatMap_append, List.flatMap_cons] at hclock
  have hreadings : [m.added, m.logged, m.named, m.counted].Pairwise (· ≤ ·) :=
    hclock.sublist ((List.sublist_append_left _ _).trans (List.sublist_append_right _ _))
  simp only [List.pairwise_cons, List.mem_cons, List.not_mem_nil, or_false,
    forall_eq_or_imp] at hreadings
  have hbefore : (before.flatMap Poll.added).Sublist (before.flatMap Poll.readings) := by
    have hsub := added_sublist_readings before
    rwa [show (before.flatMap Poll.added).map time = before.flatMap Poll.added from
      List.map_id _] at hsub
  have hevents := after_eventsOf_sublist (configured_load detectionRules) before x
  rw [eventsOf_load, List.nil_append] at hevents
  refine ⟨hreadings.1.1, hreadings.2.1.2 _ rfl, hclock.sublist ?_⟩
  refine (hevents.trans hbefore).append ?_
  exact (List.singleton_sublist.mpr (.head _)).trans (List.sublist_append_left _ _)

end Confirm

/-- A detection is confirmed exactly if its threshold-th latest event has not left the window
by the time of the last count. -/
theorem confirmed_iff_stillYoung (detectionRules : List DetectionRule) (polls : List (Poll Rat))
    (hclock : Clocked polls) (before rest : List (Poll Rat)) (m : Message Rat)
    (hpolls : polls = before ++ .message m :: rest) (d : Detection Rat)
    (hd : (((Consumer.load detectionRules).after before).step (.message m)).1 = some d) :
    ∃ r, PyDict.find? (loadDetectionRules detectionRules) d.input.rule = some r ∧
      (Confirmed (detectBreaches detectionRules d.input) ↔
        StillYoung r (((Consumer.load detectionRules).after before).eventsOf d.input.rule) m) := by
  subst hpolls
  obtain ⟨hrules, hconfigured⟩ := after_configured (configured_load detectionRules) before
  have hpass := step_pass hconfigured (.message m)
  rw [hd] at hpass
  cases hpass with
  | detected hrule _ _ _ _ _ hrulename _ hcount hcounted _ =>
    subst hrulename
    rw [hrules] at hrule
    obtain ⟨hlogged, hlast, hsorted⟩ := hclock.sorted
    refine ⟨_, hrule, ?_⟩
    rw [confirmed_iff hrule, hcount, hcounted]
    exact threshold_le_counted_iff hlogged hlast hsorted

/-! Two failed logins within a minute, with a threshold of two. -/

def sampleRules : List DetectionRule := [⟨"failed_auth", 2, 1⟩]

def auditEvent (eventType : String) : Json :=
  .obj [("event_type", .str eventType), ("actor_id", .str "actor-1")]

/-- A message for which the clock stands still until the last count. -/
def sampleMessage (eventType : String) (at_ counted : Rat) : Message Rat where
  value := .ok (auditEvent eventType)
  added := at_
  logged := at_
  named := at_
  counted := counted

/-- The second login fails at 59 seconds and is counted at `counted`. -/
def secondLogin (counted : Rat) : Message Rat := sampleMessage "auth_failed" 59 counted

def failedLogins (counted : Rat) : List (Poll Rat) :=
  [.message (sampleMessage "auth_failed" 0 0), .message (secondLogin counted)]

/-- The consumer after the first login. -/
def afterFirst : Consumer Rat :=
  (Consumer.load sampleRules).after [.message (sampleMessage "auth_failed" 0 0)]

theorem secondLogin_detected :
    (afterFirst.step (.message (secondLogin 59))).1.isSome = true := by decide +kernel

def sampleDetection : Detection Rat :=
  (afterFirst.step (.message (secondLogin 59))).1.get secondLogin_detected

/-- Both logins are counted at 59 seconds. -/
theorem confirmed_iff_stillYoung_failedLogins :
    Confirmed (detectBreaches sampleRules sampleDetection.input) := by
  have hclock : Clocked (failedLogins 59) := by decide +kernel
  obtain ⟨r, hr, hiff⟩ := confirmed_iff_stillYoung sampleRules (failedLogins 59) hclock
    [.message (sampleMessage "auth_failed" 0 0)] [] (secondLogin 59) rfl sampleDetection
    (Option.some_get secondLogin_detected).symm
  have hrule : PyDict.find? (loadDetectionRules sampleRules) sampleDetection.input.rule =
      some ⟨"failed_auth", 2, 1⟩ := by decide +kernel
  obtain rfl := Option.some.inj (hr.symm.trans hrule)
  exact hiff.mpr (by decide +kernel)

/-- The first login has left the window by the time of the last count. -/
theorem failedLogins_not_confirmed :
    ¬ ∀ d ∈ (Consumer.load sampleRules).detections (failedLogins 60),
      Confirmed (detectBreaches sampleRules d.input) := by
  decide +kernel

end OcenPlatform.Breach
