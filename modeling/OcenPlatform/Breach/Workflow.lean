import OcenPlatform.Breach.Confirmation
import OcenPlatform.Durable.Deadlines
import OcenPlatform.Durable.Logic

/-! `BreachDetectionWorkflow`: a detected breach is confirmed, and then the Board and the principals
are notified. Each attempt of an activity reads the configuration file as it is then. -/

namespace OcenPlatform.Breach

open Durable
open Durable.Proc (returns_bind returns_ofExcept returns_pure)
open Durable.Program (execute within_execute_bind)

/-! ## The activities -/

/-- `breach` in the configuration. -/
structure BreachConfig where
  detectionRules : List DetectionRule
  dpbiEndpoint : Json := .str ""

inductive BreachActivity where
  | detectBreaches (input : BreachDetectionInput)
  | notifyDpbi (input : BreachDetectionInput)
  | notifyAffectedPrincipals (input : BreachDetectionInput)

/-- `notify_dpbi`, up to the request that it leaves out. -/
def notifyDpbi (endpoint : Json) : Dict :=
  if !endpoint.truthy then [("notified", .bool false), ("reason", .str "endpoint_not_configured")]
  else [("notified", .bool true), ("endpoint", endpoint)]

/-- `notify_affected_principals`, a placeholder. -/
def notifyAffectedPrincipals : Dict :=
  [("count", .num 0), ("reason", .str "notification_system_pending")]

namespace BreachActivity

/-- The activity's function, with what comes of reading the file. -/
def code (file : Except String BreachConfig) : BreachActivity → Proc Empty (fun _ => Unit) Dict
  | .detectBreaches input => do
    let config ← Proc.ofExcept file
    return Breach.detectBreaches config.detectionRules input
  | .notifyDpbi _ => do
    let config ← Proc.ofExcept file
    return Breach.notifyDpbi config.dpbiEndpoint
  | .notifyAffectedPrincipals _ => return Breach.notifyAffectedPrincipals

def retryPolicy (_ : BreachActivity) : RetryPolicy := { maximumAttempts := 3 }

def timing : BreachActivity → Timing
  | .detectBreaches _ => { startToClose := 300, initialInterval := 2, maximumInterval := 30 }
  | .notifyDpbi _ => { startToClose := 120, initialInterval := 2, maximumInterval := 30 }
  | .notifyAffectedPrincipals _ => { startToClose := 600, initialInterval := 2, maximumInterval := 30 }

def notifies : BreachActivity → Bool
  | .detectBreaches _ => false
  | .notifyDpbi _ | .notifyAffectedPrincipals _ => true

end BreachActivity

/-! ## The run method -/

/-- The result dicts. -/
def dismissal (input : BreachDetectionInput) (detectionResult : Dict) : Dict :=
  [("rule", .str input.rule), ("confirmed", .bool false),
    ("reason", PyDict.get detectionResult "reason" (.str "below_threshold"))]

def notification (input : BreachDetectionInput) (notificationResult principalResult : Dict) : Dict :=
  [("rule", .str input.rule), ("confirmed", .bool true),
    ("dpbi_notified", PyDict.get notificationResult "notified" (.bool false)),
    ("principals_notified", PyDict.get principalResult "count" (.num 0))]

/-- `BreachDetectionWorkflow.run`. -/
def runMethod (input : BreachDetectionInput) : Program Unit BreachActivity Dict Dict Dict := do
  let detectionResult ← execute (.detectBreaches input)
  if !(PyDict.get detectionResult "confirmed" .null).truthy then
    .exit (dismissal input detectionResult)
  let notificationResult ← execute (.notifyDpbi input)
  let principalResult ← execute (.notifyAffectedPrincipals input)
  return notification input notificationResult principalResult

def breachDetection (input : BreachDetectionInput) : Deployment Unit BreachActivity Dict Empty Dict
    (Except String BreachConfig) Unit Empty fun _ => Unit where
  handlers := ⟨(), fun _ => nofun⟩
  program := runMethod input
  code := BreachActivity.code
  retryPolicy := BreachActivity.retryPolicy
  answers _ := nofun

abbrev BreachHappening := Happening Empty (Except String BreachConfig) Unit Empty fun _ => Unit

abbrev BreachLog := Log (Except String BreachConfig) BreachActivity Empty (fun _ => Unit) Dict Unit

abbrev BreachRun := Timed Unit BreachActivity Dict Empty Dict (Except String BreachConfig) Unit Empty
  fun _ => Unit

def runBreach (input : BreachDetectionInput) (happenings : List (Nat × BreachHappening)) : BreachRun :=
  Timed.run (breachDetection input) [] () happenings

/-! ## The contract -/

/-- The results so far, of which the first confirms. -/
def contract (input : BreachDetectionInput) : Contract BreachActivity Dict Empty Dict where
  pending
    | .detectBreaches i, h => i = input ∧ h.results = []
    | .notifyDpbi i, h => i = input ∧
      ∃ r, h.results = [(.detectBreaches input, r)] ∧ Confirmed r
    | .notifyAffectedPrincipals i, h => i = input ∧
      ∃ r r', h.results = [(.detectBreaches input, r), (.notifyDpbi input, r')] ∧ Confirmed r
  waiting _ := True
  broken _ := True
  returned out h :=
    (∃ r, h.results = [(.detectBreaches input, r)] ∧ ¬ Confirmed r ∧ out = dismissal input r) ∨
    ∃ r r' r'', h.results = [(.detectBreaches input, r), (.notifyDpbi input, r'),
      (.notifyAffectedPrincipals input, r'')] ∧ Confirmed r ∧ out = notification input r' r''

theorem vc_runMethod (input : BreachDetectionInput) (early : List Empty) :
    VC (breachDetection input).handlers (contract input) (contract input).returned (runMethod input)
      (early.map .signalled) := by
  unfold runMethod
  rw [VC_bind]
  intro gs
  refine ⟨⟨rfl, by simp⟩, trivial, fun r => ?_⟩
  change VC _ _ _ (if _ then _ else _) _
  split
  · rename_i hdismissed
    exact .inl ⟨r, by simp, by simpa [Confirmed] using hdismissed, rfl⟩
  · rename_i hkept
    have hconfirmed : Confirmed r := by simpa [Confirmed] using hkept
    intro gs'
    refine ⟨⟨rfl, r, by simp, hconfirmed⟩, trivial, fun r' gs'' => ?_⟩
    refine ⟨⟨rfl, r, r', by simp, hconfirmed⟩, trivial, fun r'' => ?_⟩
    exact .inr ⟨r, r', r'', by simp, hconfirmed, rfl⟩

/-! ## Runs -/

section Runs

variable {input i : BreachDetectionInput} {file : Except String BreachConfig} {r : Dict}

theorem detectBreaches_returns (h : (BreachActivity.code file (.detectBreaches i)).Returns r) :
    ∃ config, file = .ok config ∧ r = detectBreaches config.detectionRules i := by
  obtain ⟨config, hfile, hr⟩ := (returns_bind _ _ r).mp h
  exact ⟨config, returns_ofExcept.mp hfile, returns_pure.mp hr⟩

theorem notifyDpbi_returns (h : (BreachActivity.code file (.notifyDpbi i)).Returns r) :
    ∃ config, file = .ok config ∧ r = notifyDpbi config.dpbiEndpoint := by
  obtain ⟨config, hfile, hr⟩ := (returns_bind _ _ r).mp h
  exact ⟨config, returns_ofExcept.mp hfile, returns_pure.mp hr⟩

/-- What the log of a run says at a point at which these are its results. -/
theorem exists_config {happenings : List BreachHappening} {l l' : BreachLog}
    (hlog : (World.run (breachDetection input) [] () happenings).log = l ++ l')
    (hmem : (.detectBreaches input, r) ∈ l.results) :
    ∃ config, .started (.ok config) (.detectBreaches input) ∈ l ∧
      r = detectBreaches config.detectionRules input := by
  obtain ⟨file, hstarted, hreturns⟩ :=
    (coherent_run (breachDetection input) [] () happenings).started_of_mem hlog hmem
  obtain ⟨config, rfl, hr⟩ := detectBreaches_returns hreturns
  exact ⟨config, hstarted, hr⟩

/-- **Nothing is notified that was not confirmed.** -/
theorem confirmed_of_started {happenings : List BreachHappening} {before after : BreachLog}
    {a : BreachActivity} (hnotifies : a.notifies = true)
    (hlog : (World.run (breachDetection input) [] () happenings).log =
      before ++ .started file a :: after) :
    ∃ r, before.results.head? = some (.detectBreaches input, r) ∧ Confirmed r := by
  obtain ⟨x, next, hreachable, hstatus, hresults⟩ :=
    (coherent_run (breachDetection input) [] () happenings).explained before _ after hlog
  have hcontract : (contract input).Holds x := by
    obtain ⟨events, rfl⟩ := hreachable
    exact holds_run (vc_runMethod input) [] events
  have hpending := hcontract.pending hstatus
  rw [← hresults]
  cases a with
  | detectBreaches i => cases hnotifies
  | notifyDpbi i =>
    obtain ⟨-, r, hr, hconfirmed⟩ := hpending
    exact ⟨r, by rw [hr]; rfl, hconfirmed⟩
  | notifyAffectedPrincipals i =>
    obtain ⟨-, r, r', hr, hconfirmed⟩ := hpending
    exact ⟨r, by rw [hr]; rfl, hconfirmed⟩

/-- The two ways in which a run returns. -/
def Answers (input : BreachDetectionInput) (l : BreachLog) (out : Dict) : Prop :=
  (∃ config, .started (.ok config) (.detectBreaches input) ∈ l ∧
    ¬ Confirmed (detectBreaches config.detectionRules input) ∧
    out = dismissal input (detectBreaches config.detectionRules input) ∧
    ∀ file a, .started file a ∈ l → a.notifies = false) ∨
  ∃ config config', .started (.ok config) (.detectBreaches input) ∈ l ∧
    Confirmed (detectBreaches config.detectionRules input) ∧
    .started (.ok config') (.notifyDpbi input) ∈ l ∧
    out = [("rule", .str input.rule), ("confirmed", .bool true),
      ("dpbi_notified", .bool config'.dpbiEndpoint.truthy), ("principals_notified", .num 0)]

theorem answers_of_returned {happenings : List BreachHappening} {out : Dict}
    (hout : (World.run (breachDetection input) [] () happenings).exec.status = .returned out) :
    Answers input (World.run (breachDetection input) [] () happenings).log out := by
  have hcoherent := coherent_run (breachDetection input) [] () happenings
  have hlog := (List.append_nil (World.run (breachDetection input) [] () happenings).log).symm
  have hcontract : (contract input).Holds (World.run (breachDetection input) [] () happenings).exec := by
    obtain ⟨events, hexec⟩ := hcoherent.reachable
    rw [hexec]
    exact holds_run (vc_runMethod input) [] events
  simp only [Contract.Holds, hout] at hcontract
  rcases hcontract with ⟨r, hresults, hdismissed, rfl⟩ | ⟨r, r', r'', hresults, hconfirmed, rfl⟩
  · rw [hcoherent.completed] at hresults
    obtain ⟨config, hstarted, rfl⟩ := exists_config hlog (by rw [hresults]; exact .head _)
    refine .inl ⟨config, hstarted, hdismissed, rfl, fun file a hmem => ?_⟩
    by_contra hnotifies
    obtain ⟨before, after, hsplit⟩ := List.append_of_mem hmem
    obtain ⟨r, hhead, hconfirmed⟩ := confirmed_of_started (by simpa using hnotifies) hsplit
    -- The result that has confirmed it is the only one there is.
    have hfirst := List.mem_append_left (Log.results (.started file a :: after)) (List.mem_of_head? hhead)
    rw [← Log.results_append, ← hsplit, hresults, List.mem_singleton] at hfirst
    obtain rfl := (Prod.mk.inj hfirst).2
    exact hdismissed hconfirmed
  · rw [hcoherent.completed] at hresults
    obtain ⟨config, hstarted, rfl⟩ := exists_config hlog (by rw [hresults]; exact .head _)
    obtain ⟨file', hstarted', hreturns'⟩ :=
      hcoherent.started_of_mem hlog (a := .notifyDpbi input) (r := r') (by rw [hresults]; simp)
    obtain ⟨config', rfl, rfl⟩ := notifyDpbi_returns (i := input) hreturns'
    obtain ⟨file'', -, hreturns''⟩ := hcoherent.started_of_mem hlog
      (a := .notifyAffectedPrincipals input) (r := r'') (by rw [hresults]; simp)
    obtain rfl := returns_pure.mp hreturns''
    refine .inr ⟨config, config', hstarted, hconfirmed, hstarted', ?_⟩
    unfold notification notifyDpbi
    cases config'.dpbiEndpoint.truthy <;> rfl

end Runs

/-! ## How long it takes -/

theorem takes_runMethod (input : BreachDetectionInput) (pickup : Nat) :
    (runMethod input).Within (fun _ _ => True) (activityCost (breachDetection input)
      BreachActivity.timing pickup) (3078 + 9 * pickup) := by
  have hcost : ∀ a, activityCost (breachDetection input) BreachActivity.timing pickup a =
      3 * a.timing.startToClose + 6 + 3 * pickup := by
    intro a
    cases a <;> simp [activityCost, attemptsLeft, breachDetection, BreachActivity.timing,
      BreachActivity.retryPolicy, Timing.attempts, Timing.backoff, Timing.attempt] <;> omega
  unfold runMethod
  refine (within_execute_bind (e := 2172 + 6 * pickup) fun r _ => ?_).mono ?_
  · split
    · trivial
    · refine (within_execute_bind (e := 1806 + 3 * pickup) fun r' _ => ?_).mono ?_
      · refine (within_execute_bind (e := 0) fun r'' _ => ?_).mono ?_
        · trivial
        · rw [hcost]
          simp only [BreachActivity.timing]
          omega
      · rw [hcost]
        simp only [BreachActivity.timing]
        omega
  · rw [hcost]
    simp only [BreachActivity.timing]
    omega

/-- **A breach is notified once it is confirmed.** An attempt to notify the Board or the principals
starts only after one of `detect_breaches` that has confirmed the breach by the rules which it read. A
run that returns says whether it was confirmed; the Board counts as notified exactly if there was an
endpoint in the configuration then, and no principal ever does. A punctual run is over after 51
minutes and 18 seconds, and what the workers take to pick up nine attempts. -/
theorem breach_notified (input : BreachDetectionInput) (happenings : List (Nat × BreachHappening)) :
    EachEntry (fun before e => ∀ file a, e = .started file a → a.notifies = true →
      ∃ config, .started (.ok config) (.detectBreaches input) ∈ before ∧
        Confirmed (detectBreaches config.detectionRules input))
      (runBreach input happenings).world.log ∧
    (∀ out, (runBreach input happenings).world.exec.status = .returned out →
      Answers input (runBreach input happenings).world.log out) ∧
    ∀ pickup, (Timed.start (breachDetection input) [] ()).punctual (breachDetection input)
        BreachActivity.timing pickup happenings = true →
      (runBreach input happenings).InTime BreachActivity.timing pickup (3078 + 9 * pickup) := by
  have hworld : (runBreach input happenings).world =
      World.run (breachDetection input) [] () (happenings.map Prod.snd) := Timed.run_world [] () happenings
  refine ⟨?_, fun out hout => ?_, fun pickup hpunctual => ?_⟩
  · rintro before _ after hlog file a rfl hnotifies
    rw [hworld] at hlog
    obtain ⟨r, hhead, hconfirmed⟩ := confirmed_of_started hnotifies hlog
    obtain ⟨config, hstarted, rfl⟩ := exists_config hlog (List.mem_of_head? hhead)
    exact ⟨config, hstarted, hconfirmed⟩
  · rw [hworld] at hout ⊢
    exact answers_of_returned hout
  · have hprogram := takes_runMethod input pickup
    exact (Timed.sound_run (fun _ => Nat.succ_pos 2) (fun _ _ _ _ => trivial) hprogram hpunctual).inTime

/-! The platform's configuration file, whose endpoint is the text of a variable that is not replaced,
and a file that cannot be read. -/

def platformConfig : BreachConfig where
  detectionRules := [⟨"bulk_access", 100, 5⟩, ⟨"failed_auth", 20, 10⟩, ⟨"export_without_dsr", 1, 1⟩]
  dpbiEndpoint := .str "$\x7bDPDP_DPBI_NOTIFICATION_URL:-\x7d"

def exportInput : BreachDetectionInput := ⟨"export_without_dsr", 1, 1, .str "actor-1"⟩

/-- The first attempt of each activity is lost or raises. -/
def exportHappenings : List (Nat × BreachHappening) :=
  [(0, .attemptStarted (.error "FileNotFoundError")), (1, .attemptLeft),
    (3, .attemptStarted (.ok platformConfig)), (4, .attemptLeft),
    (4, .attemptStarted (.ok platformConfig)), (124, .attemptLost),
    (126, .attemptStarted (.ok platformConfig)), (127, .attemptLeft),
    (127, .attemptStarted (.error "FileNotFoundError")), (128, .attemptLeft)]

theorem breach_notified_export :
    (runBreach exportInput exportHappenings).InTime BreachActivity.timing 0 3078 ∧
    ∃ out, (runBreach exportInput exportHappenings).world.exec.status = .returned out ∧
      Answers exportInput (runBreach exportInput exportHappenings).world.log out ∧
      PyDict.find? out "dpbi_notified" = some (.bool true) := by
  obtain ⟨-, hanswers, hover⟩ := breach_notified exportInput exportHappenings
  have hpunctual : (Timed.start (breachDetection exportInput) [] ()).punctual
      (breachDetection exportInput) BreachActivity.timing 0 exportHappenings = true := by
    decide +kernel
  exact ⟨hover 0 hpunctual, _, rfl, hanswers _ rfl, rfl⟩

end OcenPlatform.Breach
