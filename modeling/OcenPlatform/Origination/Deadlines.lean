import OcenPlatform.Durable.Deadlines
import OcenPlatform.Origination.Activities
import OcenPlatform.Origination.Trace

/-! How long an origination takes: the timeouts of the saga's activities and waits, and the results
that its activities give it. -/

namespace OcenPlatform.Origination

open Durable
open Durable.Proc (returns_bind returns_ofExcept returns_pure)
open Durable.Program (Within within_bind within_execute_bind within_execute_bind_bind
  within_ofExcept_bind within_self_bind within_waitCondition_bind)

/-- The timeouts that the run method schedules an activity with. -/
def Activity.timing : Activity → Timing
  | .checkDpdpConsent _ | .evaluateDecision _ => { startToClose := 60, maximumInterval := 30 }
  -- `fetch_aa_data` sends no heartbeat.
  | .fetchAaData _ => { startToClose := 600, heartbeat := some 120 }
  | .submitToLender _ => { startToClose := 300, maximumInterval := 30 }
  | .submitOcenLoanRequest _ => { startToClose := 120, maximumInterval := 30 }

/-! ## What the activities return -/

/-- The keys that the run method takes for granted. -/
def Activity.keys : Activity → List String
  | .checkDpdpConsent _ => ["allowed"]
  | .evaluateDecision _ => ["outcome"]
  | .fetchAaData _ => ["data_received"]
  | .submitToLender _ => ["offer"]
  | .submitOcenLoanRequest _ => []

def Shaped (a : Activity) (r : Json) : Prop :=
  ∃ fields, r = .obj fields ∧ ∀ key ∈ a.keys, ∃ v, PyDict.find? fields key = some v

theorem Shaped.get {a : Activity} {r : Json} (h : Shaped a r) (key : String) (default : Json) :
    ∃ v, r.get key default = .ok v := by
  obtain ⟨fields, rfl, -⟩ := h
  exact ⟨_, rfl⟩

theorem Shaped.subscript {a : Activity} {r : Json} (h : Shaped a r) (key : String)
    (hkey : key ∈ a.keys) : ∃ v, r.subscript key = .ok v := by
  obtain ⟨fields, rfl, hfields⟩ := h
  obtain ⟨v, hv⟩ := hfields key hkey
  exact ⟨v, by simp only [Json.subscript, hv]⟩

theorem shaped_evaluateDecision {process : WorkerProcess} {input : EvaluateDecisionInput} {r : Json}
    (h : (Activities.evaluateDecision process input).Returns r) : Shaped (.evaluateDecision input) r := by
  unfold Activities.evaluateDecision at h
  simp only at h
  split at h
  · simp only [returns_bind, returns_ofExcept, returns_pure] at h
    obtain ⟨result, -, _, -, outcome, -, _, -, _, -, _, -, rfl⟩ := h
    exact ⟨_, rfl, by simp [Activity.keys]⟩
  · obtain rfl := returns_pure.mp h
    exact ⟨_, rfl, by simp [Activity.keys]⟩

/-- What holds of all results of the rest holds of those of the whole. -/
theorem forall_returns_bind {α : Type} {p : Proc Call Call.Reply α} {f : α → ActivityCode}
    {Q : Json → Prop} (h : ∀ v r, (f v).Returns r → Q r) (r : Json) (hr : (p >>= f).Returns r) : Q r := by
  obtain ⟨v, -, hv⟩ := (returns_bind p f r).mp hr
  exact h v r hv

theorem shaped_fetchAaData (input : FetchAADataInput) :
    ∀ r, (Activities.fetchAaData input).Returns r → Shaped (.fetchAaData input) r := by
  have hnone : ∀ r, (pure Activities.noDataReceived : ActivityCode).Returns r →
      Shaped (.fetchAaData input) r := by
    intro r hr
    obtain rfl := returns_pure.mp hr
    exact ⟨_, rfl, by simp [Activity.keys]⟩
  unfold Activities.fetchAaData
  split
  · exact hnone
  refine forall_returns_bind fun _ => forall_returns_bind fun consentId => ?_
  split
  · refine forall_returns_bind fun _ => forall_returns_bind fun _ => forall_returns_bind fun status => ?_
    split
    · exact hnone
    · refine forall_returns_bind fun data r hr => ?_
      obtain rfl := returns_pure.mp hr
      exact ⟨_, rfl, by simp [Activity.keys]⟩
  · refine forall_returns_bind fun status => ?_
    split
    · exact hnone
    · refine forall_returns_bind fun data r hr => ?_
      obtain rfl := returns_pure.mp hr
      exact ⟨_, rfl, by simp [Activity.keys]⟩

/-- Whatever its calls answer, an activity that returns gives what the run method expects. -/
theorem shaped_of_returns (process : WorkerProcess) (a : Activity) (r : Json)
    (h : (Activity.code process a).Returns r) : Shaped a r := by
  cases a with
  | checkDpdpConsent input =>
    simp only [Activity.code, Activities.checkDpdpConsent, returns_bind, returns_pure] at h
    obtain ⟨_, -, result, -, rfl⟩ := h
    exact ⟨_, rfl, by simp [Activity.keys]⟩
  | evaluateDecision input => exact shaped_evaluateDecision h
  | fetchAaData input => exact shaped_fetchAaData input r h
  | submitToLender input =>
    simp only [Activity.code, Activities.submitToLender, returns_bind, returns_ofExcept] at h
    obtain ⟨_, -, _, -, submissionId, -, offers, -, h⟩ := h
    cases offers with
    | nil =>
      obtain rfl := returns_pure.mp h
      exact ⟨_, rfl, by simp [Activity.keys]⟩
    | cons offer offers =>
      obtain rfl := returns_pure.mp h
      exact ⟨_, rfl, by simp [Activity.keys]⟩
  | submitOcenLoanRequest input =>
    simp only [Activity.code, Activities.submitOcenLoanRequest, returns_bind, returns_pure] at h
    obtain ⟨_, -, _, -, _, -, acks, -, rfl⟩ := h
    exact ⟨_, rfl, by simp [Activity.keys]⟩

/-! ## What the sections take -/

section Sections

variable {pickup : Nat}

/-- The longest that an activity takes, with its attempts and the intervals between them. -/
def cost (pickup : Nat) (a : Activity) : Nat :=
  a.timing.attempts pickup 0 a.retryPolicy.maximumAttempts

/-- The same in seconds. -/
def Activity.slowest (pickup : Nat) : Activity → Nat
  | .checkDpdpConsent _ | .evaluateDecision _ => 183 + 3 * pickup
  | .fetchAaData _ => 241 + 2 * pickup
  | .submitToLender _ => 903 + 3 * pickup
  | .submitOcenLoanRequest _ => 363 + 3 * pickup

theorem cost_eq (a : Activity) : cost pickup a = a.slowest pickup := by
  cases a <;> simp [cost, Activity.slowest, Activity.timing, Activity.retryPolicy, Timing.attempts,
    Timing.backoff, Timing.attempt] <;> omega

abbrev Takes {α : Type} (pickup : Nat) (p : Workflow α) (d : Nat) : Prop := p.Within Shaped (cost pickup) d

theorem takes_dpdpConsentGate (loanApplicationId dataPrincipalId : String) :
    Takes pickup (dpdpConsentGate loanApplicationId dataPrincipalId) (183 + 3 * pickup) := by
  unfold dpdpConsentGate
  split
  · refine (within_execute_bind (e := 0) fun r hr => ?_).mono (by simp [cost_eq, Activity.slowest])
    obtain ⟨allowed, hallowed⟩ := hr.subscript "allowed" (.head _)
    refine within_ofExcept_bind hallowed ?_
    split
    · obtain ⟨reason, hreason⟩ := hr.get "reason" (.str "consent_not_granted")
      exact within_ofExcept_bind hreason trivial
    · trivial
  · trivial

theorem takes_decisionGate (loanApplicationId gate rulesetName : String) (rejection : Gate)
    (defaultReason : String) : Takes pickup
      (decisionGate loanApplicationId gate rulesetName rejection defaultReason) (183 + 3 * pickup) := by
  unfold decisionGate
  refine (within_execute_bind (e := 0) fun r hr => ?_).mono (by simp [cost_eq, Activity.slowest])
  obtain ⟨outcome, houtcome⟩ := hr.subscript "outcome" (.head _)
  refine within_ofExcept_bind houtcome ?_
  split
  · obtain ⟨reason, hreason⟩ := hr.get "reason" (.str defaultReason)
    exact within_ofExcept_bind hreason trivial
  · trivial

theorem takes_aaDataFetch (loanApplicationId vendorGstin dataPrincipalId : String) : Takes pickup
    (aaDataFetch loanApplicationId vendorGstin dataPrincipalId) (241 + 2 * pickup) := by
  unfold aaDataFetch
  refine (within_execute_bind (e := 0) fun r hr => ?_).mono (by simp [cost_eq, Activity.slowest])
  obtain ⟨dataReceived, hreceived⟩ := hr.subscript "data_received" (.head _)
  refine within_ofExcept_bind hreceived ?_
  split <;> trivial

theorem takes_d2DerivedAttributes (loanApplicationId : String) :
    Takes pickup (d2DerivedAttributes loanApplicationId) (183 + 3 * pickup) := by
  unfold d2DerivedAttributes
  refine (within_execute_bind (e := 0) fun r hr => ?_).mono (by simp [cost_eq, Activity.slowest])
  trivial

theorem takes_d3LenderPrescreen (loanApplicationId : String) :
    Takes pickup (d3LenderPrescreen loanApplicationId) (183 + 3 * pickup) := by
  unfold d3LenderPrescreen
  refine (within_execute_bind (e := 0) fun r hr => ?_).mono (by simp [cost_eq, Activity.slowest])
  obtain ⟨matchedLenders, hmatched⟩ := hr.get "matched_lender_ids" (.arr [])
  refine within_ofExcept_bind hmatched ?_
  split <;> trivial

/-- The longest hold. -/
theorem takes_opsHoldCheck : Takes pickup opsHoldCheck (72 * 3600) := by
  unfold opsHoldCheck
  refine within_self_bind fun w => ?_
  split
  · refine (within_waitCondition_bind (e := 0) fun released => ?_).mono (by simp)
    split <;> trivial
  · trivial

theorem takes_awaitLenderDecision (matchedLenders : Json) :
    Takes pickup (awaitLenderDecision matchedLenders) (24 * 3600) := by
  unfold awaitLenderDecision
  refine (within_waitCondition_bind (e := 0) fun responded => ?_).mono (by simp)
  split
  · trivial
  · exact within_self_bind fun w => trivial

/-- Both submissions and the wait for a lender. -/
theorem takes_submission (loanApplicationId : String) (matchedLenders : Json) :
    Takes pickup (do
      let submitResult ← submitToLenders loanApplicationId matchedLenders
      immediateOffer submitResult matchedLenders
      awaitLenderDecision matchedLenders) (1266 + 6 * pickup + 24 * 3600) := by
  unfold submitToLenders
  refine (within_execute_bind_bind (e := 363 + 3 * pickup + 24 * 3600) fun submitResult hr => ?_).mono
    (by simp only [cost_eq, Activity.slowest]; omega)
  refine (within_execute_bind_bind (e := 24 * 3600) fun _ _ => ?_).mono
    (by simp only [cost_eq, Activity.slowest]; omega)
  change Takes pickup (immediateOffer submitResult matchedLenders >>= fun _ =>
    awaitLenderDecision matchedLenders) (24 * 3600)
  refine (within_bind (d := 0) ?_ fun _ => takes_awaitLenderDecision matchedLenders).mono (by simp)
  unfold immediateOffer
  obtain ⟨offerReceived, hreceived⟩ := hr.get "offer_received" .null
  refine within_ofExcept_bind hreceived ?_
  split
  · obtain ⟨offer, hoffer⟩ := hr.subscript "offer" (.head _)
    exact within_ofExcept_bind hoffer trivial
  · trivial

/-- The saga: five gates, the data fetch, the longest hold and the submission. -/
theorem takes_runMethod (input : WorkflowInput) :
    Takes pickup (runMethod input) (348022 + 23 * pickup) := by
  unfold runMethod
  refine (within_bind (takes_dpdpConsentGate _ _) fun _ =>
    within_bind (takes_decisionGate _ _ _ _ _) fun _ =>
    within_bind (takes_aaDataFetch _ _ _) fun _ =>
    within_bind (takes_decisionGate _ _ _ _ _) fun _ =>
    within_bind (takes_d2DerivedAttributes _) fun _ =>
    within_bind (takes_d3LenderPrescreen _) fun matchedLenders =>
    within_bind takes_opsHoldCheck fun _ => takes_submission _ matchedLenders).mono ?_
  omega

end Sections

/-! ## Gates without a context -/

/-- A gate without a context has one result. -/
def Unevaluated (a : Activity) (r : Json) : Prop :=
  Shaped a r ∧ ∀ i, a = .evaluateDecision i → i.context = none → r = Activities.noRulesetOrContext i

theorem unevaluated_of_returns (process : WorkerProcess) (a : Activity) (r : Json)
    (h : (Activity.code process a).Returns r) : Unevaluated a r := by
  refine ⟨shaped_of_returns process a r h, ?_⟩
  rintro i rfl hcontext
  simp only [Activity.code, Activities.evaluateDecision, hcontext, Option.getD_none, List.isEmpty_nil,
    Bool.not_true, Bool.false_and, Bool.false_eq_true, if_false] at h
  exact returns_pure.mp h

/-- Without a context D3 matches no lender, and what comes after it does not happen. -/
theorem within_d3LenderPrescreen_bind {pickup : Nat} (loanApplicationId : String)
    (f : Json → Workflow RunResult) :
    (d3LenderPrescreen loanApplicationId >>= f).Within Unevaluated (cost pickup) (183 + 3 * pickup) := by
  unfold d3LenderPrescreen
  refine (within_execute_bind_bind (e := 0) fun r hr => ?_).mono (by simp [cost_eq, Activity.slowest])
  obtain rfl := hr.2 _ rfl rfl
  trivial

/-- The saga as its gates are scheduled: what comes after D3 takes no time. -/
theorem within_runMethod (input : WorkflowInput) (pickup : Nat) :
    (runMethod input).Within Unevaluated (cost pickup) (1156 + 17 * pickup) := by
  have hshaped : ∀ a r, Unevaluated a r → Shaped a r := fun _ _ h => h.1
  unfold runMethod
  refine (within_bind ((takes_dpdpConsentGate _ _).imp hshaped) fun _ =>
    within_bind ((takes_decisionGate _ _ _ _ _).imp hshaped) fun _ =>
    within_bind ((takes_aaDataFetch _ _ _).imp hshaped) fun _ =>
    within_bind ((takes_decisionGate _ _ _ _ _).imp hshaped) fun _ =>
    within_bind ((takes_d2DerivedAttributes _).imp hshaped) fun _ =>
    within_d3LenderPrescreen_bind _ _).mono ?_
  omega

/-! ## Runs -/

/-- The saga with whatever activities, under their timeouts and retry policies. -/
def saga {W E : Type} {C : Type} {Y : C → Type} (input : WorkflowInput)
    (code : W → Activity → Proc C Y Json) (answers : E → (c : C) → Except String (Y c) → Bool) :
    Deployment LoanOriginationWorkflow Activity Json Signal RunResult W E C Y where
  handlers := handlers
  program := runMethod input
  code
  retryPolicy := Activity.retryPolicy
  answers

theorem maximumAttempts_pos (a : Activity) : 0 < a.retryPolicy.maximumAttempts := by
  cases a <;> exact Nat.succ_pos _

/-- **Every origination is over in time**, whatever its activities, workers and signals do: within 96
hours, 40 minutes and 22 seconds, and what the workers take to pick up 23 attempts, if the activities
return what the saga expects; and within 19 minutes and 16 seconds and 17 such delays with the
activities that it has, whose D3 is given no context. Nor does it ever get stuck. -/
theorem origination_over (input : WorkflowInput) (pickup : Nat) (early : List Signal) :
    (∀ (W E : Type) (C : Type) (Y : C → Type) (code : W → Activity → Proc C Y Json)
      (answers : E → (c : C) → Except String (Y c) → Bool),
      (∀ w a r, (code w a).Returns r → Shaped a r) → ∀ env happenings,
      (Timed.start (saga input code answers) early env).punctual (saga input code answers)
        Activity.timing pickup happenings = true →
      (Timed.run (saga input code answers) early env happenings).InTime Activity.timing pickup
        (348022 + 23 * pickup)) ∧
    ∀ ledger happenings, (Timed.start (origination input) early ledger).punctual (origination input)
        Activity.timing pickup happenings = true →
      (Timed.run (origination input) early ledger happenings).InTime Activity.timing pickup
        (1156 + 17 * pickup) := by
  constructor
  · intro W E C Y code answers hshaped env happenings hpunctual
    have hprogram : (saga input code answers).program.Within Shaped
        (activityCost (saga input code answers) Activity.timing pickup) (348022 + 23 * pickup) :=
      takes_runMethod input
    exact (Timed.sound_run maximumAttempts_pos hshaped hprogram hpunctual).inTime
  · intro ledger happenings hpunctual
    have hprogram : (origination input).program.Within Unevaluated
        (activityCost (origination input) Activity.timing pickup) (1156 + 17 * pickup) :=
      within_runMethod input pickup
    exact (Timed.sound_run maximumAttempts_pos unevaluated_of_returns hprogram hpunctual).inTime

/-! The slowest runs: all attempts but an activity's last one are lost at their timeouts, and the last
one returns then. -/

/-- The attempts of an activity from `time` on, the last of which does `finish`. -/
def slowAttempts {W E : Type} {C : Type} {Y : C → Type} (T : Timing) (pickup : Nat) (w : W)
    (finish : List (Happening Signal W E C Y)) (time used : Nat) :
    Nat → List (Nat × Happening Signal W E C Y)
  | 0 => []
  | n + 1 =>
    let started := time + T.backoff used + pickup
    let ended := started + T.attempt
    (started, .attemptStarted w) ::
      if n = 0 then finish.map fun e => (ended, e)
      else (ended, .attemptLost) :: slowAttempts T pickup w finish ended (used + 1) n

/-- An activity of the saga that makes `calls` calls, on the sample worker. -/
def slowActivity (a : Activity) (calls time : Nat) : List (Nat × OriginationHappening) :=
  slowAttempts a.timing 5 sampleWorker (List.replicate calls (.answered sandbox) ++ [.attemptLeft]) time 0
    a.retryPolicy.maximumAttempts

/-- Gate after gate, up to the rejection at D3. -/
def slowGates : List (Nat × OriginationHappening) :=
  slowActivity (.checkDpdpConsent ⟨"", "", []⟩) 2 0 ++ slowActivity (.evaluateDecision ⟨"", "", "", none⟩) 0 198 ++
  slowActivity (.fetchAaData { loanApplicationId := "" }) 6 396 ++
  [647, 845, 1043].flatMap fun time => slowActivity (.evaluateDecision ⟨"", "", "", none⟩) 0 time

/-- Activities that pass every gate, match a lender and get no offer. -/
def passing (_ : Unit) (_ : Activity) : Proc Empty (fun _ => Unit) Json :=
  .done (.obj [("allowed", .bool true), ("outcome", .str "pass"), ("data_received", .bool true),
    ("matched_lender_ids", .arr [.str "lender-1"]), ("offer_received", .bool false), ("offer", .null)])

def passingSaga : Deployment LoanOriginationWorkflow Activity Json Signal RunResult Unit Unit Empty
    fun _ => Unit :=
  saga (.structured sampleInput) passing fun _ _ _ => true

def slowPassing (a : Activity) (time : Nat) : List (Nat × Happening Signal Unit Unit Empty fun _ => Unit) :=
  slowAttempts a.timing 5 () [.attemptLeft] time 0 a.retryPolicy.maximumAttempts

/-- It is on hold from the start, and is released when the hold would expire. -/
def slowSubmission : List (Nat × Happening Signal Unit Unit Empty fun _ => Unit) :=
  slowPassing (.checkDpdpConsent ⟨"", "", []⟩) 0 ++ slowPassing (.evaluateDecision ⟨"", "", "", none⟩) 198 ++
  slowPassing (.fetchAaData { loanApplicationId := "" }) 396 ++
  ([647, 845, 1043].flatMap fun time => slowPassing (.evaluateDecision ⟨"", "", "", none⟩) time) ++
  [(260441, .signals [.opsHoldReleased])] ++ slowPassing (.submitToLender ⟨"", .null⟩) 260441 ++
  slowPassing (.submitOcenLoanRequest { loanApplicationId := "" }) 261359

theorem shaped_passing (w : Unit) (a : Activity) (r : Json) (h : (passing w a).Returns r) : Shaped a r := by
  obtain rfl := returns_pure.mp h
  refine ⟨_, rfl, ?_⟩
  cases a <;> simp [Activity.keys]

/-- Both bounds are reached: a run of the saga's own activities ends at its bound, and one that waits
for its lender still does so at its own. -/
theorem origination_over_latest :
    (Timed.run (origination (.structured sampleInput)) [] (fun _ _ => true) slowGates).InTime
      Activity.timing 5 (1156 + 17 * 5) ∧
    (Timed.run (origination (.structured sampleInput)) [] (fun _ _ => true) slowGates).since =
      1156 + 17 * 5 ∧
    (Timed.run passingSaga [.opsHoldRequested "review"] () slowSubmission).InTime Activity.timing 5
      (348022 + 23 * 5) ∧
    (Timed.run passingSaga [.opsHoldRequested "review"] () slowSubmission).admits Activity.timing 5
      (348022 + 23 * 5) = true ∧
    (Timed.run passingSaga [.opsHoldRequested "review"] () slowSubmission).admits Activity.timing 5
      (348022 + 23 * 5 + 1) = false := by
  obtain ⟨hsaga, hown⟩ := origination_over (.structured sampleInput) 5 [.opsHoldRequested "review"]
  obtain ⟨-, hown⟩ := origination_over (.structured sampleInput) 5 []
  refine ⟨hown (fun _ _ => true) slowGates ?_, ?_, ?_, ?_, ?_⟩
  · decide +kernel
  · decide +kernel
  · exact hsaga Unit Unit Empty (fun _ => Unit) passing (fun _ _ _ => true) shaped_passing () slowSubmission
      (by decide +kernel)
  · decide +kernel
  · decide +kernel

end OcenPlatform.Origination
