import OcenPlatform.Common.RateLimit
import OcenPlatform.Db.Models
import OcenPlatform.Rights.Fulfillment

/-! `dpdp_api`: requests for a right, and how they are found again. A request is kept nowhere but
as a workflow whose id is made of the right and the request's id. -/

namespace OcenPlatform.Rights

open Common (HTTPException)
open Db (Time)

/-! ## The endpoints -/

structure DSRSubmitRequest where
  dataPrincipalId : String
  rightType : String

structure DSRSubmitResponse where
  requestId : String
  status : String
  slaDeadline : Time
  workflowId : String

structure DSRStatusResponse where
  requestId : String
  status : String
  rightType : String
  slaDeadline : Time
  completedAt : Option Time := none
  deriving DecidableEq

/-- In the order in which `get_dsr_status` tries them. -/
def rightTypes : List String := ["access", "erasure", "correction", "grievance", "nomination"]

def workflowId (rightType requestId : String) : String := "dsr-" ++ rightType ++ "-" ++ requestId

/-- `timedelta(hours=72)`. -/
def sla : Time := 72 * 3600000000

/-- A run of `DSRFulfillmentWorkflow`. -/
structure Execution where
  id : String
  input : DSRInput
  taskQueue : String
  status : Option String := some "RUNNING"

/-- What becomes of the call that starts a run. -/
inductive StartOutcome where
  | refused
  | started
  | replyLost
  deriving DecidableEq

def executionOf (taskQueue : String) (body : DSRSubmitRequest) (uuid4 : Uuid) : Execution where
  id := workflowId body.rightType uuid4.str
  input := ⟨uuid4.str, body.dataPrincipalId, body.rightType⟩
  taskQueue := taskQueue

/-- The executions, and the answer. -/
def submitDsr (taskQueue : String) (executions : List Execution) (body : DSRSubmitRequest)
    (uuid4 : Uuid) (now : Time) (start : StartOutcome) :
    List Execution × Except HTTPException DSRSubmitResponse :=
  if body.rightType ∉ rightTypes then
    (executions, .error {
      statusCode := 400
      detail := "Invalid right_type. Must be one of: access, correction, erasure, grievance, nomination" })
  else
    let execution := executionOf taskQueue body uuid4
    let failed : HTTPException := { statusCode := 500, detail := "Failed to start DSR workflow" }
    let response : DSRSubmitResponse := {
      requestId := uuid4.str
      status := "submitted"
      slaDeadline := now + sla
      workflowId := execution.id }
    match start with
    | .refused => (executions, .error failed)
    | .started => (executions ++ [execution], .ok response)
    | .replyLost => (executions ++ [execution], .error failed)

/-- Temporal as a call of `get_dsr_status` finds it: whether there is a client or it can connect,
and for each right the runs at the time of its `describe`, unless the call fails. -/
structure Temporal where
  connected : Bool
  executions : String → Option (List Execution)

/-- `handle.describe()`, which also raises if there is no such run; of two it takes the latest. -/
def Temporal.describe (temporal : Temporal) (rightType requestId : String) : Option Execution := do
  let executions ← temporal.executions rightType
  executions.reverse.find? fun e => e.id = workflowId rightType requestId

/-- The loop over the rights, until a run is found. Whatever `describe` raises, it goes on. -/
def findRight (temporal : Temporal) (requestId : String) (now : Time) :
    List String → Option DSRStatusResponse
  | [] => none
  | rightType :: rest =>
    match temporal.describe rightType requestId with
    | some e => some {
        requestId
        status := e.status.getD "running"
        rightType
        slaDeadline := now + sla }
    | none => findRight temporal requestId now rest

/-- A client that cannot connect is caught by the outer `try`, so that nothing is found. -/
def getDsrStatus (temporal : Temporal) (requestId : String) (now : Time) :
    Except HTTPException DSRStatusResponse :=
  let found := if temporal.connected then findRight temporal requestId now rightTypes else none
  match found with
  | some response => .ok response
  | none => .error {
      statusCode := 404
      detail := "DSR request " ++ requestId ++ " not found" }

/-! ## Runs -/

inductive RightsEvent where
  | submit (body : DSRSubmitRequest) (uuid4 : Uuid) (now : Time) (start : StartOutcome)
  | closed (id status : String)

/-- The uuid that the event draws. -/
def RightsEvent.uuid4? : RightsEvent → Option Uuid
  | .submit _ uuid4 _ _ => some uuid4
  | .closed _ _ => none

def step (taskQueue : String) (executions : List Execution) : RightsEvent → List Execution
  | .submit body uuid4 now start => (submitDsr taskQueue executions body uuid4 now start).1
  | .closed id status => executions.map fun e => if e.id = id then { e with status := some status } else e

def executionsOf (taskQueue : String) (events : List RightsEvent) : List Execution :=
  events.foldl (step taskQueue) []

/-- A submission of a right that there is, whose start gets to Temporal. -/
def Submits (body : DSRSubmitRequest) (uuid4 : Uuid) : RightsEvent → Prop
  | .submit body' uuid4' _ start => body' = body ∧ uuid4' = uuid4 ∧ body.rightType ∈ rightTypes ∧
      start ≠ .refused
  | .closed _ _ => False

theorem Submits.rightType_mem {body : DSRSubmitRequest} {uuid4 : Uuid} {event : RightsEvent}
    (h : Submits body uuid4 event) : body.rightType ∈ rightTypes := by
  cases event with
  | submit body' uuid4' now start => exact h.2.2.1
  | closed id status => cases h

/-! ## Workflow ids -/

/-- No right has a hyphen, so that the first one after the prefix ends it, whatever is asked for. -/
theorem workflowId_inj {rightType rightType' requestId requestId' : String}
    (hright : rightType ∈ rightTypes) (hright' : rightType' ∈ rightTypes) :
    workflowId rightType requestId = workflowId rightType' requestId' ↔
      rightType = rightType' ∧ requestId = requestId' := by
  have hall : (rightTypes.all fun r => r.toList.all (· ≠ '-')) = true := by decide
  have hhyphen : ∀ r ∈ rightTypes, ∀ c ∈ r.toList, (c ≠ '-' : Bool) = true := fun r hr =>
    List.all_eq_true.mp (List.all_eq_true.mp hall r hr)
  constructor
  · intro h
    have hchars := congrArg String.toList h
    simp only [workflowId, String.toList_append, List.append_assoc, List.append_cancel_left_eq] at hchars
    have hsplit : ∀ r ∈ rightTypes, ∀ rest, (r.toList ++ ("-".toList ++ rest)).takeWhile (· ≠ '-') =
        r.toList := by
      intro r hr rest
      rw [List.takeWhile_append_of_pos (hhyphen r hr)]
      simp
    have hsame : rightType.toList = rightType'.toList := by
      rw [← hsplit rightType hright requestId.toList, hchars, hsplit rightType' hright']
    rw [hsame, List.append_cancel_left_eq, List.append_cancel_left_eq, String.toList_inj] at hchars
    exact ⟨String.toList_inj.mp hsame, hchars⟩
  · rintro ⟨rfl, rfl⟩
    rfl

/-! ## The loop -/

section Loop

variable {temporal : Temporal} {requestId rightType : String} {now : Time} {rights : List String}
  {response : DSRStatusResponse}

theorem describe_some {e : Execution} (h : temporal.describe rightType requestId = some e) :
    ∃ executions, temporal.executions rightType = some executions ∧ e ∈ executions ∧
      e.id = workflowId rightType requestId := by
  obtain ⟨executions, hexecutions, hfind⟩ := Option.bind_eq_some_iff.mp h
  refine ⟨executions, hexecutions, ?_, by simpa using List.find?_some hfind⟩
  exact List.mem_reverse.mp (List.mem_of_find?_eq_some hfind)

theorem describe_isSome {executions : List Execution}
    (hexecutions : temporal.executions rightType = some executions)
    (h : ∃ e ∈ executions, e.id = workflowId rightType requestId) :
    (temporal.describe rightType requestId).isSome = true := by
  simpa [Temporal.describe, hexecutions] using h

/-- What the loop answers with. -/
theorem findRight_some (h : findRight temporal requestId now rights = some response) :
    response.rightType ∈ rights ∧ response.slaDeadline = now + sla ∧ response.completedAt = none ∧
      ∃ e, temporal.describe response.rightType requestId = some e ∧
        response.status = e.status.getD "running" := by
  induction rights with
  | nil => cases h
  | cons rightType rest ih =>
    unfold findRight at h
    split at h
    · rename_i e he
      obtain rfl := Option.some.inj h
      exact ⟨.head _, rfl, rfl, e, he, rfl⟩
    · obtain ⟨hmem, hfound⟩ := ih h
      exact ⟨.tail _ hmem, hfound⟩

theorem exists_findRight (hright : rightType ∈ rights)
    (h : (temporal.describe rightType requestId).isSome = true) :
    ∃ response, findRight temporal requestId now rights = some response := by
  induction rights with
  | nil => cases hright
  | cons first rest ih =>
    unfold findRight
    split
    · exact ⟨_, rfl⟩
    · rename_i hnone
      refine ih ((List.mem_cons.mp hright).resolve_left ?_)
      rintro rfl
      rw [hnone] at h
      cases h

theorem getDsrStatus_ok_iff : getDsrStatus temporal requestId now = .ok response ↔
    temporal.connected = true ∧ findRight temporal requestId now rightTypes = some response := by
  unfold getDsrStatus
  cases temporal.connected with
  | false => simp
  | true => cases findRight temporal requestId now rightTypes <;> simp

/-- A poll that finds nothing, for whatever reason, is a 404. -/
theorem getDsrStatus_error {e : HTTPException} (h : getDsrStatus temporal requestId now = .error e) :
    e = { statusCode := 404, detail := "DSR request " ++ requestId ++ " not found" } := by
  simp only [getDsrStatus] at h
  split at h
  · cases h
  · exact (Except.error.inj h).symm

end Loop

/-! ## Requests are found again -/

/-- The submission is one of the events. -/
def Submitted (events : List RightsEvent) (body : DSRSubmitRequest) (uuid4 : Uuid) : Prop :=
  ∃ event ∈ events, Submits body uuid4 event

/-- The runs are those of the submissions. -/
theorem exists_execution_iff (taskQueue : String) (events : List RightsEvent) (id : String) :
    (∃ e ∈ executionsOf taskQueue events, e.id = id) ↔
      ∃ body uuid4, Submitted events body uuid4 ∧ workflowId body.rightType uuid4.str = id := by
  unfold executionsOf Submitted
  induction events using List.reverseRecOn with
  | nil => simp
  | append_singleton events event ih =>
    simp only [List.foldl_append, List.foldl_cons, List.foldl_nil, List.mem_append,
      List.mem_singleton, or_and_right, exists_or, exists_eq_left]
    rw [← ih]
    cases event with
    | closed id' status =>
      simp only [step, Submits, false_and, exists_false, or_false, List.mem_map]
      constructor
      · rintro ⟨_, ⟨e, he, rfl⟩, hid⟩
        refine ⟨e, he, ?_⟩
        split at hid <;> exact hid
      · rintro ⟨e, he, hid⟩
        refine ⟨_, ⟨e, he, rfl⟩, ?_⟩
        split <;> exact hid
    | submit body uuid4 now start =>
      simp only [step, submitDsr, Submits]
      split
      · rename_i hright
        simp [hright]
      · rename_i hright
        rw [not_not] at hright
        cases start <;> simp [executionOf, hright]

theorem Submitted.mono {before events : List RightsEvent} {body : DSRSubmitRequest} {uuid4 : Uuid}
    (hbefore : before <+: events) (h : Submitted before body uuid4) : Submitted events body uuid4 := by
  obtain ⟨event, hmem, hsubmits⟩ := h
  exact ⟨event, hbefore.subset hmem, hsubmits⟩

/-- A uuid is drawn once. -/
theorem submitted_unique {events : List RightsEvent}
    (hfresh : (events.filterMap RightsEvent.uuid4?).Nodup) {body body' : DSRSubmitRequest}
    {uuid4 : Uuid} (h : Submitted events body uuid4) (h' : Submitted events body' uuid4) :
    body = body' := by
  obtain ⟨event, hmem, hsubmits⟩ := h
  obtain ⟨event', hmem', hsubmits'⟩ := h'
  have huuid : ∀ {body event}, Submits body uuid4 event → event.uuid4? = some uuid4 := by
    intro body event hsubmits
    cases event with
    | submit body' uuid4' now start => exact congrArg some hsubmits.2.1
    | closed id status => cases hsubmits
  have hfound := (Db.find?_unique_key hfresh).mpr ⟨hmem, huuid hsubmits⟩
  have hfound' := (Db.find?_unique_key hfresh).mpr ⟨hmem', huuid hsubmits'⟩
  obtain rfl : event = event' := Option.some.inj (hfound.symm.trans hfound')
  cases event with
  | submit body'' uuid4' now start => exact hsubmits.1.symm.trans hsubmits'.1
  | closed id status => cases hsubmits

/-- What `describe` finds is the run of a submission. -/
theorem submitted_of_describe {taskQueue rightType requestId : String} {connected : Bool}
    {seen : String → Option (List RightsEvent)} {e : Execution} (hright : rightType ∈ rightTypes)
    (h : Temporal.describe ⟨connected, fun rightType => (seen rightType).map (executionsOf taskQueue)⟩
      rightType requestId = some e) :
    ∃ before body uuid4, seen rightType = some before ∧ Submitted before body uuid4 ∧
      uuid4.str = requestId ∧ body.rightType = rightType := by
  obtain ⟨executions, hexecutions, hmem, hid⟩ := describe_some h
  obtain ⟨before, hbefore, rfl⟩ := Option.map_eq_some_iff.mp hexecutions
  obtain ⟨body, uuid4, hsubmitted, hsame⟩ :=
    (exists_execution_iff taskQueue before _).mp ⟨e, hmem, hid⟩
  obtain ⟨event, -, hsubmits⟩ := id hsubmitted
  obtain ⟨hrightType, huuid⟩ := (workflowId_inj hsubmits.rightType_mem hright).mp hsame
  exact ⟨before, body, uuid4, hbefore, hsubmitted, huuid, hrightType⟩

/-- **A request is found exactly if its start has got to Temporal** by the time that the loop asks
for its right, and Temporal answers: also when the submission was answered with an error. The
status is the run's, and the deadline is never nearer than three days. -/
theorem found_iff_submitted (taskQueue : String) (events : List RightsEvent) (connected : Bool)
    (seen : String → Option (List RightsEvent)) (requestId : String) (now : Time)
    (hfresh : (events.filterMap RightsEvent.uuid4?).Nodup)
    (hseen : ∀ rightType before, seen rightType = some before → before <+: events) :
    let temporal : Temporal := ⟨connected, fun rightType => (seen rightType).map (executionsOf taskQueue)⟩
    (∀ rightType, (∃ response, getDsrStatus temporal requestId now = .ok response ∧
        response.rightType = rightType) ↔
      connected = true ∧ ∃ before body uuid4, seen rightType = some before ∧
        Submitted before body uuid4 ∧ uuid4.str = requestId ∧ body.rightType = rightType) ∧
    (∀ response, getDsrStatus temporal requestId now = .ok response →
      response.slaDeadline = now + sla ∧ response.completedAt = none ∧
      ∃ before e, seen response.rightType = some before ∧ e ∈ executionsOf taskQueue before ∧
        e.id = workflowId response.rightType requestId ∧ response.status = e.status.getD "running") ∧
    ∀ e, getDsrStatus temporal requestId now = .error e →
      e = { statusCode := 404, detail := "DSR request " ++ requestId ++ " not found" } := by
  intro temporal
  refine ⟨fun rightType => ⟨?_, ?_⟩, fun response h => ?_, fun e => getDsrStatus_error⟩
  · rintro ⟨response, hresponse, rfl⟩
    obtain ⟨hconnected, hfound⟩ := getDsrStatus_ok_iff.mp hresponse
    obtain ⟨hright, -, -, e, he, -⟩ := findRight_some hfound
    exact ⟨hconnected, submitted_of_describe hright he⟩
  · rintro ⟨hconnected, before, body, uuid4, hbefore, hsubmitted, rfl, rfl⟩
    obtain ⟨event, -, hsubmits⟩ := id hsubmitted
    have hexecutions : temporal.executions body.rightType = some (executionsOf taskQueue before) :=
      Option.map_eq_some_iff.mpr ⟨before, hbefore, rfl⟩
    have hdescribed := describe_isSome hexecutions
      ((exists_execution_iff taskQueue before _).mpr ⟨body, uuid4, hsubmitted, rfl⟩)
    obtain ⟨response, hfound⟩ := exists_findRight hsubmits.rightType_mem hdescribed
    -- A run of the same id under another right would be that of a submission with the same uuid.
    obtain ⟨hright', -, -, e, he, -⟩ := findRight_some hfound
    obtain ⟨before', body', uuid4', hbefore', hsubmitted', huuid, hsame⟩ :=
      submitted_of_describe hright' he
    obtain rfl := Uuid.str_inj.mp huuid
    obtain rfl := submitted_unique hfresh (hsubmitted.mono (hseen _ _ hbefore))
      (hsubmitted'.mono (hseen _ _ hbefore'))
    exact ⟨response, getDsrStatus_ok_iff.mpr ⟨hconnected, hfound⟩, hsame.symm⟩
  · obtain ⟨-, hfound⟩ := getDsrStatus_ok_iff.mp h
    obtain ⟨-, hdeadline, hcompleted, e, he, hstatus⟩ := findRight_some hfound
    obtain ⟨executions, hexecutions, hmem, hid⟩ := describe_some he
    obtain ⟨before, hbefore, rfl⟩ := Option.map_eq_some_iff.mp hexecutions
    exact ⟨hdeadline, hcompleted, before, e, hbefore, hmem, hid, hstatus⟩

/-- The first start was answered with an error after it had got to Temporal. -/
def sampleEvents : List RightsEvent :=
  [.submit ⟨"29ABCDE1234F1Z5", "erasure"⟩ ⟨1⟩ 0 .replyLost,
    .submit ⟨"29ABCDE1234F1Z5", "access"⟩ ⟨2⟩ 0 .refused]

/-- The call that asks for the first right fails. -/
def sampleSeen (rightType : String) : Option (List RightsEvent) :=
  if rightType = "access" then none else some sampleEvents

theorem found_iff_submitted_sample : ∃ response,
    getDsrStatus ⟨true, fun rightType => (sampleSeen rightType).map (executionsOf "loan-origination")⟩
      (Uuid.str ⟨1⟩) 5 = .ok response ∧ response.rightType = "erasure" := by
  have hseen : ∀ rightType before, sampleSeen rightType = some before → before <+: sampleEvents := by
    intro rightType before hbefore
    unfold sampleSeen at hbefore
    split at hbefore
    · cases hbefore
    · obtain rfl := Option.some.inj hbefore
      exact List.prefix_refl _
  exact ((found_iff_submitted "loan-origination" sampleEvents true sampleSeen (Uuid.str ⟨1⟩) 5
    (by decide) hseen).1 "erasure").mpr
      ⟨rfl, sampleEvents, _, ⟨1⟩, rfl, ⟨_, .head _, rfl, rfl, by decide, by decide⟩, rfl, rfl⟩

end OcenPlatform.Rights
