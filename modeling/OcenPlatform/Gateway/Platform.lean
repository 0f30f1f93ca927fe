import Mathlib.Data.List.Perm.Subperm
import OcenPlatform.Durable.HostNamespace
import OcenPlatform.Gateway.Routing
import OcenPlatform.Gateway.Backends
import OcenPlatform.Origination.Deadlines
import OcenPlatform.Origination.Decision
import OcenPlatform.Origination.LenderResponse
import OcenPlatform.Origination.OpsHold

/-! The gateway and the workflows that it starts, as one system: requests whose calls to
Temporal are on their way, the namespace with all runs of the saga, their workers, and the one
environment that they share. -/

namespace OcenPlatform.Gateway

open Durable
open Origination (Activity LoanOriginationInput LoanOriginationWorkflow RunResult Signal saga)

/-! ## Ops commands -/

structure OpsHoldRequest where
  applicationId : Uuid
  reason : String
  heldBy : String
  length : 3 ≤ reason.length ∧ reason.length ≤ 500 := by decide

structure OpsReleaseRequest where
  applicationId : Uuid
  releasedBy : String

structure OpsCommandResponse where
  success : Bool
  applicationId : Uuid
  action : String
  message : String
  timestamp : String

inductive OpsCommand where
  | hold (request : OpsHoldRequest)
  | release (request : OpsReleaseRequest)

namespace OpsCommand

def applicationId : OpsCommand → Uuid
  | .hold request => request.applicationId
  | .release request => request.applicationId

def call : OpsCommand → SignalCall
  | .hold request => opsHold request.applicationId request.reason
  | .release request => opsRelease request.applicationId

def response (now : String) : OpsCommand → OpsCommandResponse
  | .hold request =>
    { success := true
      applicationId := request.applicationId
      action := "hold"
      message := "Application held. Reason: " ++ request.reason
      timestamp := now }
  | .release request =>
    { success := true
      applicationId := request.applicationId
      action := "release"
      message := "Application released from hold."
      timestamp := now }

/-- The `HTTPException` of a command that could not be sent. -/
def failure (error : String) : OpsCommand → String
  | .hold _ => "422: Cannot hold application: " ++ error
  | .release _ => "422: Cannot release application: " ++ error

theorem call_workflowId (command : OpsCommand) :
    command.call.workflowId = workflowId command.applicationId := by
  cases command <;> rfl

end OpsCommand

/-! ## Requests on their way -/

/-- A request whose calls to Temporal are still to be made, in this order, or an ops command whose
call has been made and whose handler has not gone on yet. -/
inductive InFlight where
  | apply (start : StartCall)
  | ops (command : OpsCommand)
  | sent (command : OpsCommand) (accepted : Bool)
  | callback (signals : List SignalCall)

/-- What a handler takes from outside as it answers: the text of an exception, and the clock. -/
structure Reply where
  error : String := ""
  now : String := ""

namespace InFlight

variable {S A R O W E : Type} {C : Type} {Y : C → Type}

/-- The next call, as Temporal gets it. -/
def turn : InFlight → Option (Turn String LoanOriginationInput Signal W E C Y)
  | .apply start => start.id.map fun id => .start id start.input
  | .ops command => some (.signal command.call.workflowId command.call.signal)
  | .sent _ _ => none
  | .callback signals => signals.head?.map fun call => .signal call.workflowId call.signal

/-- What is left after it. A failure does not end the loop over the batch. -/
def rest (accepted : Bool) : InFlight → List InFlight
  | .apply _ => []
  | .ops command => [.sent command accepted]
  | .sent command accepted => [.sent command accepted]
  | .callback (_ :: call :: calls) => [.callback (call :: calls)]
  | .callback _ => []

/-- A command's signal can be taken: an open run has the id that it is sent to. -/
def welcome (runs : List (Hosted String LoanOriginationInput S A R Signal O W E C Y)) :
    InFlight → Bool
  | .ops command => Host.hasOpen command.call.workflowId runs
  | _ => false

end InFlight

/-! ## The platform -/

structure PlatformState (W E : Type) (C : Type) (Y : C → Type) where
  service : BorrowerGatewayService := {}
  inFlight : List InFlight := []
  answers : List (OpsCommand × Except String OpsCommandResponse) := []
  host : Host String LoanOriginationInput LoanOriginationWorkflow Activity Json Signal RunResult W E C Y

inductive PlatformEvent (W E : Type) (C : Type) (Y : C → Type) where
  | apply (request : LoanApplicationRequest) (env : Ambient)
  | ops (command : OpsCommand)
  /-- A callback that has passed the check of its signature. -/
  | callback (response : CreateLoanApplicationResponse)
  /-- The next call of this request gets to Temporal, or is lost on its way. -/
  | called (i : Nat) (reached : Bool)
  /-- The handler of this command goes on, with or without Temporal's answer. -/
  | resumed (i : Nat) (answered : Bool) (reply : Reply)
  | activated (i : Nat)
  | happened (i : Nat) (e : Happening Signal W E C Y)
  | envChanged (env : E)

section Platform

variable {W E : Type} {C : Type} {Y : C → Type} (taskQueue : String)
  (code : W → Activity → Proc C Y Json) (answers : E → (c : C) → Except String (Y c) → Bool)

/-- The saga that a run executes. -/
abbrev sagaOf (input : LoanOriginationInput) :
    Deployment LoanOriginationWorkflow Activity Json Signal RunResult W E C Y :=
  saga (.structured input) code answers

namespace PlatformState

/-- The namespace after the next call of a request, if it gets there. -/
def after (s : PlatformState W E C Y) (request : InFlight) (reached : Bool) :
    Host String LoanOriginationInput LoanOriginationWorkflow Activity Json Signal RunResult W E C Y :=
  if reached then request.turn.elim s.host (s.host.step (sagaOf code answers)) else s.host

def call (s : PlatformState W E C Y) (i : Nat) (reached : Bool) : PlatformState W E C Y :=
  match s.inFlight[i]? with
  | none => s
  | some request =>
    { s with
      inFlight := s.inFlight.take i ++ request.rest (reached && request.welcome s.host.runs) ++
        s.inFlight.drop (i + 1)
      host := s.after code answers request reached }

def resume (s : PlatformState W E C Y) (i : Nat) (answered : Bool) (reply : Reply) :
    PlatformState W E C Y :=
  match s.inFlight[i]? with
  | some (.sent command accepted) =>
    { s with
      inFlight := s.inFlight.take i ++ s.inFlight.drop (i + 1)
      answers := s.answers ++ [(command,
        if accepted && answered then .ok (command.response reply.now)
        else .error (command.failure reply.error))] }
  | _ => s

def step (s : PlatformState W E C Y) : PlatformEvent W E C Y → PlatformState W E C Y
  | .apply request env =>
    match applyForLoan taskQueue s.service request env .accepted with
    | .error _ => s
    | .ok (_, service, start) =>
      { s with service, inFlight := s.inFlight ++ start.toList.map .apply }
  | .ops command => { s with inFlight := s.inFlight ++ [.ops command] }
  | .callback response =>
    { s with
      inFlight := s.inFlight ++ [.callback (response.loanApplications.map (lenderSignal response))] }
  | .called i reached => s.call code answers i reached
  | .resumed i answered reply => s.resume i answered reply
  | .activated i => { s with host := s.host.step (sagaOf code answers) (.activated i) }
  | .happened i e => { s with host := s.host.step (sagaOf code answers) (.happened i e) }
  | .envChanged env => { s with host := s.host.step (sagaOf code answers) (.envChanged env) }

def run (env : E) (events : List (PlatformEvent W E C Y)) : PlatformState W E C Y :=
  events.foldl (step taskQueue code answers) { host := { env } }

/-- The signals of the commands for an application that were answered with success. -/
def succeeded (s : PlatformState W E C Y) (appId : Uuid) : List Signal :=
  (s.answers.filter fun p => p.1.applicationId = appId && p.2.isOk).map fun p => p.1.call.signal

end PlatformState

/-! ## What the service stores -/

namespace BorrowerGatewayService

variable {s s' : BorrowerGatewayService} {request : LoanApplicationRequest} {env : Ambient}
  {response : LoanApplicationResponse}

def Stored (s : BorrowerGatewayService) (appId : Uuid) : Prop :=
  ∃ app, PyDict.find? s.applications appId = some app

/-- All applications are as they were when they came in. -/
def Initiated (s : BorrowerGatewayService) : Prop :=
  ∀ p ∈ s.applications, ∃ request env, p = (env.uuid4, newApplication request env)

/-- The application of the response is stored, and so is every other that was. -/
theorem initiateApplication_stored (h : s.initiateApplication request env = .ok (response, s')) :
    s'.Stored response.applicationId ∧ ∀ appId, s.Stored appId → s'.Stored appId := by
  unfold initiateApplication at h
  split at h
  next existingId _ =>
    obtain ⟨response', hresponse, h⟩ := exists_of_bind_ok h
    obtain ⟨rfl, rfl⟩ := Prod.mk.inj (Except.ok.inj h)
    refine ⟨?_, fun _ hstored => hstored⟩
    rw [existingResponse_applicationId hresponse]
    obtain ⟨app, happ, -⟩ := exists_of_bind_ok hresponse
    cases hfind : PyDict.find? s.applications existingId with
    | none => simp [hfind] at happ
    | some app' => exact ⟨app', hfind⟩
  next =>
    obtain ⟨rfl, rfl⟩ := Prod.mk.inj (Except.ok.inj h)
    refine ⟨⟨_, PyDict.find?_set_self⟩, fun appId hstored => ?_⟩
    by_cases hid : appId = env.uuid4
    · subst hid
      exact ⟨_, PyDict.find?_set_self⟩
    · obtain ⟨app, happ⟩ := hstored
      exact ⟨app, (PyDict.find?_set_ne hid).trans happ⟩

theorem initiateApplication_initiated (hs : s.Initiated)
    (h : s.initiateApplication request env = .ok (response, s')) : s'.Initiated := by
  unfold initiateApplication at h
  split at h
  next =>
    obtain ⟨_, -, h⟩ := exists_of_bind_ok h
    obtain ⟨-, rfl⟩ := Prod.mk.inj (Except.ok.inj h)
    exact hs
  next =>
    obtain ⟨-, rfl⟩ := Prod.mk.inj (Except.ok.inj h)
    intro p hp
    rcases PyDict.mem_set hp with rfl | hp
    · exact ⟨request, env, rfl⟩
    · exact hs p hp

end BorrowerGatewayService

/-! ## The invariant -/

/-- The start is for an application of the service, under the id of its workflow. -/
def Applied (service : BorrowerGatewayService) (id : Option String)
    (input : LoanOriginationInput) : Prop :=
  ∃ appId, id = some (workflowId appId) ∧ input.loanApplicationId = appId.str ∧
    service.Stored appId

theorem Applied.mono {service service' : BorrowerGatewayService} {id : Option String}
    {input : LoanOriginationInput} (h : Applied service id input)
    (hmono : ∀ appId, service.Stored appId → service'.Stored appId) : Applied service' id input := by
  obtain ⟨appId, hid, hinput, hstored⟩ := h
  exact ⟨appId, hid, hinput, hmono appId hstored⟩

/-- A command as Temporal gets it. -/
def OpsCommand.sent (command : OpsCommand) : String × Signal :=
  (command.call.workflowId, command.call.signal)

/-- The command of a handler that is to go on, if its signal was accepted. -/
def InFlight.accepted? : InFlight → Option (String × Signal)
  | .sent command true => some command.sent
  | _ => none

/-- The commands that were answered with success. -/
def successes (answers : List (OpsCommand × Except String OpsCommandResponse)) :
    List (String × Signal) :=
  (answers.filter fun p => p.2.isOk).map fun p => p.1.sent

structure InFlight.Sensible (service : BorrowerGatewayService) (request : InFlight) : Prop where
  start : ∀ start, request = .apply start → Applied service start.id start.input
  callback : ∀ calls, request = .callback calls → ∀ call ∈ calls, ∃ response loanApp,
    call = lenderSignal response loanApp

structure PlatformState.Consistent (s : PlatformState W E C Y) : Prop where
  service : s.service.Named
  initiated : s.service.Initiated
  host : s.host.Sound (sagaOf code answers)
  inFlight : ∀ request ∈ s.inFlight, request.Sensible s.service
  runs : ∀ r ∈ s.host.runs, Applied s.service (some r.id) r.input
  accepted : ∀ p ∈ s.host.accepted, ∃ command : OpsCommand, p = command.sent
  answered : (successes s.answers ++ s.inFlight.filterMap InFlight.accepted?).Subperm s.host.accepted

theorem InFlight.Sensible.mono {service service' : BorrowerGatewayService} {request : InFlight}
    (h : request.Sensible service) (hmono : ∀ appId, service.Stored appId → service'.Stored appId) :
    request.Sensible service' where
  start start hstart := (h.start start hstart).mono hmono
  callback := h.callback

/-- What is left of a request is as sensible. -/
theorem InFlight.Sensible.rest {service : BorrowerGatewayService} {request request' : InFlight}
    (h : request.Sensible service) {accepted : Bool} (hrest : request' ∈ request.rest accepted) :
    request'.Sensible service := by
  cases request with
  | apply start => cases hrest
  | ops command =>
    obtain rfl := List.mem_singleton.mp hrest
    exact ⟨by simp, by simp⟩
  | sent command accepted =>
    obtain rfl := List.mem_singleton.mp hrest
    exact ⟨by simp, by simp⟩
  | callback signals =>
    have hsignals := h.callback signals rfl
    match signals, hrest with
    | _ :: call :: calls, hrest =>
      obtain rfl := List.mem_singleton.mp hrest
      refine ⟨by simp, ?_⟩
      rintro _ ⟨⟩ call' hcall'
      exact hsignals call' (.tail _ hcall')

namespace PlatformState

variable {taskQueue code answers} {s : PlatformState W E C Y}

theorem consistent_init (env : E) :
    ({ host := { env } } : PlatformState W E C Y).Consistent code answers where
  service := BorrowerGatewayService.named_empty
  initiated := by intro p hp; cases hp
  host := Host.sound_start env
  inFlight := by simp
  runs := by simp
  accepted := by simp
  answered := List.nil_subperm

/-- No run has the id that a lender's signal is sent to. -/
theorem Consistent.lender_refused (hs : s.Consistent code answers)
    (response : CreateLoanApplicationResponse) (loanApp : LoanApplication) :
    Host.hasOpen (lenderSignal response loanApp).workflowId s.host.runs = false := by
  refine List.any_eq_false.mpr fun r hr => ?_
  obtain ⟨appId, hid, -⟩ := hs.runs r hr
  have hne := lenderSignal_workflowId_ne response loanApp appId
  simp [Option.some.inj hid, hne.symm]

/-- What the namespace may be asked for: a start for an application, or a signal that is an ops
command's if it is taken. -/
def Legal (s : PlatformState W E C Y) (t : Turn String LoanOriginationInput Signal W E C Y) : Prop :=
  (∀ id input, t = .start id input → Applied s.service (some id) input) ∧
    ∀ id g, t = .signal id g → Host.hasOpen id s.host.runs = true →
      ∃ command : OpsCommand, (id, g) = command.sent

/-- **Step lemma** for the namespace alone. -/
theorem Consistent.turn (hs : s.Consistent code answers)
    {t : Turn String LoanOriginationInput Signal W E C Y} (ht : s.Legal t) :
    { s with host := s.host.step (sagaOf code answers) t }.Consistent code answers := by
  have haccepted := Host.step_accepted (sagaOf code answers) s.host t
  refine ⟨hs.service, hs.initiated, hs.host.step t, hs.inFlight, fun r hr => ?_, fun p hp => ?_, ?_⟩
  · rcases Host.mem_step hr with ⟨r₀, hr₀, hid, hinput⟩ | hstart
    · rw [← hid, ← hinput]
      exact hs.runs r₀ hr₀
    · exact ht.1 r.id r.input hstart
  · rw [haccepted] at hp
    rcases List.mem_append.mp hp with hp | hp
    · exact hs.accepted p hp
    · cases t with
      | signal id g =>
        simp only at hp
        split at hp
        next hopen =>
          obtain rfl := List.mem_singleton.mp hp
          exact ht.2 id g rfl hopen
        next => cases hp
      | _ => cases hp
  · exact hs.answered.trans (by rw [haccepted]; exact (List.sublist_append_left _ _).subperm)

theorem legal_of_idle {t : Turn String LoanOriginationInput Signal W E C Y}
    (hstart : ∀ id input, t ≠ .start id input) (hsignal : ∀ id g, t ≠ .signal id g) : s.Legal t :=
  ⟨fun id input h => absurd h (hstart id input), fun id g h => absurd h (hsignal id g)⟩

/-- The next call of a request is legal. -/
theorem Consistent.legal (hs : s.Consistent code answers) {request : InFlight}
    (hrequest : request ∈ s.inFlight) {t : Turn String LoanOriginationInput Signal W E C Y}
    (ht : request.turn = some t) : s.Legal t := by
  have hsensible := hs.inFlight request hrequest
  cases request with
  | apply start =>
    obtain ⟨id, hid, rfl⟩ := Option.map_eq_some_iff.mp ht
    refine ⟨?_, by simp⟩
    rintro _ _ ⟨⟩
    rw [← hid]
    exact hsensible.start start rfl
  | ops command =>
    obtain rfl := Option.some.inj ht
    refine ⟨by simp, ?_⟩
    rintro _ _ ⟨⟩ -
    exact ⟨command, rfl⟩
  | sent command accepted => cases ht
  | callback signals =>
    obtain ⟨call, hcall, rfl⟩ := Option.map_eq_some_iff.mp ht
    obtain ⟨response, loanApp, rfl⟩ :=
      hsensible.callback signals rfl call (List.mem_of_head? hcall)
    refine ⟨by simp, ?_⟩
    rintro _ _ ⟨⟩ hopen
    rw [hs.lender_refused response loanApp] at hopen
    cases hopen

/-- A request in its place. -/
theorem inFlight_split {l : List InFlight} {i : Nat} {request : InFlight}
    (h : l[i]? = some request) : l = l.take i ++ request :: l.drop (i + 1) := by
  obtain ⟨hi, rfl⟩ := List.getElem?_eq_some_iff.mp h
  rw [List.getElem_cons_drop, List.take_append_drop]

theorem filterMap_cons_toList {α β : Type} (f : α → Option β) (a : α) (l : List α) :
    (a :: l).filterMap f = (f a).toList ++ l.filterMap f := by
  rw [List.filterMap_cons]
  cases f a <;> rfl

/-- A command that is accepted is one that its handler will report. -/
theorem accepted_call (code : W → Activity → Proc C Y Json)
    (answers : E → (c : C) → Except String (Y c) → Bool) (s : PlatformState W E C Y)
    (request : InFlight) (reached : Bool) :
    ∃ new, (request.rest (reached && request.welcome s.host.runs)).filterMap InFlight.accepted? =
        request.accepted?.toList ++ new ∧
      (s.host.accepted ++ new).Sublist (s.after code answers request reached).accepted := by
  have hkept : s.host.accepted.Sublist (s.after code answers request reached).accepted := by
    unfold PlatformState.after
    split
    · cases request.turn with
      | none => exact .refl _
      | some t =>
        rw [Option.elim_some, Host.step_accepted]
        exact List.sublist_append_left _ _
    · exact .refl _
  cases request with
  | apply start => exact ⟨[], rfl, by simpa using hkept⟩
  | sent command accepted =>
    refine ⟨[], ?_, by simpa using hkept⟩
    cases accepted <;> rfl
  | callback signals =>
    refine ⟨[], ?_, by simpa using hkept⟩
    match signals with
    | [] => rfl
    | [_] => rfl
    | _ :: _ :: _ => rfl
  | ops command =>
    by_cases htaken : reached = true ∧ Host.hasOpen command.call.workflowId s.host.runs = true
    · refine ⟨[command.sent], ?_, ?_⟩
      · simp [InFlight.rest, InFlight.welcome, InFlight.accepted?, htaken]
      rw [PlatformState.after, if_pos htaken.1, InFlight.turn, Option.elim_some, Host.step_accepted]
      simp [htaken.2, OpsCommand.sent]
    · refine ⟨[], ?_, by simpa using hkept⟩
      have hfalse : (reached && (InFlight.ops command).welcome s.host.runs) = false := by
        simpa [InFlight.welcome] using htaken
      rw [hfalse]
      rfl

theorem Consistent.after (hs : s.Consistent code answers) {request : InFlight}
    (hrequest : request ∈ s.inFlight) (reached : Bool) :
    { s with host := s.after code answers request reached }.Consistent code answers := by
  unfold PlatformState.after
  split
  · cases hturn : request.turn with
    | none => exact hs
    | some t => exact hs.turn (hs.legal hrequest hturn)
  · exact hs

theorem Consistent.call (hs : s.Consistent code answers) (i : Nat) (reached : Bool) :
    (s.call code answers i reached).Consistent code answers := by
  unfold PlatformState.call
  split
  next => exact hs
  next request hrequest =>
    have hmem := List.mem_of_getElem? hrequest
    refine { hs.after hmem reached with inFlight := fun request' hrequest' => ?_, answered := ?_ }
    · simp only [List.mem_append] at hrequest'
      rcases hrequest' with (hbefore | hrest) | hafter
      · exact hs.inFlight request' (List.mem_of_mem_take hbefore)
      · exact (hs.inFlight request hmem).rest hrest
      · exact hs.inFlight request' (List.mem_of_mem_drop hafter)
    · obtain ⟨new, hnew, haccepted⟩ := accepted_call code answers s request reached
      have hanswered := hs.answered
      rw [inFlight_split hrequest] at hanswered
      refine List.Subperm.trans (List.Perm.subperm ?_)
        ((hanswered.append (.refl new)).trans haccepted.subperm)
      simp only [List.filterMap_append, hnew, filterMap_cons_toList, List.append_assoc]
      exact ((List.perm_append_comm.append_left _).append_left _).append_left _

/-- A handler reports a success only if its signal was accepted. -/
theorem successes_resumed (answered : List (OpsCommand × Except String OpsCommandResponse))
    (command : OpsCommand) (accepted reached : Bool) (reply : Reply) :
    ∃ new, successes (answered ++ [(command,
        if accepted && reached then .ok (command.response reply.now)
        else .error (command.failure reply.error))]) = successes answered ++ new ∧
      new.Sublist (InFlight.sent command accepted).accepted?.toList := by
  refine ⟨if accepted && reached then [command.sent] else [], ?_, ?_⟩
  · cases accepted <;> cases reached <;>
      simp [successes, List.filter_append, Except.isOk, Except.toBool]
  · cases accepted <;> cases reached <;> simp [InFlight.accepted?]

theorem Consistent.resume (hs : s.Consistent code answers) (i : Nat) (answered : Bool)
    (reply : Reply) : (s.resume i answered reply).Consistent code answers := by
  unfold PlatformState.resume
  split
  next command accepted hrequest =>
    refine { hs with inFlight := fun request' hrequest' => ?_, answered := ?_ }
    · rcases List.mem_append.mp hrequest' with hbefore | hafter
      · exact hs.inFlight request' (List.mem_of_mem_take hbefore)
      · exact hs.inFlight request' (List.mem_of_mem_drop hafter)
    · have hanswered := hs.answered
      rw [inFlight_split hrequest] at hanswered
      refine List.Subperm.trans ?_ hanswered
      obtain ⟨new, hnew, hsub⟩ := successes_resumed s.answers command accepted answered reply
      rw [hnew]
      simp only [List.filterMap_append, filterMap_cons_toList, List.append_assoc]
      refine List.Subperm.trans (List.Perm.subperm ?_)
        (((hsub.append_right _).append_left _).append_left _).subperm
      refine List.Perm.append_left _ ?_
      rw [← List.append_assoc, ← List.append_assoc]
      exact List.perm_append_comm.append_right _
  next => exact hs

/-- A request has come in that has sent nothing yet. -/
theorem Consistent.received (hs : s.Consistent code answers) {request : InFlight}
    (hsensible : request.Sensible s.service) (hnone : request.accepted? = none) :
    { s with inFlight := s.inFlight ++ [request] }.Consistent code answers := by
  refine { hs with inFlight := fun request' hrequest' => ?_, answered := ?_ }
  · rcases List.mem_append.mp hrequest' with hold | hnew
    · exact hs.inFlight request' hold
    · obtain rfl := List.mem_singleton.mp hnew
      exact hsensible
  · simpa [List.filterMap_append, hnone] using hs.answered

/-- An application is stored before its start is sent. -/
theorem Consistent.applied (hs : s.Consistent code answers) {taskQueue : String}
    {request : LoanApplicationRequest} {env : Ambient} {response : LoanApplicationResponse}
    {service : BorrowerGatewayService} {start : Option StartCall}
    (happly : applyForLoan taskQueue s.service request env .accepted =
      .ok (response, service, start)) :
    { s with service, inFlight := s.inFlight ++ start.toList.map InFlight.apply }.Consistent
      code answers := by
  obtain ⟨hinitiate, rfl⟩ := applyForLoan_ok happly
  obtain ⟨hname, hservice⟩ := BorrowerGatewayService.initiateApplication_named hs.service hinitiate
  obtain ⟨hnew, hold⟩ := BorrowerGatewayService.initiateApplication_stored hinitiate
  refine ⟨hservice, BorrowerGatewayService.initiateApplication_initiated hs.initiated hinitiate,
    hs.host, fun request' hrequest' => ?_, fun r hr => (hs.runs r hr).mono hold, hs.accepted, ?_⟩
  · rcases List.mem_append.mp hrequest' with hrequest' | hrequest'
    · exact (hs.inFlight request' hrequest').mono hold
    · obtain rfl : request' = .apply (startCall taskQueue request response) := by
        simpa using hrequest'
      refine ⟨?_, by simp⟩
      rintro _ ⟨⟩
      exact ⟨response.applicationId, hname, rfl, hnew⟩
  · simpa [List.filterMap_append, filterMap_cons_toList, InFlight.accepted?] using hs.answered

/-- **Step lemma.** -/
theorem Consistent.step (hs : s.Consistent code answers) (taskQueue : String)
    (event : PlatformEvent W E C Y) :
    (s.step taskQueue code answers event).Consistent code answers := by
  cases event with
  | apply request env =>
    simp only [PlatformState.step]
    split
    next => exact hs
    next happly => exact hs.applied happly
  | ops command => exact hs.received ⟨by simp, by simp⟩ rfl
  | callback response =>
    refine hs.received ⟨by simp, ?_⟩ rfl
    rintro _ ⟨⟩ call hcall
    obtain ⟨loanApp, -, rfl⟩ := List.mem_map.mp hcall
    exact ⟨response, loanApp, rfl⟩
  | called i reached => exact hs.call i reached
  | resumed i answered reply => exact hs.resume i answered reply
  | activated i => exact hs.turn (legal_of_idle (by simp) (by simp))
  | happened i e => exact hs.turn (legal_of_idle (by simp) (by simp))
  | envChanged env => exact hs.turn (legal_of_idle (by simp) (by simp))

/-- **Run lemma.** -/
theorem consistent_run (taskQueue : String) (code : W → Activity → Proc C Y Json)
    (answers : E → (c : C) → Except String (Y c) → Bool) (env : E)
    (events : List (PlatformEvent W E C Y)) :
    (run taskQueue code answers env events).Consistent code answers := by
  unfold run
  exact List.foldlRecOn events _ (consistent_init env) fun s hs event _ => hs.step taskQueue event

/-! ## Every run by itself -/

/-- A run that has been started is a run of the saga by itself, for an application that the service
stores, and gets nothing but the ops commands for that application. Of an application's runs only
the last one is open, and each command that was answered with success has been taken by one of them,
once. -/
structure Faithful (code : W → Activity → Proc C Y Json)
    (answers : E → (c : C) → Except String (Y c) → Bool) (s : PlatformState W E C Y) : Prop where
  runs : ∀ r ∈ s.host.runs, ∃ appId, r.id = workflowId appId ∧
    r.input.loanApplicationId = appId.str ∧ s.service.Stored appId ∧
    r.Genuine (sagaOf code answers) s.host.env ∧
    ∀ g ∈ r.taken, ∃ command : OpsCommand, command.applicationId = appId ∧ command.call.signal = g
  single : Host.OpenLast s.host.runs
  commands : ∀ appId, (s.succeeded appId).Subperm (Host.takenBy (workflowId appId) s.host.runs)

theorem workflowId_inj {appId appId' : Uuid} (h : workflowId appId = workflowId appId') :
    appId = appId' :=
  Uuid.str_inj.mp ((String.append_right_inj _).mp h)

/-- What a run has taken are commands for its application. -/
theorem Consistent.taken (hs : s.Consistent code answers) {r : Hosted String LoanOriginationInput
      LoanOriginationWorkflow Activity Json Signal RunResult W E C Y} (hr : r ∈ s.host.runs)
    {appId : Uuid} (hid : r.id = workflowId appId) {g : Signal} (hg : g ∈ r.taken) :
    ∃ command : OpsCommand, command.applicationId = appId ∧ command.call.signal = g := by
  have htaken : g ∈ Host.takenBy r.id s.host.runs :=
    List.mem_flatMap.mpr ⟨r, List.mem_filter.mpr ⟨hr, decide_eq_true rfl⟩, hg⟩
  rw [hs.host.accounted] at htaken
  obtain ⟨p, hp, rfl⟩ := List.mem_map.mp htaken
  obtain ⟨hmem, hsent⟩ := List.mem_filter.mp hp
  obtain ⟨command, rfl⟩ := hs.accepted p hmem
  have hcall : command.call.workflowId = r.id := of_decide_eq_true hsent
  exact ⟨command, workflowId_inj (by rw [← command.call_workflowId, hcall, hid]), rfl⟩

theorem Consistent.succeeded (hs : s.Consistent code answers) (appId : Uuid) :
    (s.succeeded appId).Subperm (Host.takenBy (workflowId appId) s.host.runs) := by
  rw [hs.host.accounted]
  have hsame : ∀ command : OpsCommand, (command.call.workflowId = workflowId appId) =
      (command.applicationId = appId) := by
    intro command
    rw [command.call_workflowId]
    exact propext ⟨workflowId_inj, congrArg workflowId⟩
  obtain ⟨l, hperm, hsub⟩ :=
    (List.sublist_append_left (successes s.answers) _).subperm.trans hs.answered
  refine ⟨(l.filter fun p => p.1 = workflowId appId).map Prod.snd, ?_, (hsub.filter _).map _⟩
  refine ((hperm.filter _).map _).trans (.of_eq ?_)
  rw [successes, List.filter_map, List.filter_filter, List.map_map]
  simp [PlatformState.succeeded, Function.comp_def, hsame, OpsCommand.sent]

/-- What a step is to Temporal: turns of its own. -/
theorem host_step (taskQueue : String) (code : W → Activity → Proc C Y Json)
    (answers : E → (c : C) → Except String (Y c) → Bool) (s : PlatformState W E C Y)
    (event : PlatformEvent W E C Y) :
    ∃ turns : List (Turn String LoanOriginationInput Signal W E C Y),
      (s.step taskQueue code answers event).host =
        turns.foldl (Host.step (sagaOf code answers)) s.host := by
  cases event with
  | apply request env =>
    refine ⟨[], ?_⟩
    simp only [PlatformState.step]
    split <;> rfl
  | ops command => exact ⟨[], rfl⟩
  | callback response => exact ⟨[], rfl⟩
  | called i reached =>
    simp only [PlatformState.step, PlatformState.call, PlatformState.after]
    split
    next => exact ⟨[], rfl⟩
    next request _ =>
      split
      · cases request.turn with
        | none => exact ⟨[], rfl⟩
        | some t => exact ⟨[t], rfl⟩
      · exact ⟨[], rfl⟩
  | resumed i answered reply =>
    refine ⟨[], ?_⟩
    simp only [PlatformState.step, PlatformState.resume]
    split <;> rfl
  | activated i => exact ⟨[.activated i], rfl⟩
  | happened i e => exact ⟨[.happened i e], rfl⟩
  | envChanged env => exact ⟨[.envChanged env], rfl⟩

theorem host_foldl (taskQueue : String) (code : W → Activity → Proc C Y Json)
    (answers : E → (c : C) → Except String (Y c) → Bool) (s : PlatformState W E C Y)
    (events : List (PlatformEvent W E C Y)) :
    ∃ turns : List (Turn String LoanOriginationInput Signal W E C Y),
      (events.foldl (step taskQueue code answers) s).host =
        turns.foldl (Host.step (sagaOf code answers)) s.host := by
  induction events generalizing s with
  | nil => exact ⟨[], rfl⟩
  | cons event events ih =>
    obtain ⟨turns, hturns⟩ := host_step taskQueue code answers s event
    obtain ⟨more, hmore⟩ := ih (s.step taskQueue code answers event)
    exact ⟨turns ++ more, by rw [List.foldl_cons, hmore, hturns, List.foldl_append]⟩

/-- **An application has a second run exactly if** one of its starts gets to Temporal after its run
has closed. -/
theorem run_once_iff (taskQueue : String) (code : W → Activity → Proc C Y Json)
    (answers : E → (c : C) → Except String (Y c) → Bool) (env : E)
    (events : List (PlatformEvent W E C Y)) :
    ∃ turns, (run taskQueue code answers env events).host = Host.run (sagaOf code answers) env turns ∧
      ∀ appId, ((run taskQueue code answers env events).host.runs.countP fun r =>
        r.id = workflowId appId) ≤ 1 ↔
          Namespace.NoLateStart (workflowId appId) (Host.ops (sagaOf code answers) { env } turns) := by
  obtain ⟨turns, hturns⟩ := host_foldl taskQueue code answers { host := { env } } events
  change (run taskQueue code answers env events).host = Host.run (sagaOf code answers) env turns at hturns
  exact ⟨turns, hturns, fun appId => hturns ▸ Host.countP_runs_le_one_iff env turns _⟩

/-- **The platform runs each origination by itself**, whatever requests, commands and callbacks come
in, whichever of their calls and answers get through, and however the runs and their workers take
turns; and what the runs of an application have taken is the beginning of all that they will. -/
theorem run_faithful (taskQueue : String) (code : W → Activity → Proc C Y Json)
    (answers : E → (c : C) → Except String (Y c) → Bool) (env : E)
    (events more : List (PlatformEvent W E C Y)) :
    (run taskQueue code answers env events).Faithful code answers ∧
    ∀ appId, Host.takenBy (workflowId appId) (run taskQueue code answers env events).host.runs <+:
      Host.takenBy (workflowId appId) (run taskQueue code answers env (events ++ more)).host.runs := by
  have hs := consistent_run taskQueue code answers env events
  refine ⟨⟨fun r hr => ?_, hs.host.last, hs.succeeded⟩, fun appId => ?_⟩
  · obtain ⟨appId, hid, hinput, hstored⟩ := hs.runs r hr
    have hid := Option.some.inj hid
    exact ⟨appId, hid, hinput, hstored, hs.host.genuine r hr, fun g hg => hs.taken hr hid hg⟩
  · have hmore := consistent_run taskQueue code answers env (events ++ more)
    have hlonger : (run taskQueue code answers env events).host.accepted <+:
        (run taskQueue code answers env (events ++ more)).host.accepted := by
      obtain ⟨turns, hturns⟩ := host_foldl taskQueue code answers
        (run taskQueue code answers env events) more
      have hrun : run taskQueue code answers env (events ++ more) =
          more.foldl (step taskQueue code answers) (run taskQueue code answers env events) := by
        rw [run, List.foldl_append, run]
      rw [hrun, hturns]
      exact Host.accepted_mono _ turns
    rw [hs.host.accounted, hmore.host.accounted]
    exact (hlonger.filter _).map _

/-- Two commands: one gets to Temporal before the run is started and is refused, the other one after
it and is taken. A lender's signal is refused at any time. -/
def heldEvents : List (PlatformEvent Origination.WorkerProcess Origination.ConsentLedger
    Origination.Call Origination.Call.Reply) :=
  let hold : OpsCommand := .hold { applicationId := sampleId, reason := "check", heldBy := "ops" }
  [.apply sampleRequest { uuid4 := sampleId }, .ops hold, .called 1 true, .called 0 true, .ops hold,
    .called 1 true, .callback sampleResponse, .called 2 true, .activated 0, .resumed 0 true {},
    .resumed 0 true {}]

example : (run "loan-origination" Activity.code Origination.answers (fun _ _ => true)
      heldEvents).answers.map (fun p => p.2.isOk) = [false, true] ∧
    (run "loan-origination" Activity.code Origination.answers (fun _ _ => true)
      heldEvents).host.runs.map (fun r => r.taken.length) = [1] := by
  decide +kernel

end PlatformState

end Platform

/-! ## How the originations end -/

section Outcomes

open Origination (Held Hist Outcome RunResult plan)

/-- How a run can end without the answer of a lender. -/
inductive Unanswered (input : LoanOriginationInput) (h : Hist) : RunResult → Prop
  | denied {a gate reason} : (plan input).Denied a gate h → Unanswered input h (.rejected gate reason)
  | held : Held h.signals → Unanswered input h (.rejected .opsHold (.str "ops_hold_expired"))
  | immediate {i r offer} : (.submitToLender i, r) ∈ h.results → r.subscript "offer" = .ok offer →
      Unanswered input h (.offerReceived offer i.lenderIds)
  | timedOut : Origination.Completed input h →
      Unanswered input h (.rejected .d4LenderUnderwriting (.str "lender_response_timeout"))

theorem unanswered_of_outcome {input : LoanOriginationInput} {out : RunResult} {h : Hist}
    (hout : Outcome input out h)
    (hnone : ∀ response, .lenderResponseReceived response ∉ h.signals) :
    Unanswered input h out := by
  cases hout with
  | denied hdenied _ => exact .denied hdenied
  | holdExpired _ hheld =>
    have hsignals := (Origination.replay_opsHold _).mp hheld
    exact .held (by simpa using hsignals)
  | immediate _ hmem _ _ hoffer => exact .immediate hmem hoffer
  | decided _ hresponse =>
    rw [Origination.replay_lenderResponse] at hresponse
    obtain ⟨g, hg, hread⟩ := List.mem_filterMap.mp (List.mem_of_getLast? hresponse)
    cases g with
    | lenderResponseReceived response => exact absurd hg (hnone response)
    | opsHoldRequested reason => cases hread
    | opsHoldReleased => cases hread
  | responseTimeout hd _ => exact .timedOut hd.checkpoint.completed.timedOut

variable {W E : Type} {C : Type} {Y : C → Type}

/-- No lender has a say: a run that has returned was rejected at a gate, was held for 72 hours, had
an offer at once, or has waited for 24 hours in vain. And whatever becomes of an application, its
status is that of a new one. -/
structure PlatformState.Unheard (s : PlatformState W E C Y) : Prop where
  outcome : ∀ r ∈ s.host.runs, ∀ x out, r.world = some x → x.exec.status = .returned out →
    Unanswered r.input x.exec.history out
  status : ∀ pydantic : Pydantic, pydantic.Lawful → ∀ appId status,
    s.service.getStatus pydantic appId = .ok status →
      status.status = "initiated" ∧ status.currentGate = some "d0_kind1"

theorem BorrowerGatewayService.Initiated.getStatus {s : BorrowerGatewayService} (hs : s.Initiated)
    {pydantic : Pydantic} (hlawful : pydantic.Lawful) {appId : Uuid} {status : LoanApplicationStatus}
    (h : s.getStatus pydantic appId = .ok status) :
    status.status = "initiated" ∧ status.currentGate = some "d0_kind1" := by
  unfold BorrowerGatewayService.getStatus at h
  split at h
  next => cases h
  next app happ =>
    obtain ⟨hfind, -⟩ := Option.filter_eq_some_iff.mp happ
    obtain ⟨request, env, heq⟩ := hs _ (PyDict.mem_of_find? hfind)
    obtain rfl := (Prod.mk.inj heq).2
    obtain ⟨id, -, h⟩ := exists_of_bind_ok h
    obtain ⟨v, hv, h⟩ := exists_of_bind_ok h
    obtain ⟨applicationId, -, h⟩ := exists_of_bind_ok h
    obtain ⟨text, htext, h⟩ := exists_of_bind_ok h
    obtain ⟨gate, hgate, h⟩ := exists_of_bind_ok h
    obtain ⟨_, -, h⟩ := exists_of_bind_ok h
    obtain ⟨_, -, h⟩ := exists_of_bind_ok h
    obtain ⟨_, -, h⟩ := exists_of_bind_ok h
    obtain ⟨_, -, h⟩ := exists_of_bind_ok h
    obtain ⟨_, -, h⟩ := exists_of_bind_ok h
    obtain rfl := Except.ok.inj h
    obtain rfl : Value.str "initiated" = v := Except.ok.inj hv
    refine ⟨Except.ok.inj (htext.symm.trans (hlawful.str _)), ?_⟩
    exact Except.ok.inj (hgate.symm.trans (optional_str hlawful "d0_kind1"))

/-- **No lender is heard**, in any run of the platform with any activities. -/
theorem run_unheard (taskQueue : String) (code : W → Activity → Proc C Y Json)
    (answers : E → (c : C) → Except String (Y c) → Bool) (env : E)
    (events : List (PlatformEvent W E C Y)) :
    (PlatformState.run taskQueue code answers env events).Unheard := by
  have hs := PlatformState.consistent_run taskQueue code answers env events
  refine ⟨fun r hr x out hx hout => ?_, fun _ hlawful _ _ => hs.initiated.getStatus hlawful⟩
  obtain ⟨appId, hid, -⟩ := hs.runs r hr
  have hgenuine := hs.host.genuine r hr
  have hnone : ∀ response, .lenderResponseReceived response ∉ x.exec.history.signals := by
    intro response hmem
    obtain ⟨command, -, hcall⟩ :=
      hs.taken hr (Option.some.inj hid) ((hgenuine.signals hx).subset hmem)
    cases command <;> cases hcall
  refine unanswered_of_outcome ?_ hnone
  obtain ⟨-, early, env₀, happenings, rfl, -⟩ := hgenuine.lived x hx
  obtain ⟨activations, hexec⟩ :=
    (coherent_run (sagaOf code answers r.input) early env₀ happenings).reachable
  have hcontract := Origination.runWorkflow_contract (.structured r.input) early activations
  rw [hexec] at hout ⊢
  change (Origination.runWorkflow (.structured r.input) early activations).status = _ at hout
  unfold Contract.Holds at hcontract
  rw [hout] at hcontract
  exact hcontract

/-! ## With the activities that it has -/

open Origination (Checkpoint ConsentLedger EvaluateDecisionInput Gate Stage WorkerProcess gateOn
  runOrigination verdict)

theorem gate_of_gateOn {field : Except String Json} {test : Json → Bool} {gate gate' : Gate}
    (h : gateOn field test gate = .ok (some gate')) : gate' = gate := by
  cases field with
  | error e => cases h
  | ok v =>
    simp only [gateOn, Except.ok.injEq] at h
    split at h
    · exact (Option.some.inj h).symm
    · cases h

section Unevaluated

variable {input : LoanOriginationInput} {h : Hist}

/-- Only these gates can reject when the rulesets are not evaluated. -/
theorem gate_of_unevaluated {a : Activity} {r : Json} {gate : Gate}
    (hr : ∀ i, a = .evaluateDecision i → r = Origination.Activities.noRulesetOrContext i)
    (hgate : verdict a r = .ok (some gate)) :
    gate ∈ [Gate.dpdpConsent, .aaFetch, .d3LenderPrescreen] := by
  cases a with
  | checkDpdpConsent i => simp [gate_of_gateOn hgate]
  | fetchAaData i => simp [gate_of_gateOn hgate]
  | submitToLender i => cases hgate
  | submitOcenLoanRequest i => cases hgate
  | evaluateDecision i =>
    -- D0 and D1 pass on such a result.
    obtain rfl := hr i rfl
    simp only [verdict] at hgate
    split at hgate
    next => cases hgate
    next =>
      split at hgate
      next => cases hgate
      next =>
        split at hgate
        next => simp [gate_of_gateOn hgate]
        next => cases hgate

/-- And D3 does, so that nothing comes after it. -/
theorem checkpoint_of_unevaluated {todo : List Stage}
    (hunevaluated : ∀ i r, (.evaluateDecision i, r) ∈ h.results →
      r = Origination.Activities.noRulesetOrContext i) (hc : Checkpoint input todo h) :
    .evaluateDecision "d3_lender_prescreen" ∈ todo := by
  have hd3 : Stage.evaluateDecision "d3_lender_prescreen" ∈ Origination.stages input := by
    unfold Origination.stages
    split <;> decide
  have hsplit := hc.passed.split
  simp only [plan] at hsplit
  rw [hsplit] at hd3
  rcases List.mem_append.mp hd3 with hdone | htodo
  · obtain ⟨⟨a, r⟩, hmem, hstage⟩ := List.mem_map.mp hdone
    cases a with
    | evaluateDecision i =>
      have hclean : verdict (.evaluateDecision i) r = .ok none := hc.passed.clean _ hmem
      rw [hunevaluated i r hmem,
        Origination.verdict_noRulesetOrContext (Stage.evaluateDecision.inj hstage)] at hclean
      cases hclean
    | checkDpdpConsent i => cases hstage
    | fetchAaData i => cases hstage
    | submitToLender i => cases hstage
    | submitOcenLoanRequest i => cases hstage
  · exact htodo

theorem rejected_of_unevaluated {out : RunResult} (hout : Outcome input out h)
    (hunevaluated : ∀ i r, (.evaluateDecision i, r) ∈ h.results →
      r = Origination.Activities.noRulesetOrContext i) :
    ∃ gate ∈ [Gate.dpdpConsent, .aaFetch, .d3LenderPrescreen], ∃ reason,
      out = .rejected gate reason := by
  cases hout with
  | denied hdenied _ =>
    obtain ⟨r, hhalted, hgate⟩ := hdenied
    obtain ⟨before, hresults, -⟩ := hhalted.last
    refine ⟨_, gate_of_unevaluated (fun i hi => hunevaluated i r ?_) hgate, _, rfl⟩
    rw [hresults, hi]
    simp
  | holdExpired hc _ =>
    have htodo := checkpoint_of_unevaluated (by simpa using hunevaluated) hc
    exact absurd htodo (by decide)
  | immediate hc _ _ _ _ => exact absurd (checkpoint_of_unevaluated hunevaluated hc) (by simp)
  | decided hd _ => exact absurd (checkpoint_of_unevaluated hunevaluated hd.checkpoint) (by simp)
  | responseTimeout hd _ =>
    exact absurd (checkpoint_of_unevaluated (by simpa using hunevaluated) hd.checkpoint) (by simp)

end Unevaluated

/-- **What the platform makes of the applications that it gets.** With any activities, the lenders'
answers reach no run, and no status says how a run has ended; with its own, every run that returns
has rejected its application, for want of a consent, of data or of a lender. -/
theorem platform_outcomes (taskQueue : String) :
    (∀ (W E : Type) (C : Type) (Y : C → Type) (code : W → Activity → Proc C Y Json)
      (answers : E → (c : C) → Except String (Y c) → Bool) env events,
      (PlatformState.run taskQueue code answers env events).Unheard) ∧
    ∀ (ledger : ConsentLedger) events, ∀ r ∈ (PlatformState.run taskQueue Activity.code
        Origination.answers ledger events).host.runs, ∀ x out, r.world = some x →
      x.exec.status = .returned out →
      ∃ gate ∈ [Gate.dpdpConsent, .aaFetch, .d3LenderPrescreen], ∃ reason, out = .rejected gate reason := by
  refine ⟨fun W E C Y code answers => run_unheard taskQueue code answers, ?_⟩
  intro ledger events r hr x out hx hout
  have hs := PlatformState.consistent_run taskQueue Activity.code Origination.answers ledger events
  obtain ⟨-, early, env₀, happenings, rfl, -⟩ := (hs.host.genuine r hr).lived x hx
  have hsame : World.run (sagaOf Activity.code Origination.answers r.input) early env₀ happenings =
    runOrigination (.structured r.input) early env₀ happenings := rfl
  rw [hsame] at hout
  have hunevaluated : ∀ i r', (.evaluateDecision i, r') ∈
      (runOrigination (.structured r.input) early env₀ happenings).exec.history.results →
      r' = Origination.Activities.noRulesetOrContext i :=
    fun _ _ hmem => Origination.runOrigination_unevaluated hmem
  obtain ⟨activations, hexec⟩ :=
    Origination.runOrigination_exec (.structured r.input) early env₀ happenings
  rw [hexec] at hout hunevaluated
  have hcontract := Origination.runWorkflow_contract (.structured r.input) early activations
  unfold Contract.Holds at hcontract
  rw [hout] at hcontract
  exact rejected_of_unevaluated hcontract hunevaluated

/-- The attempts of a run up to D3, which gets no context; each makes so many calls. -/
def rejectedEvents : List (PlatformEvent WorkerProcess ConsentLedger Origination.Call
    Origination.Call.Reply) :=
  [.apply sampleRequest { uuid4 := sampleId }, .called 0 true, .activated 0] ++
    ([2, 0, 6, 0, 0, 0].flatMap Origination.attempt).map (.happened 0)

example : (PlatformState.run "loan-origination" Activity.code Origination.answers (fun _ _ => true)
      rejectedEvents).host.runs.map (fun r => r.world.map fun x =>
        match x.exec.status with
        | .returned (.rejected gate _) => some gate
        | _ => none) = [some (some Gate.d3LenderPrescreen)] := by
  decide +kernel

end Outcomes

end OcenPlatform.Gateway
