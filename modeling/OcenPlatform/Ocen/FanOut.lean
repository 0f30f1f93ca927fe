import OcenPlatform.Durable.Run
import OcenPlatform.Ocen.NetworkClient

/-! The submission of a request with any number of loan applications, with the answers of the lenders
and the heartbeats in full: each lender counts for itself. -/

namespace OcenPlatform.Ocen.Journey

open Durable

/-! ## Requests and acknowledgements -/

structure ProductData where
  productId : String
  productNetworkId : String

/-- What an application holds besides its id is only serialised. -/
structure LoanApplication where
  loanApplicationId : String
  others : Json

structure CreateLoanApplicationRequest where
  metadata : Json
  productData : ProductData
  loanApplications : List LoanApplication

structure OcenAckResponse where
  error : Option String := none
  traceId : String
  timestamp : String := ""
  deriving DecidableEq

/-- `OcenAckResponse.model_validate`. A trace id has an alias. -/
def OcenAckResponse.modelValidate : Json → Except String OcenAckResponse
  | .obj fields => do
    let error ← match PyDict.get fields "error" .null with
      | .null => pure none
      | .str s => pure (some s)
      | _ => .error "ValidationError"
    let traceId ← match (PyDict.find? fields "traceId").or (PyDict.find? fields "trace_id") with
      | some (.str s) => pure s
      | _ => .error "ValidationError"
    let timestamp ← match PyDict.get fields "timestamp" (.str "") with
      | .str s => pure s
      | _ => .error "ValidationError"
    return { error, traceId, timestamp }
  | _ => .error "ValidationError"

/-- A response of a lender, with what `resp.json()` makes of its body. -/
structure HttpResponse where
  statusCode : Nat
  json : Except String Json

def HttpResponse.raiseForStatus (resp : HttpResponse) : Except String Unit :=
  if 200 ≤ resp.statusCode ∧ resp.statusCode < 300 then .ok () else .error "HTTPStatusError"

/-- The acknowledgement in a response. -/
def HttpResponse.ack (resp : HttpResponse) : Except String OcenAckResponse := do
  resp.raiseForStatus
  OcenAckResponse.modelValidate (← resp.json)

/-! ## Heartbeats -/

inductive HeartbeatCall where
  | getBearerToken
  | postEvents (event : HeartbeatEvent) (token : String)

@[reducible] def HeartbeatCall.Reply : HeartbeatCall → Type
  | .getBearerToken => String
  | .postEvents _ _ => Unit

abbrev HeartbeatCode (α : Type) := Proc HeartbeatCall HeartbeatCall.Reply α

def postEvents (event : HeartbeatEvent) : HeartbeatCode Unit := do
  let token ← Proc.ask HeartbeatCall.getBearerToken
  Proc.ask (HeartbeatCall.postEvents event token)

/-- `OcenHeartbeatService.send_event`: what fails in it is only logged. -/
def sendEvent (event : HeartbeatEvent) : HeartbeatCode Unit :=
  (postEvents event).tryBind fun _ => return ()

/-! ## The client -/

structure LoanRequestPost where
  url : String
  content : String
  token : String
  signature : String

inductive ClientCall where
  | getBearerToken
  | getProductNetworkParticipants (productNetworkId : String)
  | createLoanRequest (post : LoanRequestPost)
  | sendEvent (event : HeartbeatEvent)

@[reducible] def ClientCall.Reply : ClientCall → Type
  | .getBearerToken => String
  | .getProductNetworkParticipants _ => ProductNetworkDetail
  | .createLoanRequest _ => HttpResponse
  | .sendEvent _ => Unit

abbrev ClientCode (α : Type) := Proc ClientCall ClientCall.Reply α

abbrev perform (c : ClientCall) : ClientCode c.Reply := .ask c

/-- `model_dump_json(by_alias=True)` of a request, and `sign` of a text. -/
structure OcenNetworkClient where
  modelDumpJson : CreateLoanApplicationRequest → String
  sign : String → String

def heartbeatEvent (eventType : String) (request : CreateLoanApplicationRequest) (code : Nat)
    (message roleId : String) (app : LoanApplication) : HeartbeatEvent where
  eventType
  productId := request.productData.productId
  productNetworkId := request.productData.productNetworkId
  loanApplicationId := app.loanApplicationId
  responseCode := code
  responseMessage := message
  roleId

/-- `_emit_heartbeat`: an event for each of the applications. -/
def emitHeartbeats (event : LoanApplication → HeartbeatEvent) : List LoanApplication → ClientCode Unit
  | [] => return ()
  | app :: apps => do
    perform (.sendEvent (event app))
    emitHeartbeats event apps

def emitHeartbeat (request : CreateLoanApplicationRequest) (code : Nat) (message roleId : String) :
    ClientCode Unit :=
  emitHeartbeats (heartbeatEvent "CREATE_LOAN_APPLICATION_REQUEST" request code message roleId)
    request.loanApplications

/-- What all posts of one submission have in common. -/
structure SignedBody where
  content : String
  token : String
  signature : String

def SignedBody.post (body : SignedBody) (lender : ParticipantDetail) : LoanRequestPost where
  url := lender.baseUrl ++ createLoanRequestPath
  content := body.content
  token := body.token
  signature := body.signature

/-- The `except` block of a round. -/
def submitFailed (request : CreateLoanApplicationRequest) (lender : ParticipantDetail)
    (acks : List OcenAckResponse) (e : String) : ClientCode (List OcenAckResponse) := do
  emitHeartbeat request 500 e lender.id
  return acks

/-- The acknowledgement of a lender. Closing the HTTP client does not fail. -/
def postTo (body : SignedBody) (lender : ParticipantDetail) : ClientCode OcenAckResponse := do
  let resp ← perform (.createLoanRequest (body.post lender))
  Proc.ofExcept resp.ack

/-- One round of the loop: the acknowledgement is in the list before its heartbeats are emitted. -/
def submitTo (request : CreateLoanApplicationRequest) (body : SignedBody)
    (acks : List OcenAckResponse) (lender : ParticipantDetail) : ClientCode (List OcenAckResponse) :=
  (postTo body lender).tryBind fun
    | .ok ack => (emitHeartbeat request 200 "Success" lender.id).tryBind fun
      | .ok () => return acks ++ [ack]
      | .error e => submitFailed request lender (acks ++ [ack]) e
    | .error e => submitFailed request lender acks e

def submitToAll (request : CreateLoanApplicationRequest) (body : SignedBody)
    (acks : List OcenAckResponse) : List ParticipantDetail → ClientCode (List OcenAckResponse)
  | [] => return acks
  | lender :: lenders => do
    let acks ← submitTo request body acks lender
    submitToAll request body acks lenders

/-- `submit_loan_application`. -/
def OcenNetworkClient.submitLoanApplication (client : OcenNetworkClient)
    (request : CreateLoanApplicationRequest) : ClientCode (List OcenAckResponse) := do
  let token ← perform .getBearerToken
  let content := client.modelDumpJson request
  let signature := client.sign content
  let network ← perform (.getProductNetworkParticipants request.productData.productNetworkId)
  submitToAll request { content, token, signature } [] network.lenders

/-! ## The outside -/

abbrev ClientTrace := List (Answered ClientCall ClientCall.Reply)

/-- What the outside answers, whatever has been called before: the token service and the registry to
the client, a lender to a post, and the token service and the analytics endpoint to a heartbeat. -/
structure Outside where
  bearerToken : Except String String
  participants : String → Except String ProductNetworkDetail
  lender : ClientTrace → LoanRequestPost → Except String HttpResponse
  heartbeat : ClientTrace → Answers HeartbeatCall HeartbeatCall.Reply

/-- An event is sent by the heartbeat service. -/
def Outside.answers (o : Outside) : Answers ClientCall ClientCall.Reply
  | _, .getBearerToken => o.bearerToken
  | _, .getProductNetworkParticipants productNetworkId => o.participants productNetworkId
  | past, .createLoanRequest post => o.lender past post
  | past, .sendEvent event => ((sendEvent event).run (o.heartbeat past) []).2

/-- The heartbeat service raises nothing. -/
theorem answers_sendEvent (o : Outside) (past : ClientTrace) (event : HeartbeatEvent) :
    o.answers past (.sendEvent event) = .ok () := by
  change ((sendEvent event).run (o.heartbeat past) []).2 = .ok ()
  rw [sendEvent, Proc.run_tryBind]
  rfl

/-- A post and its answer. -/
def posted (post : LoanRequestPost) (answer : Except String HttpResponse) :
    Answered ClientCall ClientCall.Reply := ⟨.createLoanRequest post, answer⟩

/-- A call of the heartbeat service. -/
def sent (event : HeartbeatEvent) : Answered ClientCall ClientCall.Reply := ⟨.sendEvent event, .ok ()⟩

/-! ## Rounds -/

/-- A round of the loop, with what the lender has answered. -/
structure Round where
  lender : ParticipantDetail
  answer : Except String HttpResponse

namespace Round

variable (r : Round)

def ack : Except String OcenAckResponse := r.answer >>= HttpResponse.ack

/-- The code and the message of its heartbeats. -/
def code : Nat :=
  match r.ack with
  | .ok _ => 200
  | .error _ => 500

def message : String :=
  match r.ack with
  | .ok _ => "Success"
  | .error e => e

def event (request : CreateLoanApplicationRequest) (app : LoanApplication) : HeartbeatEvent :=
  heartbeatEvent "CREATE_LOAN_APPLICATION_REQUEST" request r.code r.message r.lender.id app

/-- The calls of the round: the post, and an event for each application. -/
def trace (request : CreateLoanApplicationRequest) (body : SignedBody) : ClientTrace :=
  posted (body.post r.lender) r.answer :: (request.loanApplications.map (r.event request)).map sent

variable {r}

theorem event_of_ok {ack : OcenAckResponse} (h : r.ack = .ok ack)
    (request : CreateLoanApplicationRequest) : r.event request =
      heartbeatEvent "CREATE_LOAN_APPLICATION_REQUEST" request 200 "Success" r.lender.id := by
  funext app
  simp only [event, code, message, h]

theorem event_of_error {e : String} (h : r.ack = .error e) (request : CreateLoanApplicationRequest) :
    r.event request = heartbeatEvent "CREATE_LOAN_APPLICATION_REQUEST" request 500 e r.lender.id := by
  funext app
  simp only [event, code, message, h]

theorem code_eq_iff : r.code = 200 ↔ ∃ ack, r.ack = .ok ack := by
  unfold code
  cases r.ack <;> simp

end Round

section Run

variable (o : Outside) (past : ClientTrace) (request : CreateLoanApplicationRequest) (body : SignedBody)
  (acks : List OcenAckResponse)

theorem run_emitHeartbeats (event : LoanApplication → HeartbeatEvent) (apps : List LoanApplication) :
    (emitHeartbeats event apps).run o.answers past =
      (past ++ (apps.map event).map sent, .ok ()) := by
  induction apps generalizing past with
  | nil => rw [List.map_nil, List.map_nil, List.append_nil]; rfl
  | cons app apps ih =>
    have hsent : (perform (.sendEvent (event app))).run o.answers past =
        (past ++ [sent (event app)], .ok ()) := by
      rw [Proc.run_ask, answers_sendEvent]
      rfl
    rw [emitHeartbeats, Proc.run_bind_ok _ _ hsent, ih, List.append_assoc, List.map_cons, List.map_cons,
      List.singleton_append]

theorem run_postTo (lender : ParticipantDetail) : (postTo body lender).run o.answers past =
    (past ++ [posted (body.post lender) (o.lender past (body.post lender))],
      Round.ack ⟨lender, o.lender past (body.post lender)⟩) := by
  rw [postTo, Proc.bind_eq_tryBind, Proc.run_tryBind, Proc.run_ask, Proc.ofExcept_bind,
    Proc.run_ofExcept]
  rfl

/-- **Step lemma.** A round posts once, then sends its events, and adds the acknowledgement that it
has got. -/
theorem run_submitTo (lender : ParticipantDetail) :
    ∃ r : Round, r.lender = lender ∧ (submitTo request body acks lender).run o.answers past =
      (past ++ r.trace request body, .ok (acks ++ r.ack.toOption.toList)) := by
  refine ⟨⟨lender, o.lender past (body.post lender)⟩, rfl, ?_⟩
  rw [submitTo, Proc.run_tryBind, run_postTo]
  cases hack : Round.ack ⟨lender, o.lender past (body.post lender)⟩ with
  | ok ack =>
    simp only [Proc.run_tryBind, emitHeartbeat, run_emitHeartbeats, Round.trace,
      Round.event_of_ok hack, List.append_assoc, List.singleton_append]
    rfl
  | error e =>
    have hsent := run_emitHeartbeats o (past ++ [posted (body.post lender)
      (o.lender past (body.post lender))]) (heartbeatEvent "CREATE_LOAN_APPLICATION_REQUEST" request 500 e
        lender.id) request.loanApplications
    have hacks : acks ++ (Except.error e : Except String OcenAckResponse).toOption.toList = acks :=
      List.append_nil acks
    simp only [submitFailed, emitHeartbeat, Proc.run_bind_ok _ _ hsent, Round.trace,
      Round.event_of_error hack, hacks, List.append_assoc, List.singleton_append]
    rfl

/-- **Run lemma.** -/
theorem run_submitToAll (lenders : List ParticipantDetail) :
    ∃ rounds : List Round, rounds.map Round.lender = lenders ∧
      (submitToAll request body acks lenders).run o.answers past =
        (past ++ rounds.flatMap fun r => r.trace request body,
          .ok (acks ++ rounds.filterMap fun r => r.ack.toOption)) := by
  induction lenders generalizing past acks with
  | nil => exact ⟨[], rfl, by simp [submitToAll]; rfl⟩
  | cons lender lenders ih =>
    obtain ⟨r, hr, hround⟩ := run_submitTo o past request body acks lender
    obtain ⟨rounds, hrounds, hrest⟩ := ih (past ++ r.trace request body)
      (acks ++ r.ack.toOption.toList)
    refine ⟨r :: rounds, by rw [List.map_cons, hr, hrounds], ?_⟩
    rw [submitToAll, Proc.run_bind_ok _ _ hround, hrest, List.flatMap_cons, List.append_assoc,
      List.append_assoc]
    have hacks : (r :: rounds).filterMap (fun r => r.ack.toOption) =
        r.ack.toOption.toList ++ rounds.filterMap fun r => r.ack.toOption := by
      rw [List.filterMap_cons]
      cases r.ack.toOption <;> rfl
    rw [hacks]

end Run

/-! ## What the outside sees -/

/-- A post of the trace, with its answer. -/
def post? : Answered ClientCall ClientCall.Reply → Option (LoanRequestPost × Except String HttpResponse)
  | ⟨.createLoanRequest post, answer⟩ => some (post, answer)
  | _ => none

/-- An event of the trace. -/
def event? : Answered ClientCall ClientCall.Reply → Option HeartbeatEvent
  | ⟨.sendEvent event, _⟩ => some event
  | _ => none

section Trace

variable (request : CreateLoanApplicationRequest) (body : SignedBody) (rounds : List Round)

theorem filterMap_post?_sent (events : List HeartbeatEvent) : (events.map sent).filterMap post? = [] := by
  rw [List.filterMap_map]
  exact List.filterMap_eq_nil_iff.mpr fun _ _ => rfl

theorem filterMap_event?_sent (events : List HeartbeatEvent) :
    (events.map sent).filterMap event? = events := by
  rw [List.filterMap_map]
  exact List.filterMap_some

theorem posts_rounds : (rounds.flatMap fun r => r.trace request body).filterMap post? =
    rounds.map fun r => (body.post r.lender, r.answer) := by
  induction rounds with
  | nil => rfl
  | cons r rounds ih =>
    have hround : (r.trace request body).filterMap post? = [(body.post r.lender, r.answer)] :=
      congrArg ((body.post r.lender, r.answer) :: ·) (filterMap_post?_sent _)
    rw [List.flatMap_cons, List.filterMap_append, ih, hround, List.map_cons, List.singleton_append]

theorem events_rounds : (rounds.flatMap fun r => r.trace request body).filterMap event? =
    rounds.flatMap fun r => request.loanApplications.map (r.event request) := by
  induction rounds with
  | nil => rfl
  | cons r rounds ih =>
    have hround : (r.trace request body).filterMap event? =
        request.loanApplications.map (r.event request) := filterMap_event?_sent _
    rw [List.flatMap_cons, List.filterMap_append, ih, hround, List.flatMap_cons]

end Trace

/-- A run that has reached each of the lenders, a round each: it posts the same body to each of them,
returns what has been acknowledged in their order, and sends for each an event an application. -/
structure FansOut (request : CreateLoanApplicationRequest) (body : SignedBody)
    (lenders : List ParticipantDetail) (rounds : List Round)
    (ran : ClientTrace × Except String (List OcenAckResponse)) : Prop where
  lenders : rounds.map Round.lender = lenders
  posts : ran.1.filterMap post? = rounds.map fun r => (body.post r.lender, r.answer)
  returned : ran.2 = .ok (rounds.filterMap fun r => r.ack.toOption)
  events : ran.1.filterMap event? =
    rounds.flatMap fun r => request.loanApplications.map (r.event request)
  codes : ∀ r ∈ rounds, ∀ app ∈ request.loanApplications,
    (r.event request app).responseCode = 200 ↔ ∃ ack, r.ack = .ok ack

/-- **Fan-out isolation:** with a token and the lenders of the network, the submission makes a round
for each lender whatever the others answer and whatever fails in the heartbeats. -/
theorem submitLoanApplication_fansOut (client : OcenNetworkClient)
    (request : CreateLoanApplicationRequest) (o : Outside) (token : String)
    (network : ProductNetworkDetail) (htoken : o.bearerToken = .ok token)
    (hnetwork : o.participants request.productData.productNetworkId = .ok network) :
    ∃ rounds, FansOut request
      { content := client.modelDumpJson request, token
        signature := client.sign (client.modelDumpJson request) }
      network.lenders rounds ((client.submitLoanApplication request).run o.answers []) := by
  have hbearer : (perform .getBearerToken).run o.answers [] =
      ([⟨.getBearerToken, .ok token⟩], .ok token) := by
    rw [Proc.run_ask, ← htoken]
    rfl
  have hlist : (perform (.getProductNetworkParticipants request.productData.productNetworkId)).run
      o.answers [⟨.getBearerToken, .ok token⟩] = ([⟨.getBearerToken, .ok token⟩,
        ⟨.getProductNetworkParticipants request.productData.productNetworkId, .ok network⟩],
          .ok network) := by
    rw [Proc.run_ask, ← hnetwork]
    rfl
  obtain ⟨rounds, hrounds, hrun⟩ := run_submitToAll o [⟨.getBearerToken, .ok token⟩,
    ⟨.getProductNetworkParticipants request.productData.productNetworkId, .ok network⟩] request
    { content := client.modelDumpJson request, token
      signature := client.sign (client.modelDumpJson request) } [] network.lenders
  rw [OcenNetworkClient.submitLoanApplication, Proc.run_bind_ok _ _ hbearer,
    Proc.run_bind_ok _ _ hlist, hrun]
  refine ⟨rounds, hrounds, ?_, rfl, ?_, fun _ _ _ _ => Round.code_eq_iff⟩
  · rw [List.filterMap_append, posts_rounds]
    rfl
  · rw [List.filterMap_append, events_rounds]
    rfl

/-! Two lenders, of which the first cannot be reached, while the token service fails for heartbeats. -/

def sampleRequest : CreateLoanApplicationRequest where
  metadata := .obj [("traceId", .str "trace-1")]
  productData := { productId := "product-1", productNetworkId := "network-1" }
  loanApplications := [{ loanApplicationId := "LA-1", others := .null },
    { loanApplicationId := "LA-2", others := .null }]

def sampleNetwork : ProductNetworkDetail where
  lenders := [{ id := "lender-1", baseUrl := "https://one" }, { id := "lender-2", baseUrl := "https://two" }]

def sampleOutside : Outside where
  bearerToken := .ok "token-1"
  participants _ := .ok sampleNetwork
  lender _ post :=
    if post.url = "https://two/v4.0.0alpha/loanApplications/createLoanRequest" then
      .ok { statusCode := 200, json := .ok (.obj [("traceId", .str "trace-1")]) }
    else .error "ConnectError"
  heartbeat _ _ _ := .error "ConnectError"

def sampleClient : OcenNetworkClient where
  modelDumpJson _ := "\x7b\x7d"
  sign body := body

example : ((sampleClient.submitLoanApplication sampleRequest).run sampleOutside.answers []).2 =
    .ok [{ traceId := "trace-1" }] := rfl

theorem submitLoanApplication_fansOut_sample : ∃ rounds, FansOut sampleRequest
    { content := "\x7b\x7d", token := "token-1", signature := "\x7b\x7d" } sampleNetwork.lenders rounds
    ((sampleClient.submitLoanApplication sampleRequest).run sampleOutside.answers []) :=
  submitLoanApplication_fansOut sampleClient sampleRequest sampleOutside "token-1" sampleNetwork rfl rfl

end OcenPlatform.Ocen.Journey
