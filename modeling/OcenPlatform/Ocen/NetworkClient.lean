import OcenPlatform.Durable.Calls
import OcenPlatform.Origination.Activities

/-! The OCEN network client: `submit_loan_application` as a process of its own, down
to the requests that it sends to the lenders, the registry and the token service. -/

namespace OcenPlatform.Ocen

open Durable
open Origination (Call CreateLoanApplicationRequest EvaluateDecisionInput)

/-! ## Registry -/

structure ParticipantDetail where
  id : String
  baseUrl : String := ""
  deriving DecidableEq

/-- The lenders of a product network, as the registry lists them. -/
structure ProductNetworkDetail where
  lenders : List ParticipantDetail := []

/-! ## Calls -/

structure HeartbeatEvent where
  eventType : String
  productId : String
  productNetworkId : String
  loanApplicationId : String
  responseCode : Nat
  responseMessage : String
  roleId : String

/-- A POST to a lender's `createLoanRequest` endpoint. -/
structure CreateLoanRequest where
  url : String
  content : CreateLoanApplicationRequest
  token : String
  signature : String

/-- What the activities ask of the outside, where the calls of the network client stand
for themselves. The result of a rules evaluation is left open: it is answered like a call. -/
inductive NetworkCall where
  | client (c : Call)
  | evaluateDecision (input : EvaluateDecisionInput)
  | getBearerToken
  | getProductNetworkParticipants (productNetworkId : String)
  | createLoanRequest (lender : ParticipantDetail) (post : CreateLoanRequest)
  | sendEvent (event : HeartbeatEvent)

/-- A lender answers with the trace id of its acknowledgement. -/
@[reducible] def NetworkCall.Reply : NetworkCall → Type
  | .client c => c.Reply
  | .evaluateDecision _ => Json
  | .getBearerToken => String
  | .getProductNetworkParticipants _ => ProductNetworkDetail
  | .createLoanRequest _ _ => String
  | .sendEvent _ => Unit

abbrev NetworkCode (α : Type) := Proc NetworkCall NetworkCall.Reply α

abbrev perform (c : NetworkCall) : NetworkCode c.Reply := .ask c

/-! ## The client -/

/-- Its configuration, and the signature of a request body. -/
structure OcenNetworkClient where
  productId : String := ""
  productNetworkId : String := ""
  sign : CreateLoanApplicationRequest → String

def createLoanRequestPath : String := "/v4.0.0alpha/loanApplications/createLoanRequest"

namespace OcenNetworkClient

variable (client : OcenNetworkClient)

/-- `_emit_heartbeat`, for the one application of the request. What fails in it is only
logged. -/
def emitHeartbeat (request : CreateLoanApplicationRequest) (code : Nat) (message roleId : String) :
    NetworkCode Unit :=
  .tryAsk (.sendEvent {
    eventType := "CREATE_LOAN_APPLICATION_REQUEST"
    productId := client.productId
    productNetworkId := client.productNetworkId
    loanApplicationId := request.loanApplicationId
    responseCode := code
    responseMessage := message
    roleId })

/-- One round of the loop: a lender that fails is reported, and the loop goes on. -/
def submitTo (request : CreateLoanApplicationRequest) (token : String)
    (lender : ParticipantDetail) : NetworkCode (List String) :=
  let post := {
    url := lender.baseUrl ++ createLoanRequestPath
    content := request
    token
    signature := client.sign request }
  (perform (.createLoanRequest lender post)).tryBind fun
    | .ok ack => do
      client.emitHeartbeat request 200 "Success" lender.id
      return [ack]
    | .error e => do
      client.emitHeartbeat request 500 e lender.id
      return []

def submitToAll (request : CreateLoanApplicationRequest) (token : String) :
    List ParticipantDetail → NetworkCode (List String)
  | [] => return []
  | lender :: lenders => do
    let acks ← client.submitTo request token lender
    return acks ++ (← submitToAll request token lenders)

/-- `submit_loan_application`. -/
def submitLoanApplication (request : CreateLoanApplicationRequest) : NetworkCode (List String) := do
  let token ← perform .getBearerToken
  let network ← perform (.getProductNetworkParticipants client.productNetworkId)
  client.submitToAll request token network.lenders

/-- The calls of the activities, with the client's code for its own. -/
def implement : (c : Call) → NetworkCode c.Reply
  | .submitLoanApplication request => client.submitLoanApplication request
  | c => perform (.client c)

/-! ## Whom it sends what -/

theorem submitTo_every {Q : NetworkCall → Prop} {request : CreateLoanApplicationRequest}
    {token : String} {lender : ParticipantDetail} (hevent : ∀ event, Q (.sendEvent event))
    (hpost : ∀ post, post.content = request → Q (.createLoanRequest lender post)) :
    (client.submitTo request token lender).Every Q := by
  apply Proc.every_tryBind (Proc.every_ask (hpost _ rfl))
  intro y
  cases y with
  | ok ack => exact Proc.every_bind (Proc.every_tryAsk (hevent _)) fun _ => trivial
  | error e => exact Proc.every_bind (Proc.every_tryAsk (hevent _)) fun _ => trivial

/-- Every request goes to one of the lenders. -/
theorem submitToAll_every {Q : NetworkCall → Prop} {request : CreateLoanApplicationRequest}
    {token : String} {lenders : List ParticipantDetail} (hevent : ∀ event, Q (.sendEvent event))
    (hpost : ∀ lender ∈ lenders, ∀ post, post.content = request → Q (.createLoanRequest lender post)) :
    (client.submitToAll request token lenders).Every Q := by
  induction lenders with
  | nil => trivial
  | cons lender lenders ih =>
    have hfirst : (client.submitTo request token lender).Every Q :=
      client.submitTo_every hevent (hpost lender (.head _))
    refine Proc.every_bind hfirst fun acks => ?_
    refine Proc.every_bind (ih fun l hl => hpost l (.tail _ hl)) fun _ => trivial

/-- No lender is left out. -/
theorem submitToAll_surely {Q : NetworkCall → Prop} {request : CreateLoanApplicationRequest}
    {token : String} {lenders : List ParticipantDetail} {lender : ParticipantDetail}
    (hlender : lender ∈ lenders) (hpost : ∀ post, Q (.createLoanRequest lender post)) :
    (client.submitToAll request token lenders).Surely Q := by
  induction lenders with
  | nil => cases hlender
  | cons first lenders ih =>
    rcases List.mem_cons.mp hlender with rfl | hrest
    · exact .inl (hpost _)
    · exact Proc.surely_bind_right fun acks => Proc.surely_bind_left (ih hrest) _

/-- All requests of one submission have the same content. -/
theorem submitLoanApplication_every {Q : NetworkCall → Prop}
    {request : CreateLoanApplicationRequest} (htoken : Q .getBearerToken)
    (hregistry : ∀ id, Q (.getProductNetworkParticipants id)) (hevent : ∀ event, Q (.sendEvent event))
    (hpost : ∀ lender post, post.content = request → Q (.createLoanRequest lender post)) :
    (client.submitLoanApplication request).Every Q := by
  refine Proc.every_bind (Proc.every_ask htoken) fun token => ?_
  refine Proc.every_bind (Proc.every_ask (hregistry _)) fun network => ?_
  exact client.submitToAll_every hevent fun lender _ => hpost lender

/-- Calls that are none of the client's are made as they are. -/
theorem implement_every {Q : NetworkCall → Prop} {c : Call} (hc : Q (.client c))
    (hclient : ∀ request, c = .submitLoanApplication request →
      (client.submitLoanApplication request).Every Q) : (client.implement c).Every Q := by
  cases c with
  | submitLoanApplication request => exact hclient request rfl
  | _ => exact Proc.every_ask hc

end OcenNetworkClient

end OcenPlatform.Ocen
