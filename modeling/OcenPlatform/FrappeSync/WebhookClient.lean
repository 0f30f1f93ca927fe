import Mathlib.Data.List.DropRight
import OcenPlatform.Encoding.Hashlib
import OcenPlatform.Json

/-! The client that delivers signed webhooks to Frappe, one attempt at a time. -/

namespace OcenPlatform.FrappeSync

def maxRetries : Nat := 5

/-- What the client and the consumer log. -/
inductive Line where
  | webhookDelivered (eventType : String) (status attempt : Nat)
  | webhookNon2xx (eventType : String) (status attempt : Nat)
  | webhookRequestError (eventType error : String) (attempt : Nat)
  | webhookDeliveryFailed (eventType : String) (maxRetries : Nat)
  | webhookDeadLetter (eventType : String) (eventId : Json)
  | invalidEventJson
  | eventProcessingError

/-- A line about an attempt that failed. -/
def Line.isFailure : Line → Bool
  | .webhookNon2xx _ status _ => 300 ≤ status
  | .webhookRequestError _ _ _ => true
  | _ => false

structure Webhook where
  url : String
  content : List UInt8
  headers : PyDict String String

/-- Its configuration, and `json.dumps`. -/
structure FrappeWebhookClient where
  frappeUrl : String := "http://localhost:8080"
  apiKey : String := ""
  apiSecret : String := ""
  webhookSecret : String := "dev-webhook-secret"
  dumps : Json → String

/-- How an attempt to post ends. `raised` is for what is not an `httpx.RequestError`. -/
inductive Attempt where
  | response (statusCode : Nat)
  | requestError (error : String)
  | raised (error : String)

namespace FrappeWebhookClient

variable (client : FrappeWebhookClient)

def endpoint : String :=
  String.ofList (client.frappeUrl.toList.rdropWhile (· == '/')) ++
    "/api/method/ocen_ops.api.receive_platform_webhook"

def buildHeaders (payloadBytes : List UInt8) : PyDict String String :=
  let signature := Hashlib.hmacHex (Hashlib.encode client.webhookSecret) payloadBytes
  let headers := [("Content-Type", "application/json"), ("X-Platform-Signature", signature)]
  if client.apiKey ≠ "" ∧ client.apiSecret ≠ "" then
    PyDict.set headers "Authorization" ("token " ++ client.apiKey ++ ":" ++ client.apiSecret)
  else headers

/-- What every attempt posts. -/
def webhook (eventType : String) (payload : Json) : Webhook :=
  let body := client.dumps (.obj [("event_type", .str eventType), ("payload", payload)])
  { url := client.endpoint, content := Hashlib.encode body,
    headers := client.buildHeaders (Hashlib.encode body) }

end FrappeWebhookClient

/-- A round of the loop in `deliver`: its lines, and what `deliver` returns or raises unless the
loop goes on. -/
def deliverRound (eventType : String) (attempt : Nat) :
    Attempt → List Line × Option (Except String Bool)
  | .response status =>
    if status < 300 then ([.webhookDelivered eventType status (attempt + 1)], some (.ok true))
    else failed (.webhookNon2xx eventType status (attempt + 1))
  | .requestError error => failed (.webhookRequestError eventType error (attempt + 1))
  | .raised error => ([], some (.error error))
where
  failed (line : Line) : List Line × Option (Except String Bool) :=
    if attempt + 1 < maxRetries then ([line], none)
    else ([line, .webhookDeliveryFailed eventType maxRetries], some (.ok false))

/-- A round delivers, fails, fails for the last time, or raises. -/
theorem deliverRound_cases (eventType : String) (attempt : Nat) (a : Attempt) :
    (∃ status, status < 300 ∧ deliverRound eventType attempt a =
      ([.webhookDelivered eventType status (attempt + 1)], some (.ok true))) ∨
    (∃ line : Line, line.isFailure = true ∧
      ((attempt + 1 < maxRetries ∧ deliverRound eventType attempt a = ([line], none)) ∨
      (maxRetries ≤ attempt + 1 ∧ deliverRound eventType attempt a =
        ([line, .webhookDeliveryFailed eventType maxRetries], some (.ok false))))) ∨
    ∃ error, deliverRound eventType attempt a = ([], some (.error error)) := by
  have hfailed (line : Line) :
      (attempt + 1 < maxRetries ∧ deliverRound.failed eventType attempt line = ([line], none)) ∨
      (maxRetries ≤ attempt + 1 ∧ deliverRound.failed eventType attempt line =
        ([line, .webhookDeliveryFailed eventType maxRetries], some (.ok false))) := by
    unfold deliverRound.failed
    by_cases hlast : attempt + 1 < maxRetries
    · exact .inl ⟨hlast, if_pos hlast⟩
    · exact .inr ⟨Nat.not_lt.mp hlast, if_neg hlast⟩
  cases a with
  | response status =>
    by_cases hstatus : status < 300
    · exact .inl ⟨status, hstatus, if_pos hstatus⟩
    · refine .inr (.inl ⟨.webhookNon2xx eventType status (attempt + 1), ?_, ?_⟩)
      · exact decide_eq_true (Nat.not_lt.mp hstatus)
      · rw [deliverRound, if_neg hstatus]
        exact hfailed _
  | requestError error => exact .inr (.inl ⟨_, rfl, hfailed _⟩)
  | raised error => exact .inr (.inr ⟨error, rfl⟩)

end OcenPlatform.FrappeSync
