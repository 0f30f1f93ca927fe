import OcenPlatform.Durable.Offsets
import OcenPlatform.FrappeSync.WebhookClient

/-! The consumer that forwards events to Frappe. The offset of what it has polled is committed
behind its back, and what it holds is gone when it crashes. -/

namespace OcenPlatform.FrappeSync

open Durable

def eventsToForward : List String :=
  ["loan.application_created", "loan.decision_evaluated", "loan.submitted_to_lender",
    "loan.offer_received", "loan.offer_accepted", "loan.disbursed", "loan.repayment_observed",
    "loan.closed", "loan.rejected", "vendor.onboarded", "vendor.invited", "vendor.activated",
    "anchor.onboarded", "ops.hold_applied", "ops.hold_released", "ops.flag_added", "ops.escalated"]

/-- `event_type in EVENTS_TO_FORWARD`. Lists and dicts cannot be looked up. -/
def toForward : Json → Except String (Option String)
  | .str eventType => .ok (if eventType ∈ eventsToForward then some eventType else none)
  | .arr _ | .obj _ => .error "TypeError"
  | _ => .ok none

/-- The type and the event, if a message is one to forward. `value` is its JSON, or what decoding
it raises. -/
def forwards (value : Except String Json) : Except String (Option (String × Json)) := do
  let event ← value
  let eventType ← toForward (← event.get "event_type" (.str ""))
  return eventType.map (·, event)

/-- The `except` branches. -/
def errorLine (error : String) : Line :=
  if error = "JSONDecodeError" then .invalidEventJson else .eventProcessingError

/-- The line for an event that was not delivered. -/
def deadLetterLine (eventType : String) (event : Json) : Line :=
  match event.get "event_id" .null with
  | .ok eventId => .webhookDeadLetter eventType eventId
  | .error error => errorLine error

/-! ## The stream and its consumer -/

/-- What happens to a message. A restart can pass over the message that a crash has interrupted;
the entry has the commit of the partition. -/
inductive Entry (ρ : Type) where
  | polled (p : ρ) (o : Nat)
  | logged (p : ρ) (o : Nat) (line : Line)
  | passedOver (p : ρ) (o : Nat) (committed : Option Nat)

def Entry.message {ρ : Type} : Entry ρ → ρ × Nat
  | .polled p o | .logged p o _ | .passedOver p o _ => (p, o)

/-- `down` has the message that was being delivered at a crash. -/
inductive Phase (ρ : Type) where
  | down (left : Option (ρ × Nat))
  | idle
  | delivering (p : ρ) (o : Nat) (eventType : String) (event : Json) (attempt : Nat)

structure Sync (ρ : Type) where
  log : ρ → List (Except String Json)
  offsets : Offsets ρ
  running : Bool := false
  phase : Phase ρ := .down none
  accepted : List Webhook := []
  trace : List (Entry ρ) := []

/-- What `consumer.poll` returns: `None`, a message with an error, or a message of a partition. -/
inductive Poll (ρ : Type) where
  | nothing
  | kafkaError
  | message (p : ρ)

/-- `pass` is a pass of the loop up to the delivery, `stop` the signal handler. -/
inductive SyncOp (ρ : Type) where
  | produce (p : ρ) (value : Except String Json)
  | commit (p : ρ) (o : Nat)
  | start
  | pass (poll : Poll ρ)
  | attempt (a : Attempt)
  | stop
  | crash

namespace Sync

variable {ρ : Type}

abbrev ends (s : Sync ρ) (p : ρ) : Nat := (s.log p).length

/-- No event, no commit and no consumer yet. -/
def init : Sync ρ where
  log _ := []
  offsets := { committed := fun _ => none, first := fun _ => 0, position := fun _ => 0 }

/-- The message that a crash interrupted, if the new session is past it. -/
def passedOver (s : Sync ρ) (offsets : Offsets ρ) : Option (ρ × Nat) → List (Entry ρ)
  | none => []
  | some (p, o) => if o < offsets.position p then [.passedOver p o (s.offsets.committed p)] else []

section Steps

variable [DecidableEq ρ]

/-- A message has been polled. -/
def receive (s : Sync ρ) (p : ρ) : Sync ρ :=
  let o := s.offsets.position p
  match (s.log p)[o]? with
  | none => s
  | some value =>
    let s := { s with offsets := s.offsets.poll p, trace := s.trace ++ [.polled p o] }
    match forwards value with
    | .ok none => s
    | .ok (some (eventType, event)) => { s with phase := .delivering p o eventType event 0 }
    | .error error => { s with trace := s.trace ++ [Entry.logged p o (errorLine error)] }

/-- A round of `deliver`, and what the loop does with its result. -/
def deliver (client : FrappeWebhookClient) (s : Sync ρ) (p : ρ) (o : Nat) (eventType : String)
    (event : Json) (attempt : Nat) (a : Attempt) : Sync ρ :=
  let (lines, result) := deliverRound eventType attempt a
  let s := { s with trace := s.trace ++ lines.map (Entry.logged p o) }
  match result with
  | none => { s with phase := .delivering p o eventType event (attempt + 1) }
  | some (.ok true) =>
    { s with phase := .idle, accepted := s.accepted ++ [client.webhook eventType event] }
  | some (.ok false) =>
    { s with phase := .idle, trace := s.trace ++ [Entry.logged p o (deadLetterLine eventType event)] }
  | some (.error error) =>
    { s with phase := .idle, trace := s.trace ++ [Entry.logged p o (errorLine error)] }

/-- One step. What cannot happen in this state is dropped. -/
def step (client : FrappeWebhookClient) (s : Sync ρ) : SyncOp ρ → Sync ρ
  | .produce p value => { s with log := Function.update s.log p (s.log p ++ [value]) }
  | .commit p o => { s with offsets := s.offsets.commit p o }
  | .start =>
    match s.phase with
    | .down left =>
      let offsets := s.offsets.restart s.ends
      { s with
        offsets
        running := true
        phase := .idle
        trace := s.trace ++ s.passedOver offsets left }
    | _ => s
  | .pass poll =>
    match s.phase, s.running, poll with
    | .idle, false, _ => { s with phase := .down none }
    | .idle, true, .message p => s.receive p
    | _, _, _ => s
  | .attempt a =>
    match s.phase with
    | .delivering p o eventType event attempt => s.deliver client p o eventType event attempt a
    | _ => s
  | .stop => { s with running := false }
  | .crash =>
    match s.phase with
    | .down _ => s
    | .idle => { s with phase := .down none }
    | .delivering p o _ _ _ => { s with phase := .down (some (p, o)) }

def run (client : FrappeWebhookClient) (ops : List (SyncOp ρ)) : Sync ρ :=
  ops.foldl (step client) init

end Steps

end Sync

end OcenPlatform.FrappeSync
