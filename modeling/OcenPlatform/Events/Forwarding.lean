import OcenPlatform.Events.TradeEvent
import OcenPlatform.FrappeSync.Order

/-! Published events on their way to Frappe: in which order the consumer gets to them, and what
Frappe reads in a webhook. -/

namespace OcenPlatform.Events

open FrappeSync JsonText
open FrappeSync.Sync (run produced)

section Definitions

variable {ρ : Type} (partition : List UInt8 → ρ) (float : String → Rat) (producer : EventProducer)

/-- An event is published: its key chooses the partition, and what the consumer decodes of its value
is the message. -/
def publishOp (event : TradeEvent) : SyncOp ρ :=
  .produce (partition (producer.publish event).key)
    (decodeValue float (producer.publish event).value)

end Definitions

section Order

variable {ρ : Type} [DecidableEq ρ]

/-- **The events of an entity come to the consumer in the order in which they were published**,
through crashes, restarts and commits: once it has polled a later one, it polls no earlier one that
it has left out. -/
theorem entity_in_order (partition : List UInt8 → ρ) (float : String → Rat) (producer : EventProducer)
    (client : FrappeWebhookClient) (before between after : List (SyncOp ρ)) (event event' : TradeEvent)
    (htype : event.entityType = event'.entityType) (hid : event.entityId = event'.entityId) :
    let p := partition (producer.publish event).key
    let final := run client (before ++ publishOp partition float producer event :: between ++
      publishOp partition float producer event' :: after)
    let o := (produced p before).length
    let o' := o + 1 + (produced p between).length
    (final.log p)[o]? = some (decodeValue float (producer.publish event).value) ∧
    (final.log p)[o']? = some (decodeValue float (producer.publish event').value) ∧
    ∀ front back, final.trace = front ++ .polled p o' :: back →
      Entry.polled p o ∈ front ∨ Entry.polled p o ∉ back := by
  have hkey : (producer.publish event').key = (producer.publish event).key := by
    simp only [EventProducer.publish, topicKey_inj.mpr ⟨htype, hid⟩]
  have hop : publishOp partition float producer event' =
      .produce (partition (producer.publish event).key)
        (decodeValue float (producer.publish event').value) := by
    rw [publishOp, hkey]
  rw [hop]
  exact Sync.produced_in_order client before between after _ _ _

end Order

/-! ## What Frappe reads -/

section Webhooks

variable {ρ : Type} {client : FrappeWebhookClient} {s : Sync ρ}

/-- What Frappe has accepted was on the stream, as an event to forward. -/
def Sourced (client : FrappeWebhookClient) (s : Sync ρ) : Prop :=
  ∀ w ∈ s.accepted, ∃ p, ∃ value ∈ s.log p, ∃ eventType event,
    forwards value = .ok (some (eventType, event)) ∧ w = client.webhook eventType event

theorem Sourced.mono {s' : Sync ρ} (h : Sourced client s) (haccepted : s'.accepted = s.accepted)
    (hlog : ∀ p, s.log p ⊆ s'.log p) : Sourced client s' := by
  intro w hw
  obtain ⟨p, value, hvalue, hrest⟩ := h w (haccepted ▸ hw)
  exact ⟨p, value, hlog p hvalue, hrest⟩

/-- A round of a delivery: nothing more is accepted than the message in delivery. -/
theorem deliver_accepted (client : FrappeWebhookClient) (s : Sync ρ) (p : ρ) (o : Nat)
    (eventType : String) (event : Json) (attempt : Nat) (a : Attempt) :
    (s.deliver client p o eventType event attempt a).accepted = s.accepted ∨
    (s.deliver client p o eventType event attempt a).accepted =
      s.accepted ++ [client.webhook eventType event] := by
  unfold Sync.deliver
  rcases deliverRound_cases eventType attempt a with
    ⟨status, -, hround⟩ | ⟨line, -, ⟨-, hround⟩ | ⟨-, hround⟩⟩ | ⟨error, hround⟩ <;> rw [hround]
  · exact .inr rfl
  · exact .inl rfl
  · exact .inl rfl
  · exact .inl rfl

variable [DecidableEq ρ]

/-- **Step lemma.** -/
theorem sourced_step (hinv : s.Inv client) (h : Sourced client s) (op : SyncOp ρ) :
    Sourced client (s.step client op) := by
  have hmoves := Sync.moves client s op
  generalize s.step client op = s' at hmoves ⊢
  cases hmoves with
  | produced q value =>
    refine h.mono rfl fun p => ?_
    by_cases hp : p = q
    · subst hp
      simp
    · simp [hp]
  | received _ hreceived =>
    cases hreceived with
    | nothing => exact h
    | ignored => exact h.mono rfl fun _ => List.Subset.refl _
    | taken => exact h.mono rfl fun _ => List.Subset.refl _
  | @delivered p o eventType event attempt a hphase =>
    have hlog := Sync.deliver_log client s p o eventType event attempt a
    rcases deliver_accepted client s p o eventType event attempt a with hsame | hnew
    · exact h.mono hsame fun p => by rw [hlog]; exact List.Subset.refl _
    · intro w hw
      rw [hnew] at hw
      rw [hlog]
      rcases List.mem_append.mp hw with hw | hw
      · exact h w hw
      · obtain ⟨value, hvalue, hforwards⟩ :=
          (hinv.delivering p o eventType event attempt hphase).message
        exact ⟨p, value, List.mem_of_getElem? hvalue, eventType, event, hforwards,
          List.mem_singleton.mp hw⟩
  | _ => exact h.mono rfl fun _ => List.Subset.refl _

/-- **Run lemma.** -/
theorem sourced_run (client : FrappeWebhookClient) (ops : List (SyncOp ρ)) :
    Sourced client (run client ops) := by
  unfold run
  exact (List.foldlRecOn (motive := fun s : Sync ρ => s.Inv client ∧ Sourced client s) ops
    (Sync.step client) ⟨Sync.inv_init, nofun⟩
    fun s hs op _ => ⟨Sync.inv_step hs.1 op, sourced_step hs.1 hs.2 op⟩).2

end Webhooks

section Reading

variable {float : String → Rat} {takes : Rat → Prop} {producer : EventProducer} {event : TradeEvent}

/-- A message is one to forward if its event's type is. -/
theorem forwards_publish (hnumber : Numbers producer.number float takes)
    (hpayload : Plain takes (.obj (producer.scanPayload event.payload))) :
    forwards (decodeValue float (producer.publish event).value) =
      .ok (if event.eventType.value ∈ eventsToForward then
        some (event.eventType.value, .obj (producer.eventData event)) else none) := by
  rw [decodeValue_publish hnumber hpayload]
  have hget : (Json.obj (producer.eventData event)).get "event_type" (.str "") =
      .ok (.str event.eventType.value) := rfl
  simp only [forwards, bind, Except.bind, hget, toForward, pure, Except.pure]
  split <;> rfl

/-- The body that Frappe gets. -/
def webhookBody (producer : EventProducer) (event : TradeEvent) : Json :=
  .obj [("event_type", .str event.eventType.value), ("payload", .obj (producer.eventData event))]

theorem plain_webhookBody (hpayload : Plain takes (.obj (producer.scanPayload event.payload))) :
    Plain takes (webhookBody producer event) := by
  have hkeys : ([("event_type", Json.str event.eventType.value),
      ("payload", .obj (producer.eventData event))].map Prod.fst).Nodup := by
    simp
  refine .obj hkeys fun p hp => ?_
  rcases List.mem_pair.mp hp with rfl | rfl
  · exact .str _
  · exact plain_eventData hpayload

/-- Both branches of `_build_headers` sign the body. -/
theorem signature_webhook (client : FrappeWebhookClient) (eventType : String) (payload : Json) :
    PyDict.find? (client.webhook eventType payload).headers "X-Platform-Signature" =
      some (Hashlib.hmacHex (Hashlib.encode client.webhookSecret)
        (client.webhook eventType payload).content) := by
  simp only [FrappeWebhookClient.webhook, FrappeWebhookClient.buildHeaders]
  split
  · rw [PyDict.find?_set_ne (by decide)]
    rfl
  · rfl

/-- **Nothing is changed or made up between the services and Frappe**: every webhook that Frappe has
accepted is signed, and reads as a published event, whose type is one to forward. -/
theorem accepted_published {ρ : Type} [DecidableEq ρ] (client : FrappeWebhookClient)
    (number : Rat → List Char) (events : List TradeEvent) (ops : List (SyncOp ρ))
    (hnumber : Numbers producer.number float takes) (hnumber' : Numbers number float takes)
    (hdumps : client.dumps = (Style.json number).dumps)
    (hplain : ∀ event ∈ events, Plain takes (.obj (producer.scanPayload event.payload)))
    (hops : ∀ p value, .produce p value ∈ ops →
      ∃ event ∈ events, value = decodeValue float (producer.publish event).value) :
    ∀ w ∈ (run client ops).accepted, ∃ event ∈ events, event.eventType.value ∈ eventsToForward ∧
      decodeValue float w.content = .ok (webhookBody producer event) ∧
      PyDict.find? w.headers "X-Platform-Signature" =
        some (Hashlib.hmacHex (Hashlib.encode client.webhookSecret) w.content) := by
  intro w hw
  obtain ⟨p, value, hvalue, eventType, data, hforwards, rfl⟩ := sourced_run client ops w hw
  rw [Sync.log_run, Sync.mem_produced] at hvalue
  obtain ⟨event, hevent, hmessage⟩ := hops p value hvalue
  have hpayload := hplain event hevent
  rw [hmessage, forwards_publish hnumber hpayload, Except.ok.injEq, Option.ite_none_right_eq_some,
    Option.some.injEq, Prod.mk.injEq] at hforwards
  obtain ⟨htype, rfl, rfl⟩ := hforwards
  refine ⟨event, hevent, htype, ?_, signature_webhook client _ _⟩
  have hcontent : (client.webhook event.eventType.value (.obj (producer.eventData event))).content =
      Hashlib.encode ((Style.json number).dumps (webhookBody producer event)) := by
    rw [← hdumps]
    rfl
  have hread := loadsJson_dumps (json_lawful hnumber') (plain_webhookBody hpayload)
  rw [hcontent, decodeValue_encode hread]

end Reading

/-! A producer whose scan changes nothing, and a loan that is decided and then closed. -/

def sampleProducer : EventProducer where
  scanPayload payload := payload
  number := writeInt

def sampleClient : FrappeWebhookClient where
  dumps := (Style.json writeInt).dumps

def sampleLoan : Uuid := ⟨0x12345678123456781234567812345678⟩

def sampleEvaluated : TradeEvent :=
  loanDecisionEvaluated sampleLoan "d0" (.str "pass") "none" "none" ⟨1⟩ {} ⟨⟨2⟩, "2026-01-01T00:00:00"⟩

def sampleClosed : TradeEvent where
  eventId := ⟨3⟩
  eventType := .loanClosed
  entityType := "loan"
  entityId := sampleLoan
  payload := [("amount", .num 150000), ("note", .str "café \"x\"")]
  occurredAt := "2026-01-02T00:00:00"

/-! The first event is interrupted by a crash, and the commit is behind it. -/

def sampleBefore : List (SyncOp Unit) := [.start]

def sampleBetween : List (SyncOp Unit) := [.pass (.message ()), .commit () 0, .crash, .start]

def sampleAfter : List (SyncOp Unit) := [.pass (.message ()), .attempt (.response 200)]

/-- The two events of the loan. -/
theorem entity_in_order_sample :
    let p := ()
    let final := run sampleClient (sampleBefore ++
      publishOp (fun _ => ()) (fun _ => 0) sampleProducer sampleEvaluated :: sampleBetween ++
      publishOp (fun _ => ()) (fun _ => 0) sampleProducer sampleClosed :: sampleAfter)
    let o := (produced p sampleBefore).length
    let o' := o + 1 + (produced p sampleBetween).length
    (final.log p)[o]? = some (decodeValue (fun _ => 0) (sampleProducer.publish sampleEvaluated).value) ∧
    (final.log p)[o']? = some (decodeValue (fun _ => 0) (sampleProducer.publish sampleClosed).value) ∧
    ∀ front back, final.trace = front ++ .polled p o' :: back →
      Entry.polled p o ∈ front ∨ Entry.polled p o ∉ back :=
  entity_in_order (fun _ => ()) (fun _ => 0) sampleProducer sampleClient sampleBefore sampleBetween
    sampleAfter sampleEvaluated sampleClosed rfl rfl

/-- The same run, step by step. -/
def sampleRun : List (SyncOp Unit) :=
  [.start, publishOp (fun _ => ()) (fun _ => 0) sampleProducer sampleEvaluated, .pass (.message ()),
    .commit () 0, .crash, .start,
    publishOp (fun _ => ()) (fun _ => 0) sampleProducer sampleClosed, .pass (.message ()),
    .attempt (.response 200)]

theorem plain_samples : ∀ event ∈ [sampleEvaluated, sampleClosed],
    Plain (fun q => q.den = 1) (.obj (sampleProducer.scanPayload event.payload)) := by
  intro event hevent
  rcases List.mem_pair.mp hevent with rfl | rfl
  · refine .obj (by decide) fun p hp => ?_
    simp only [sampleProducer, sampleEvaluated, loanDecisionEvaluated, List.mem_cons, List.not_mem_nil,
      or_false] at hp
    rcases hp with rfl | rfl | rfl | rfl | rfl <;> exact .str _
  · refine .obj (by decide) fun p hp => ?_
    rcases List.mem_pair.mp hp with rfl | rfl
    · exact .num (by decide)
    · exact .str _

theorem accepted_sampleOps {value value' : Except String Json} {found : String × Json}
    {eventType : String} {event : Json} (h : forwards value = .ok (some found))
    (h' : forwards value' = .ok (some (eventType, event))) :
    (run sampleClient [.start, .produce () value, .pass (.message ()), .commit () 0, .crash, .start,
      .produce () value', .pass (.message ()), .attempt (.response 200)]).accepted =
        [sampleClient.webhook eventType event] := by
  simp [run, Sync.step, Sync.init, Sync.receive, Sync.deliver, deliverRound, h, h',
    Durable.Offsets.restart, Durable.Offsets.poll, Durable.Offsets.commit]

/-- The webhook of the closed loan, and what Frappe reads in it. -/
theorem accepted_published_sample :
    (run sampleClient sampleRun).accepted =
      [sampleClient.webhook "loan.closed" (.obj (sampleProducer.eventData sampleClosed))] ∧
    ∀ w ∈ (run sampleClient sampleRun).accepted,
      ∃ event ∈ [sampleEvaluated, sampleClosed], event.eventType.value ∈ eventsToForward ∧
        decodeValue (fun _ => 0) w.content = .ok (webhookBody sampleProducer event) ∧
        PyDict.find? w.headers "X-Platform-Signature" =
          some (Hashlib.hmacHex (Hashlib.encode "dev-webhook-secret") w.content) := by
  constructor
  · have hnumber : Numbers sampleProducer.number (fun _ => 0) fun q => q.den = 1 := numbers_writeInt _
    have hevaluated := forwards_publish hnumber (plain_samples sampleEvaluated (.head _))
    have hclosed := forwards_publish hnumber (plain_samples sampleClosed (.tail _ (.head _)))
    rw [if_pos (by decide)] at hevaluated hclosed
    exact accepted_sampleOps hevaluated hclosed
  · refine accepted_published sampleClient writeInt [sampleEvaluated, sampleClosed] sampleRun
      (numbers_writeInt _) (numbers_writeInt _) rfl plain_samples fun p value hop => ?_
    simp only [sampleRun, publishOp, List.mem_cons, List.not_mem_nil, or_false, reduceCtorEq,
      false_or, SyncOp.produce.injEq] at hop
    rcases hop with ⟨-, hvalue⟩ | ⟨-, hvalue⟩
    · exact ⟨sampleEvaluated, .head _, hvalue⟩
    · exact ⟨sampleClosed, .tail _ (.head _), hvalue⟩

end OcenPlatform.Events
