import OcenPlatform.Encoding.JsonWrite
import OcenPlatform.Encoding.TextFile

/-! The events of the trade stream and their producer. The scan for personal data is a parameter, and
so is the way in which numbers are written. -/

namespace OcenPlatform.Events

open JsonText

/-! ## Events -/

inductive EventType where
  | anchorOnboarded
  | vendorOnboarded
  | vendorGstinValidated
  | repaymentRoutingActivated
  | invoiceCaptured
  | invoiceIrnValidated
  | invoiceImsStatusUpdated
  | invoiceKind1Attested
  | loanApplicationCreated
  | loanAaConsentRequested
  | loanAaDataReceived
  | loanDecisionEvaluated
  | loanDerivedComputed
  | loanLenderMatched
  | loanSubmittedToLender
  | loanOfferReceived
  | loanOfferAccepted
  | loanDisbursed
  | loanRepaymentObserved
  | loanClosed
  | loanRejected
  | opsHoldApplied
  | opsHoldReleased
  | opsFlagAdded
  | opsEscalated
  | vendorInvited
  | vendorActivated
  | anchorRoutingUpdated
  | ddpPackageIssued
  | ddpVcIssued
  | dpdpConsentChecked
  | dpdpConsentDenied
  | dpdpConsentRevoked
  | dpdpDsrSubmitted
  | dpdpDsrFulfilled
  | dpdpErasureCompleted
  | dpdpBreachDetected
  | dpdpBreachNotified
  | dpdpRetentionEnforced
  deriving DecidableEq, Repr

def EventType.value : EventType → String
  | .anchorOnboarded => "anchor.onboarded"
  | .vendorOnboarded => "vendor.onboarded"
  | .vendorGstinValidated => "vendor.gstin_validated"
  | .repaymentRoutingActivated => "anchor.repayment_routing_activated"
  | .invoiceCaptured => "invoice.captured"
  | .invoiceIrnValidated => "invoice.irn_validated"
  | .invoiceImsStatusUpdated => "invoice.ims_status_updated"
  | .invoiceKind1Attested => "invoice.kind1_attested"
  | .loanApplicationCreated => "loan.application_created"
  | .loanAaConsentRequested => "loan.aa_consent_requested"
  | .loanAaDataReceived => "loan.aa_data_received"
  | .loanDecisionEvaluated => "loan.decision_evaluated"
  | .loanDerivedComputed => "loan.derived_computed"
  | .loanLenderMatched => "loan.lender_matched"
  | .loanSubmittedToLender => "loan.submitted_to_lender"
  | .loanOfferReceived => "loan.offer_received"
  | .loanOfferAccepted => "loan.offer_accepted"
  | .loanDisbursed => "loan.disbursed"
  | .loanRepaymentObserved => "loan.repayment_observed"
  | .loanClosed => "loan.closed"
  | .loanRejected => "loan.rejected"
  | .opsHoldApplied => "ops.hold_applied"
  | .opsHoldReleased => "ops.hold_released"
  | .opsFlagAdded => "ops.flag_added"
  | .opsEscalated => "ops.escalated"
  | .vendorInvited => "vendor.invited"
  | .vendorActivated => "vendor.activated"
  | .anchorRoutingUpdated => "anchor.routing_updated"
  | .ddpPackageIssued => "ddp.package_issued"
  | .ddpVcIssued => "ddp.vc_issued"
  | .dpdpConsentChecked => "dpdp.consent_checked"
  | .dpdpConsentDenied => "dpdp.consent_denied"
  | .dpdpConsentRevoked => "dpdp.consent_revoked"
  | .dpdpDsrSubmitted => "dpdp.dsr_submitted"
  | .dpdpDsrFulfilled => "dpdp.dsr_fulfilled"
  | .dpdpErasureCompleted => "dpdp.erasure_completed"
  | .dpdpBreachDetected => "dpdp.breach_detected"
  | .dpdpBreachNotified => "dpdp.breach_notified"
  | .dpdpRetentionEnforced => "dpdp.retention_enforced"

structure EventMetadata where
  sourceService : String := ""
  traceId : Option String := none
  workflowId : Option String := none
  workflowRunId : Option String := none
  actorId : Option String := none
  idempotencyKey : Option String := none

/-- `eventId` and `occurredAt`, an ISO text, have their defaults from outside. -/
structure TradeEvent where
  eventId : Uuid
  eventType : EventType
  schemaVersion : String := "1.0.0"
  entityType : String
  entityId : Uuid
  correlationId : Option Uuid := none
  payload : Dict := []
  metadata : EventMetadata := {}
  occurredAt : String

def optional : Option String → Json
  | some s => .str s
  | none => .null

def EventMetadata.modelDump (m : EventMetadata) : Dict :=
  [("source_service", .str m.sourceService), ("trace_id", optional m.traceId),
    ("workflow_id", optional m.workflowId), ("workflow_run_id", optional m.workflowRunId),
    ("actor_id", optional m.actorId), ("idempotency_key", optional m.idempotencyKey)]

namespace TradeEvent

def topicKey (event : TradeEvent) : String := event.entityType ++ ":" ++ event.entityId.str

/-- `model_dump(mode="json")`. -/
def modelDump (event : TradeEvent) : Dict :=
  [("event_id", .str event.eventId.str), ("event_type", .str event.eventType.value),
    ("schema_version", .str event.schemaVersion), ("entity_type", .str event.entityType),
    ("entity_id", .str event.entityId.str),
    ("correlation_id", optional (event.correlationId.map Uuid.str)), ("payload", .obj event.payload),
    ("metadata", .obj event.metadata.modelDump), ("occurred_at", .str event.occurredAt)]

end TradeEvent

/-! ## A factory -/

/-- `uuid4()` and `datetime.utcnow()`. -/
structure Ambient where
  uuid4 : Uuid
  utcnow : String

def loanDecisionEvaluated (loanApplicationId : Uuid) (gate : String) (outcome : Json)
    (rulesetHash inputHash : String) (receiptId : Uuid) (metadata : EventMetadata) (env : Ambient) :
    TradeEvent where
  eventId := env.uuid4
  eventType := .loanDecisionEvaluated
  entityType := "loan"
  entityId := loanApplicationId
  correlationId := some loanApplicationId
  payload := [("gate", .str gate), ("outcome", outcome), ("ruleset_hash", .str rulesetHash),
    ("input_hash", .str inputHash), ("receipt_id", .str receiptId.str)]
  metadata := metadata
  occurredAt := env.utcnow

/-! ## The producer -/

def tradeEventsTopic : String := "ocen.trade-events.v1"

/-- What `Producer.produce` is called with. -/
structure Message where
  topic : String
  key : List UInt8
  value : List UInt8
  headers : PyDict String (List UInt8)

/-- `scanPayload` replaces personal data by markers. -/
structure EventProducer where
  scanPayload : Dict → Dict
  number : Rat → List Char

namespace EventProducer

variable (producer : EventProducer)

/-- What is published of an event. -/
def eventData (event : TradeEvent) : Dict :=
  PyDict.set event.modelDump "payload" (.obj (producer.scanPayload event.payload))

def publish (event : TradeEvent) : Message where
  topic := tradeEventsTopic
  key := Hashlib.encode event.topicKey
  value := Hashlib.encode ((Style.orjson producer.number).dumps (.obj (producer.eventData event)))
  headers := [("event_type", Hashlib.encode event.eventType.value),
    ("schema_version", Hashlib.encode event.schemaVersion),
    ("correlation_id", Hashlib.encode ((event.correlationId.map Uuid.str).getD ""))]

end EventProducer

/-- `json.loads(msg.value().decode("utf-8"))`. -/
def decodeValue (float : String → Rat) (bytes : List UInt8) : Except String Json := do
  let text ← TextFile.decode bytes
  (loadsJson float text).mapError fun _ => "JSONDecodeError"

/-! ## What is read back -/

section Producer

variable {producer : EventProducer} {float : String → Rat} {takes : Rat → Prop} {event event' : TradeEvent}

/-- Events with one key are about one entity: its id has always the same length. -/
theorem topicKey_inj : event.topicKey = event'.topicKey ↔
    event.entityType = event'.entityType ∧ event.entityId = event'.entityId := by
  constructor
  · intro h
    have hlist := congrArg String.toList h
    simp only [TradeEvent.topicKey, Uuid.str, String.toList_append, String.toList_ofList] at hlist
    obtain ⟨htype, hid⟩ := List.append_inj' hlist (by rw [Uuid.length_chars, Uuid.length_chars])
    exact ⟨String.toList_injective (List.append_cancel_right htype), Uuid.chars_inj hid⟩
  · rintro ⟨htype, hid⟩
    rw [TradeEvent.topicKey, TradeEvent.topicKey, htype, hid]

theorem plain_optional (s : Option String) : Plain takes (optional s) := by
  cases s with
  | none => exact .null
  | some s => exact .str s

/-- But for its payload an event is made of texts. -/
theorem plain_eventData (hpayload : Plain takes (.obj (producer.scanPayload event.payload))) :
    Plain takes (.obj (producer.eventData event)) := by
  have hkeys : ((producer.eventData event).map Prod.fst) = ["event_id", "event_type",
    "schema_version", "entity_type", "entity_id", "correlation_id", "payload", "metadata",
    "occurred_at"] := rfl
  refine .obj (by rw [hkeys]; decide) fun p hp => ?_
  simp only [EventProducer.eventData, TradeEvent.modelDump, PyDict.set, String.reduceEq, if_false,
    if_true, List.mem_cons, List.not_mem_nil, or_false] at hp
  rcases hp with rfl | rfl | rfl | rfl | rfl | rfl | rfl | rfl | rfl
  · exact .str _
  · exact .str _
  · exact .str _
  · exact .str _
  · exact .str _
  · exact plain_optional _
  · exact hpayload
  · have hkeys : event.metadata.modelDump.map Prod.fst = ["source_service", "trace_id", "workflow_id",
      "workflow_run_id", "actor_id", "idempotency_key"] := rfl
    refine .obj (by rw [hkeys]; decide) fun p hp => ?_
    simp only [EventMetadata.modelDump, List.mem_cons, List.not_mem_nil, or_false] at hp
    rcases hp with rfl | rfl | rfl | rfl | rfl | rfl
    · exact .str _
    all_goals exact plain_optional _
  · exact .str _

theorem decodeValue_encode {text : String} {v : Json} (h : loadsJson float text = .ok v) :
    decodeValue float (Hashlib.encode text) = .ok v := by
  simp only [decodeValue, TextFile.decode_eq_ok_iff.mpr rfl, bind, Except.bind, h, Except.mapError]

/-- **What is published of an event, a consumer decodes.** -/
theorem decodeValue_publish (hnumber : Numbers producer.number float takes)
    (hpayload : Plain takes (.obj (producer.scanPayload event.payload))) :
    decodeValue float (producer.publish event).value = .ok (.obj (producer.eventData event)) := by
  have hread := loadsJson_dumps (orjson_lawful hnumber) (plain_eventData hpayload)
  rw [EventProducer.publish, decodeValue_encode hread]

end Producer

end OcenPlatform.Events
