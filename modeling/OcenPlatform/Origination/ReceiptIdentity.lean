import Mathlib.Algebra.Ring.Int.Defs
import Mathlib.Data.Set.Defs
import OcenPlatform.Durable.Calls
import OcenPlatform.Origination.Decision

/-! The receipt identity of a decision that is evaluated again: what the attempts of
`evaluate_decision` publish, on whatever workers they run. -/

namespace OcenPlatform.Origination

open Durable
open Durable.Proc (every_bind every_ofExcept_bind every_tryAsk ofExcept_error_bind ofExcept_ok_bind)

/-! ## Attempts -/

/-- An attempt of the activity and what it has done so far. It can be lost anywhere. -/
structure EvaluationAttempt (input : EvaluateDecisionInput) where
  process : WorkerProcess
  log : OriginationLog
  reached : ∃ p, Reaches (.evaluateDecision input) (Activities.evaluateDecision process input) log p

/-- An event that is handed to the producer, whatever comes of it. -/
def published? : Entry WorkerProcess Activity Call Call.Reply Json ConsentLedger →
    Option LoanDecisionEvaluated
  | .called _ (.publish event) _ => some event
  | _ => none

def published (log : OriginationLog) : List LoanDecisionEvaluated := log.filterMap published?

/-- All events that the attempts publish carry one receipt id. -/
def OneReceipt {input : EvaluateDecisionInput} (attempts : List (EvaluationAttempt input)) : Prop :=
  ∀ attempt ∈ attempts, ∀ attempt' ∈ attempts, ∀ event ∈ published attempt.log,
    ∀ event' ∈ published attempt'.log, event.receiptId = event'.receiptId

/-- The evaluation on this worker gets to the publication. -/
def Publishes (process : WorkerProcess) (input : EvaluateDecisionInput) : Prop :=
  Evaluable process input ∧ ∃ result contextBytes outcome,
    process.zen.evaluate input.rulesetName (input.context.getD []) = .ok result ∧
      process.dumps (input.context.getD []) = .ok contextBytes ∧
      result.output.get "outcome" (.str "pass") = .ok outcome

/-- `hash(receipt_id) % (2**128)`, on this worker. -/
def receiptHash (process : WorkerProcess) (input : EvaluateDecisionInput) : Int :=
  process.hash (Activities.receiptId input) % 2 ^ 128

/-! ## What an attempt publishes -/

section Published

variable {process process' : WorkerProcess} {input : EvaluateDecisionInput}

/-- `UUID(int=hash(receipt_id) % (2**128))`. -/
def receiptUuid (process : WorkerProcess) (input : EvaluateDecisionInput) : Uuid :=
  ⟨BitVec.ofInt 128 (process.hash (Activities.receiptId input))⟩

theorem receiptUuid_eq_iff : receiptUuid process input = receiptUuid process' input ↔
    receiptHash process input = receiptHash process' input := by
  have hnonneg := Int.emod_nonneg (process.hash (Activities.receiptId input)) (b := 2 ^ 128) (by decide)
  have hnonneg' := Int.emod_nonneg (process'.hash (Activities.receiptId input)) (b := 2 ^ 128) (by decide)
  unfold receiptUuid receiptHash
  rw [Uuid.mk.injEq, ← BitVec.toNat_inj, BitVec.toNat_ofInt, BitVec.toNat_ofInt]
  omega

/-- The activity on a worker on which it gets to the publication. -/
theorem evaluateDecision_publishes (h : Publishes process input) :
    ∃ event rest, Activities.evaluateDecision process input =
        (Proc.tryAsk (.publish event) >>= fun _ => rest) ∧
      event.receiptId = receiptUuid process input ∧ rest.Every fun _ => False := by
  obtain ⟨heval, result, contextBytes, outcome, hresult, hdumps, houtcome⟩ := h
  unfold Activities.evaluateDecision
  simp only [if_pos (evaluable_iff.mp heval), hresult, hdumps, houtcome, ofExcept_ok_bind]
  refine ⟨_, _, rfl, rfl, ?_⟩
  exact every_ofExcept_bind fun _ => every_ofExcept_bind fun _ => trivial

theorem evaluateDecision_quiet (h : ¬ Publishes process input) :
    (Activities.evaluateDecision process input).Every fun _ => False := by
  by_cases heval : Evaluable process input
  · unfold Activities.evaluateDecision
    simp only [if_pos (evaluable_iff.mp heval)]
    cases hresult : process.zen.evaluate input.rulesetName (input.context.getD []) with
    | error e => trivial
    | ok result =>
      rw [ofExcept_ok_bind]
      cases hdumps : process.dumps (input.context.getD []) with
      | error e => trivial
      | ok contextBytes =>
        rw [ofExcept_ok_bind]
        cases houtcome : result.output.get "outcome" (.str "pass") with
        | error e => trivial
        | ok outcome => exact absurd ⟨heval, result, contextBytes, outcome, hresult, hdumps, houtcome⟩ h
  · rw [evaluateDecision_unevaluated heval]
    trivial

theorem mem_published {log : OriginationLog} {event : LoanDecisionEvaluated}
    (h : event ∈ published log) : ∃ a y, .called a (.publish event) y ∈ log := by
  obtain ⟨entry, hentry, hevent⟩ := List.mem_filterMap.mp h
  cases entry with
  | called a c y =>
    cases c with
    | publish event' =>
      obtain rfl := Option.some.inj hevent
      exact ⟨a, y, hentry⟩
    | _ => cases hevent
  | _ => cases hevent

/-- The calls of the activity. -/
theorem evaluateDecision_every : (Activities.evaluateDecision process input).Every fun c =>
    ∃ event, c = .publish event ∧ event.receiptId = receiptUuid process input ∧
      Publishes process input := by
  by_cases h : Publishes process input
  · obtain ⟨event, rest, hcode, hreceipt, hrest⟩ := evaluateDecision_publishes h
    rw [hcode]
    exact every_bind (every_tryAsk ⟨event, rfl, hreceipt, h⟩) fun _ => hrest.mono fun _ => False.elim
  · exact (evaluateDecision_quiet h).mono fun _ => False.elim

/-- What an attempt publishes carries the receipt id of its worker. -/
theorem published_of_attempt (attempt : EvaluationAttempt input) {event : LoanDecisionEvaluated}
    (h : event ∈ published attempt.log) :
    event.receiptId = receiptUuid attempt.process input ∧ Publishes attempt.process input := by
  obtain ⟨p, hreached⟩ := attempt.reached
  obtain ⟨a, y, hmem⟩ := mem_published h
  obtain ⟨event', hsame, hpublished⟩ := (hreached.every evaluateDecision_every).2 a _ y hmem
  obtain rfl := Call.publish.inj hsame
  exact hpublished

theorem exists_attempt (h : Publishes process input) : ∃ attempt : EvaluationAttempt input,
    attempt.process = process ∧ ∃ event ∈ published attempt.log,
      event.receiptId = receiptUuid process input := by
  obtain ⟨event, rest, hcode, hreceipt, -⟩ := evaluateDecision_publishes h
  refine ⟨⟨process, [.called (.evaluateDecision input) (.publish event) (.ok ())], rest, ?_⟩, rfl, event,
    .head _, hreceipt⟩
  rw [hcode]
  exact .called .here

end Published

/-- **The attempts that run on these workers publish one receipt id exactly if** the workers on which
the evaluation gets to the publication have one hash of the receipt's text. -/
theorem oneReceipt_iff (input : EvaluateDecisionInput) (workers : Set WorkerProcess) :
    (∀ attempts : List (EvaluationAttempt input), (∀ attempt ∈ attempts, attempt.process ∈ workers) →
      OneReceipt attempts) ↔
    ∀ process ∈ workers, ∀ process' ∈ workers, Publishes process input → Publishes process' input →
      receiptHash process input = receiptHash process' input := by
  constructor
  · intro hone process hprocess process' hprocess' hpublishes hpublishes'
    obtain ⟨attempt, rfl, event, hevent, hreceipt⟩ := exists_attempt hpublishes
    obtain ⟨attempt', rfl, event', hevent', hreceipt'⟩ := exists_attempt hpublishes'
    have hsame := hone [attempt, attempt'] (by simp [hprocess, hprocess']) attempt (by simp) attempt'
      (by simp) event hevent event' hevent'
    rw [← receiptUuid_eq_iff, ← hreceipt, ← hreceipt', hsame]
  · intro hhash attempts hworkers attempt hattempt attempt' hattempt' event hevent event' hevent'
    obtain ⟨hreceipt, hpublishes⟩ := published_of_attempt attempt hevent
    obtain ⟨hreceipt', hpublishes'⟩ := published_of_attempt attempt' hevent'
    rw [hreceipt, hreceipt', receiptUuid_eq_iff]
    exact hhash _ (hworkers attempt hattempt) _ (hworkers attempt' hattempt') hpublishes hpublishes'

/-! Two processes of one worker, with different seeds. -/

def seeded (seed : Int) : WorkerProcess := { sampleWorker with hash := fun s => seed + s.length }

def retriedGate : EvaluateDecisionInput where
  loanApplicationId := "3f2b7c1e-8d4a-4e6b-9a0c-5d1e2f3a4b5c"
  gate := "d0_kind1_gate"
  rulesetName := "d0-kind1-gate"
  context := some [("irn_valid", .bool false)]

theorem publishes_seeded (seed : Int) : Publishes (seeded seed) retriedGate :=
  ⟨evaluable_iff.mpr rfl, _, "context", .str "fail", rfl, rfl, rfl⟩

/-- The retry publishes another receipt id. -/
theorem seeded_differ : ∃ attempts : List (EvaluationAttempt retriedGate),
    attempts.map (·.process) = [seeded 1, seeded 2] ∧ ¬ OneReceipt attempts := by
  obtain ⟨attempt, hprocess, event, hevent, hreceipt⟩ := exists_attempt (publishes_seeded 1)
  obtain ⟨retry, hprocess', event', hevent', hreceipt'⟩ := exists_attempt (publishes_seeded 2)
  refine ⟨[attempt, retry], by simp [hprocess, hprocess'], fun hone => ?_⟩
  have hsame := hone attempt (by simp) retry (by simp) event hevent event' hevent'
  rw [hreceipt, hreceipt', receiptUuid_eq_iff] at hsame
  revert hsame
  decide +kernel

end OcenPlatform.Origination
