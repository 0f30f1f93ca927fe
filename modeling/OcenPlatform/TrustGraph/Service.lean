import Mathlib.Algebra.Order.Ring.Rat
import Mathlib.Data.List.Induction
import OcenPlatform.PyDict
import OcenPlatform.Uuid

/-! `TrustGraphService`: attestations and repayments of the vendor-anchor pairs, and the trust
score computed from them. Decimals are exact. -/

namespace OcenPlatform.TrustGraph

/-! ## Model -/

structure Repayment where
  amount : Rat
  onTime : Bool

structure TrustScoreComponents where
  attestationScore : Rat
  repaymentScore : Rat
  relationshipScore : Rat
  concentrationPenalty : Rat
  deriving DecidableEq

structure TrustScore where
  vendorId : Uuid
  anchorId : Uuid
  score : Rat
  components : TrustScoreComponents
  computedAt : Int

/-- The fields of a `TrustScore` are validated. -/
def TrustScore.validate (t : TrustScore) : Except String TrustScore :=
  if 0 ≤ t.score ∧ t.score ≤ 100 then .ok t else .error "ValidationError"

/-- The division of decimals. -/
def divide (p q : Rat) : Except String Rat := if q = 0 then .error "ZeroDivisionError" else .ok (p / q)

/-- The branch of `compute_trust_score` on the repayments. -/
def computeRepaymentScore (repayments : List Repayment) : Except String Rat := do
  if repayments.isEmpty then
    return 0
  let onTimeCount := repayments.countP (·.onTime)
  return (← divide onTimeCount repayments.length) * 40

/-- The branch of `compute_trust_score` on the attestations of all pairs. -/
def computeConcentrationPenalty (attestationCount totalAttestations : Nat) : Except String Rat := do
  if totalAttestations > 0 then
    let concentration ← divide attestationCount totalAttestations
    return max 0 ((concentration - 1 / 2) * 20)
  return 0

structure TrustGraphService where
  attestations : PyDict (Uuid × Uuid) Nat := []
  repayments : PyDict (Uuid × Uuid) (List Repayment) := []

namespace TrustGraphService

variable (s : TrustGraphService)

/-- `record_attestation`. -/
def recordAttestation (vendorId anchorId : Uuid) : TrustGraphService :=
  let key := (vendorId, anchorId)
  { s with attestations := PyDict.set s.attestations key (PyDict.get s.attestations key 0 + 1) }

/-- `record_repayment`. -/
def recordRepayment (vendorId anchorId : Uuid) (amount : Rat) (onTime : Bool) : TrustGraphService :=
  let key := (vendorId, anchorId)
  let repayments := PyDict.get s.repayments key []
  { s with repayments := PyDict.set s.repayments key (repayments ++ [{ amount, onTime }]) }

/-- `compute_trust_score`. -/
def computeTrustScore (vendorId anchorId : Uuid) (now : Int) : Except String TrustScore := do
  let key := (vendorId, anchorId)
  let attestationCount := PyDict.get s.attestations key 0
  let attestationScore := min ((attestationCount : Rat) * 10) 30
  let repayments := PyDict.get s.repayments key []
  let repaymentScore ← computeRepaymentScore repayments
  let relationshipScore := min (((attestationCount + repayments.length : Nat) : Rat) * 2) 20
  let totalAttestations := (s.attestations.map Prod.snd).sum
  let concentrationPenalty ← computeConcentrationPenalty attestationCount totalAttestations
  let components := { attestationScore, repaymentScore, relationshipScore, concentrationPenalty }
  let total := attestationScore + repaymentScore + relationshipScore - concentrationPenalty
  let score := max 0 (min total 100)
  TrustScore.validate { vendorId, anchorId, score, components, computedAt := now }

end TrustGraphService

/-! ## Histories -/

inductive RecordCall where
  | recordAttestation (vendorId anchorId : Uuid)
  | recordRepayment (vendorId anchorId : Uuid) (amount : Rat) (onTime : Bool)

def RecordCall.vendorId : RecordCall → Uuid
  | .recordAttestation vendorId _ => vendorId
  | .recordRepayment vendorId _ _ _ => vendorId

def TrustGraphService.apply (s : TrustGraphService) : RecordCall → TrustGraphService
  | .recordAttestation vendorId anchorId => s.recordAttestation vendorId anchorId
  | .recordRepayment vendorId anchorId amount onTime =>
    s.recordRepayment vendorId anchorId amount onTime

/-- The service after a history of calls. -/
def serviceAfter (history : List RecordCall) : TrustGraphService :=
  history.foldl TrustGraphService.apply {}

def RecordCall.isAttestation : RecordCall → Bool
  | .recordAttestation _ _ => true
  | .recordRepayment _ _ _ _ => false

/-- An attestation of the pair. -/
def RecordCall.attests (key : Uuid × Uuid) : RecordCall → Bool
  | .recordAttestation vendorId anchorId => (vendorId, anchorId) = key
  | .recordRepayment _ _ _ _ => false

/-- The repayment that the call records for the pair. -/
def RecordCall.repayment? (key : Uuid × Uuid) : RecordCall → Option Repayment
  | .recordAttestation _ _ => none
  | .recordRepayment vendorId anchorId amount onTime =>
    if (vendorId, anchorId) = key then some { amount, onTime } else none

/-! ## What the service holds -/

/-- The dicts hold what the history has recorded. -/
structure Records (s : TrustGraphService) (history : List RecordCall) : Prop where
  count : ∀ key, PyDict.get s.attestations key 0 = history.countP (RecordCall.attests key)
  total : (s.attestations.map Prod.snd).sum = history.countP RecordCall.isAttestation
  repayments : ∀ key, PyDict.get s.repayments key [] = history.filterMap (RecordCall.repayment? key)

theorem records_nil : Records {} [] where
  count _ := rfl
  total := rfl
  repayments _ := rfl

/-- **Step lemma.** -/
theorem Records.step {s : TrustGraphService} {history : List RecordCall} (h : Records s history)
    (call : RecordCall) : Records (s.apply call) (history ++ [call]) := by
  cases call with
  | recordAttestation vendorId anchorId =>
    refine ⟨fun key => ?_, ?_, fun key => ?_⟩
    · simp only [TrustGraphService.apply, TrustGraphService.recordAttestation, PyDict.get_set, h.count,
        List.countP_append, List.countP_singleton, RecordCall.attests, decide_eq_true_eq]
      split
      · rename_i hk
        rw [hk]
      · rfl
    · have hsum := PyDict.sum_set s.attestations (vendorId, anchorId)
        (PyDict.get s.attestations (vendorId, anchorId) 0 + 1)
      simp only [TrustGraphService.apply, TrustGraphService.recordAttestation, List.countP_append,
        List.countP_singleton, RecordCall.isAttestation, if_true, ← h.total]
      omega
    · simp [TrustGraphService.apply, TrustGraphService.recordAttestation, h.repayments,
        RecordCall.repayment?]
  | recordRepayment vendorId anchorId amount onTime =>
    refine ⟨fun key => ?_, ?_, fun key => ?_⟩
    · simp [TrustGraphService.apply, TrustGraphService.recordRepayment, h.count, RecordCall.attests]
    · simp [TrustGraphService.apply, TrustGraphService.recordRepayment, h.total,
        RecordCall.isAttestation]
    · simp only [TrustGraphService.apply, TrustGraphService.recordRepayment, PyDict.get_set, h.repayments,
        List.filterMap_append]
      split
      · rename_i hk
        simp [RecordCall.repayment?, hk]
      · rename_i hk
        simp [RecordCall.repayment?, hk]

/-- **Run lemma.** -/
theorem records_after (history : List RecordCall) : Records (serviceAfter history) history := by
  induction history using List.reverseRecOn with
  | nil => exact records_nil
  | append_singleton history call ih =>
    rw [serviceAfter, List.foldl_append]
    exact ih.step call

end OcenPlatform.TrustGraph
