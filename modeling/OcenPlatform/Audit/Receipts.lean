import Mathlib.Data.List.Sort
import OcenPlatform.Audit.HashChain
import OcenPlatform.Encoding.Hashlib
import OcenPlatform.Json

/-! Decision receipts: how they are signed, chained and verified. Plain `orjson`
serialisation is a parameter; its `OPT_SORT_KEYS` is `sortKeys`. -/

namespace OcenPlatform

mutual

/-- `OPT_SORT_KEYS`: the keys of every dict in order. -/
def Json.sortKeys : Json → Json
  | .arr items => .arr (sortItems items)
  | .obj fields => .obj ((sortFields fields).insertionSort fun p q => p.1 ≤ q.1)
  | .null => .null
  | .bool b => .bool b
  | .num q => .num q
  | .str s => .str s

def sortItems : List Json → List Json
  | [] => []
  | v :: vs => v.sortKeys :: sortItems vs

def sortFields : List (String × Json) → List (String × Json)
  | [] => []
  | (k, v) :: fields => (k, v.sortKeys) :: sortFields fields

end

namespace Audit

open Hashlib HashChain

/-! ## Receipts -/

inductive DecisionGate where
  | d0Kind1Gate
  | d1DataSufficiency
  | d2DerivedAttributes
  | d3LenderPrescreen
  deriving DecidableEq, Repr

def DecisionGate.value : DecisionGate → String
  | .d0Kind1Gate => "d0_kind1_gate"
  | .d1DataSufficiency => "d1_data_sufficiency"
  | .d2DerivedAttributes => "d2_derived_attributes"
  | .d3LenderPrescreen => "d3_lender_prescreen"

inductive DecisionOutcome where
  | pass
  | fail
  | flag
  deriving DecidableEq, Repr

def DecisionOutcome.value : DecisionOutcome → String
  | .pass => "pass"
  | .fail => "fail"
  | .flag => "flag"

/-- `evaluatedAt` is the ISO text of the time. -/
structure DecisionReceipt where
  id : Uuid
  loanApplicationId : Uuid
  gate : DecisionGate
  outcome : DecisionOutcome
  rulesetHash : String
  inputHash : String
  output : Dict := []
  engineVersion : String
  signature : Option String := none
  chainHash : Option String := none
  evaluatedAt : String

namespace DecisionReceipt

def optional : Option String → Json
  | some s => .str s
  | none => .null

/-- `model_dump(mode="json")`. -/
def modelDump (r : DecisionReceipt) : Json :=
  .obj [("id", .str r.id.str), ("loan_application_id", .str r.loanApplicationId.str),
    ("gate", .str r.gate.value), ("outcome", .str r.outcome.value),
    ("ruleset_hash", .str r.rulesetHash), ("input_hash", .str r.inputHash),
    ("output", .obj r.output), ("engine_version", .str r.engineVersion),
    ("signature", optional r.signature), ("chain_hash", optional r.chainHash),
    ("evaluated_at", .str r.evaluatedAt)]

/-- `model_copy(update={"chain_hash": None, "signature": None})`. -/
def blanked (r : DecisionReceipt) : DecisionReceipt := { r with chainHash := none, signature := none }

/-- `r == r'`: dicts are compared without their order. -/
structure Equal (r r' : DecisionReceipt) : Prop where
  id : r.id = r'.id
  loanApplicationId : r.loanApplicationId = r'.loanApplicationId
  gate : r.gate = r'.gate
  outcome : r.outcome = r'.outcome
  rulesetHash : r.rulesetHash = r'.rulesetHash
  inputHash : r.inputHash = r'.inputHash
  output : (Json.obj r.output).sortKeys = (Json.obj r'.output).sortKeys
  engineVersion : r.engineVersion = r'.engineVersion
  signature : r.signature = r'.signature
  chainHash : r.chainHash = r'.chainHash
  evaluatedAt : r.evaluatedAt = r'.evaluatedAt

theorem Equal.refl (r : DecisionReceipt) : Equal r r :=
  ⟨rfl, rfl, rfl, rfl, rfl, rfl, rfl, rfl, rfl, rfl, rfl⟩

/-- The same content in every field except `signature`. -/
def EqualButSignature (r r' : DecisionReceipt) : Prop :=
  Equal { r with signature := none } { r' with signature := none }

end DecisionReceipt

section Code

variable (dumps : Json → List UInt8)

def canonicalJson (data : Json) : List UInt8 := dumps data.sortKeys

def contentHash (data : Dict) : String := sha256Hex (canonicalJson dumps (.obj data))

/-- The bytes of a receipt that are signed and hashed. -/
def receiptBytes (r : DecisionReceipt) : List UInt8 := canonicalJson dumps r.blanked.modelDump

/-! ## Signing -/

structure ReceiptSigner where
  key : List UInt8
  mode : String := "hmac"

def ReceiptSigner.sign (signer : ReceiptSigner) (data : List UInt8) : Except String String :=
  if signer.mode = "hmac" then .ok (hmacHex signer.key data) else .error "NotImplementedError"

/-- The arguments of `create_receipt` but for the previous hash. -/
structure RuleEvaluation where
  loanApplicationId : Uuid
  gate : DecisionGate
  outcome : DecisionOutcome
  rulesetHash : String
  ruleInput : Dict
  ruleOutput : Dict
  engineVersion : String

/-- `uuid4()` and `datetime.utcnow()`. -/
structure Ambient where
  uuid4 : Uuid
  utcnow : String

/-- `h_n = SHA-256(receipt_bytes ‖ h_{n-1})`: no hash and the empty one add nothing. -/
def chainInput (receiptBytes : List UInt8) (previousChainHash : Option String) : List UInt8 :=
  match previousChainHash with
  | none => receiptBytes
  | some h => if h = "" then receiptBytes else receiptBytes ++ encode h

/-- `create_receipt`. -/
def ReceiptSigner.createReceipt (signer : ReceiptSigner) (e : RuleEvaluation)
    (previousChainHash : Option String) (env : Ambient) : Except String DecisionReceipt := do
  let receipt : DecisionReceipt := {
    id := env.uuid4
    loanApplicationId := e.loanApplicationId
    gate := e.gate
    outcome := e.outcome
    rulesetHash := e.rulesetHash
    inputHash := contentHash dumps e.ruleInput
    output := e.ruleOutput
    engineVersion := e.engineVersion
    evaluatedAt := env.utcnow }
  let bytes := canonicalJson dumps receipt.modelDump
  let signature ← signer.sign bytes
  return { receipt with
    signature := some signature
    chainHash := some (sha256Hex (chainInput bytes previousChainHash)) }

/-- Receipts for evaluations one after another, each chained to the one before. -/
def ReceiptSigner.createChain (signer : ReceiptSigner) (previousChainHash : Option String) :
    List (RuleEvaluation × Ambient) → Except String (List DecisionReceipt)
  | [] => .ok []
  | (e, env) :: es => do
    let receipt ← signer.createReceipt dumps e previousChainHash env
    return receipt :: (← signer.createChain receipt.chainHash es)

/-! ## Verifying -/

/-- The loop of `verify_chain`. -/
def verifyFrom (prevHash : Option String) : List DecisionReceipt → Bool
  | [] => true
  | receipt :: receipts =>
    let expected := sha256Hex (chainInput (receiptBytes dumps receipt) prevHash)
    if receipt.chainHash ≠ some expected then false else verifyFrom receipt.chainHash receipts

/-- `ChainVerifier.verify_chain`. -/
def verifyChain (receipts : List DecisionReceipt) : Bool := verifyFrom dumps none receipts

/-! ## Receipts as a hash chain -/

/-- The text of a previous hash in a chain input. -/
def hashText : Option String → List UInt8 := chainInput []

def scheme : Scheme DecisionReceipt (Option String) UInt8 where
  content := receiptBytes dumps
  link := DecisionReceipt.chainHash
  hash bytes := some (sha256Hex bytes)
  text := hashText
  start := none

/-- The chain inputs that `verify_chain` hashes for these receipts. -/
def chainInputs (receipts : List DecisionReceipt) : List (List UInt8) :=
  (scheme dumps).inputs none receipts

variable {dumps}

theorem chainInput_eq (bytes : List UInt8) (prevHash : Option String) :
    chainInput bytes prevHash = bytes ++ hashText prevHash := by
  cases prevHash with
  | none => simp [hashText, chainInput]
  | some h =>
    by_cases hh : h = "" <;> simp [hashText, chainInput, hh]

theorem scheme_text_hash (bytes : List UInt8) :
    (scheme dumps).text ((scheme dumps).hash bytes) = encode (sha256Hex bytes) := by
  simp [scheme, hashText, chainInput, sha256Hex, hexdigest_ne_empty]

/-- 64 digits, none of which is the brace that ends a JSON object. -/
theorem scheme_delimited : (scheme dumps).Delimited 64 125 where
  start := rfl
  pos := by decide
  length b := by
    rw [scheme_text_hash]
    exact length_encode_hexdigest _
  absent b := by
    rw [scheme_text_hash]
    exact not_mem_encode_hexdigest _
  inj b b' h := by
    rw [scheme_text_hash, scheme_text_hash] at h
    simp only [scheme, sha256Hex, encode_hexdigest_inj h]

theorem verifyFrom_iff {prevHash : Option String} {receipts : List DecisionReceipt} :
    verifyFrom dumps prevHash receipts = true ↔ (scheme dumps).Valid prevHash receipts := by
  induction receipts generalizing prevHash with
  | nil => simp [verifyFrom, Scheme.Valid]
  | cons receipt receipts ih =>
    simp only [verifyFrom, Scheme.Valid, chainInput_eq]
    by_cases hlink : receipt.chainHash =
        some (sha256Hex (receiptBytes dumps receipt ++ hashText prevHash))
    · rw [if_neg (not_not_intro hlink), ih]
      exact ⟨fun h => ⟨hlink, h⟩, fun h => h.2⟩
    · rw [if_pos hlink]
      exact ⟨fun h => absurd h (by decide), fun h => absurd h.1 hlink⟩

theorem verifyChain_iff {receipts : List DecisionReceipt} :
    verifyChain dumps receipts = true ↔ (scheme dumps).Valid none receipts :=
  verifyFrom_iff

/-- Blanking what `create_receipt` has filled in brings back the bytes that it hashed. -/
theorem createReceipt_link {signer : ReceiptSigner} {e : RuleEvaluation}
    {prevHash : Option String} {env : Ambient} {receipt : DecisionReceipt}
    (h : signer.createReceipt dumps e prevHash env = .ok receipt) :
    receipt.chainHash = some (sha256Hex (chainInput (receiptBytes dumps receipt) prevHash)) := by
  unfold ReceiptSigner.createReceipt at h
  obtain ⟨signature, -, h⟩ := exists_of_bind_ok h
  obtain rfl := Except.ok.inj h
  rfl

theorem createChain_valid {signer : ReceiptSigner} {prevHash : Option String}
    {es : List (RuleEvaluation × Ambient)} {receipts : List DecisionReceipt}
    (h : signer.createChain dumps prevHash es = .ok receipts) :
    (scheme dumps).Valid prevHash receipts := by
  induction es generalizing prevHash receipts with
  | nil =>
    obtain rfl := Except.ok.inj h
    trivial
  | cons p es ih =>
    obtain ⟨receipt, hreceipt, h⟩ := exists_of_bind_ok h
    obtain ⟨rest, hrest, h⟩ := exists_of_bind_ok h
    obtain rfl := Except.ok.inj h
    refine ⟨?_, ih hrest⟩
    rw [show (scheme dumps).input prevHash receipt = _ from (chainInput_eq _ _).symm]
    exact createReceipt_link hreceipt

theorem createChain_cons {signer : ReceiptSigner} {e : RuleEvaluation} {prevHash : Option String}
    {env : Ambient} {es : List (RuleEvaluation × Ambient)} {receipt : DecisionReceipt}
    {rest : List DecisionReceipt} (hreceipt : signer.createReceipt dumps e prevHash env = .ok receipt)
    (hrest : signer.createChain dumps receipt.chainHash es = .ok rest) :
    signer.createChain dumps prevHash ((e, env) :: es) = .ok (receipt :: rest) := by
  simp [ReceiptSigner.createChain, hreceipt, hrest, bind, Except.bind, pure, Except.pure]

/-- With a signing key at hand nothing is raised. -/
theorem createChain_ok {signer : ReceiptSigner} (hmode : signer.mode = "hmac")
    (prevHash : Option String) (es : List (RuleEvaluation × Ambient)) :
    ∃ receipts, signer.createChain dumps prevHash es = .ok receipts := by
  induction es generalizing prevHash with
  | nil => exact ⟨[], rfl⟩
  | cons p es ih =>
    obtain ⟨e, env⟩ := p
    obtain ⟨receipt, hreceipt⟩ : ∃ receipt,
        signer.createReceipt dumps e prevHash env = .ok receipt := by
      simp only [ReceiptSigner.createReceipt, ReceiptSigner.sign, if_pos hmode]
      exact ⟨_, rfl⟩
    obtain ⟨rest, hrest⟩ := ih receipt.chainHash
    exact ⟨receipt :: rest, createChain_cons hreceipt hrest⟩

end Code

end Audit

end OcenPlatform
