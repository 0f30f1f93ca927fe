import OcenPlatform.Audit.Receipts

/-! What an accepted chain of receipts commits to, and which parts of a created
chain are accepted. -/

namespace OcenPlatform.Audit

open Hashlib HashChain

theorem forall₂_mem {α β : Type} {R : α → β → Prop} {l : List α} {l' : List β}
    (h : List.Forall₂ R l l') : List.Forall₂ (fun a b => a ∈ l ∧ b ∈ l' ∧ R a b) l l' := by
  induction h with
  | nil => exact .nil
  | cons hab _ ih =>
    refine .cons ⟨.head _, .head _, hab⟩ (ih.imp fun a b hmem => ?_)
    exact ⟨.tail _ hmem.1, .tail _ hmem.2.1, hmem.2.2⟩

/-- SHA-256 does not collide on the chain inputs of the two lists. -/
def CollisionFree (dumps : Json → List UInt8) (receipts receipts' : List DecisionReceipt) : Prop :=
  ∀ b ∈ chainInputs dumps receipts, ∀ b' ∈ chainInputs dumps receipts',
    sha256 b = sha256 b' → b = b'

section Chain

variable {dumps : Json → List UInt8} {receipts receipts' : List DecisionReceipt}

theorem CollisionFree.hash (h : CollisionFree dumps receipts receipts') :
    ∀ b ∈ (scheme dumps).inputs none receipts, ∀ b' ∈ (scheme dumps).inputs none receipts',
      (scheme dumps).hash b = (scheme dumps).hash b' → b = b' := by
  intro b hb b' hb' heq
  exact h b hb b' hb' (hexdigest_inj (Option.some.inj heq))

theorem last_none_eq (h : receipts.getLast?.map (·.chainHash) = receipts'.getLast?.map (·.chainHash)) :
    (scheme dumps).last none receipts = (scheme dumps).last none receipts' := by
  rw [Scheme.last_eq_getLast?, Scheme.last_eq_getLast?]
  exact congrArg (·.getD none) h

end Chain

/-! ## Created chains -/

/-- What `create_receipt` chains together is accepted, and so is every prefix of it. A
proper suffix is rejected. -/
theorem createChain_verified (dumps : Json → List UInt8) (signer : ReceiptSigner)
    (es : List (RuleEvaluation × Ambient)) :
    (signer.mode = "hmac" → ∃ receipts, signer.createChain dumps none es = .ok receipts) ∧
      ∀ receipts, signer.createChain dumps none es = .ok receipts →
        verifyChain dumps receipts = true ∧
        ∀ front back, receipts = front ++ back → verifyChain dumps front = true ∧
          (front ≠ [] → back ≠ [] → CollisionFree dumps receipts back →
            verifyChain dumps back = false) := by
  refine ⟨fun hmode => createChain_ok hmode none es, fun receipts h => ?_⟩
  have hvalid := createChain_valid h
  refine ⟨verifyChain_iff.mpr hvalid, ?_⟩
  rintro front back rfl
  refine ⟨verifyChain_iff.mpr (Scheme.valid_append.mp hvalid).1, fun hfront hback hsha => ?_⟩
  obtain ⟨m, rest, rfl⟩ := List.exists_cons_of_ne_nil hback
  rw [← Bool.not_eq_true, verifyChain_iff]
  exact hvalid.not_suffix scheme_delimited hfront hsha.hash

/-! Two evaluations and their receipts, serialised by a compact JSON writer for documents
whose strings need no escapes. -/

mutual

def compactDumps : Json → List UInt8
  | .null => encode "null"
  | .bool b => encode (if b then "true" else "false")
  | .num q => encode (toString q.num)
  | .str s => 34 :: encode s ++ [34]
  | .arr items => 91 :: compactItems items ++ [93]
  | .obj fields => 123 :: compactFields fields ++ [125]

def compactItems : List Json → List UInt8
  | [] => []
  | [v] => compactDumps v
  | v :: vs => compactDumps v ++ 44 :: compactItems vs

def compactFields : List (String × Json) → List UInt8
  | [] => []
  | [(k, v)] => 34 :: encode k ++ 34 :: 58 :: compactDumps v
  | (k, v) :: fields => 34 :: encode k ++ 34 :: 58 :: compactDumps v ++ 44 :: compactFields fields

end

def sampleSigner : ReceiptSigner where
  key := encode "test-key"

def d0Evaluation : RuleEvaluation where
  loanApplicationId := ⟨7⟩
  gate := .d0Kind1Gate
  outcome := .pass
  rulesetHash := "aa"
  ruleInput := [("irn_valid", .bool true)]
  ruleOutput := [("outcome", .str "pass")]
  engineVersion := "0"

def d1Evaluation : RuleEvaluation where
  loanApplicationId := ⟨7⟩
  gate := .d1DataSufficiency
  outcome := .fail
  rulesetHash := "bb"
  ruleInput := [("months", .num 2)]
  ruleOutput := [("outcome", .str "fail")]
  engineVersion := "0"

/-- A receipt before it is signed and chained. -/
def unsigned (e : RuleEvaluation) (inputHash : String) (env : Ambient) : DecisionReceipt where
  id := env.uuid4
  loanApplicationId := e.loanApplicationId
  gate := e.gate
  outcome := e.outcome
  rulesetHash := e.rulesetHash
  inputHash := inputHash
  output := e.ruleOutput
  engineVersion := e.engineVersion
  evaluatedAt := env.utcnow

def d0Unsigned : DecisionReceipt :=
  unsigned d0Evaluation "b57a71eb3e22db98f0742d6536208aa7f6948e67790c79f3e2ce48bd2e130da2"
    ⟨⟨1⟩, "2026-01-01T00:00:00"⟩

def d1Unsigned : DecisionReceipt :=
  unsigned d1Evaluation "e9adbbcf0c3198a38ca4d62ed1c0796c230351886d2cc08df8767ec92b56cefc"
    ⟨⟨2⟩, "2026-01-01T00:00:01"⟩

/-- The unsigned receipt with the sample signature and a hash. -/
def signed (r : DecisionReceipt) (chainHash : String) : DecisionReceipt :=
  { r with
    signature := some (hmacHex sampleSigner.key (receiptBytes compactDumps r))
    chainHash := some chainHash }

def d0Hash : BitVec 256 := 0x3582611dbfaf6ae3ffcff3ccdd1a0d13b65153c8709cee6f5b66c8955b4a615d

def d1Hash : BitVec 256 := 0xfc50e376f0bdd8da10157286d0103dcab447c4196561007a2d02386e0689dc87

def sampleEvaluations : List (RuleEvaluation × Ambient) :=
  [(d0Evaluation, ⟨⟨1⟩, "2026-01-01T00:00:00"⟩), (d1Evaluation, ⟨⟨2⟩, "2026-01-01T00:00:01"⟩)]

def sampleChain : List DecisionReceipt :=
  [signed d0Unsigned (hexdigest d0Hash), signed d1Unsigned (hexdigest d1Hash)]

theorem d0Hash_eq : sha256 (receiptBytes compactDumps d0Unsigned) = d0Hash := by decide +kernel

theorem d1Hash_eq :
    sha256 (receiptBytes compactDumps d1Unsigned ++ encode (hexdigest d0Hash)) = d1Hash := by
  decide +kernel

/-- Without the hash before it the second receipt has another hash. -/
theorem d1Unsigned_hash : sha256 (receiptBytes compactDumps d1Unsigned) ≠ d0Hash ∧
    sha256 (receiptBytes compactDumps d1Unsigned) ≠ d1Hash := by
  decide +kernel

theorem receiptBytes_signed (r : DecisionReceipt) (chainHash : String) :
    receiptBytes compactDumps (signed r chainHash) = receiptBytes compactDumps r := rfl

theorem hashText_d0Hash : hashText (some (hexdigest d0Hash)) = encode (hexdigest d0Hash) := by
  simp [hashText, chainInput, hexdigest_ne_empty]

theorem createReceipt_sample {e : RuleEvaluation} {env : Ambient} {inputHash : String}
    {digest : BitVec 256} (prevHash : Option String)
    (hinput : contentHash compactDumps e.ruleInput = inputHash)
    (hdigest : sha256 (chainInput (receiptBytes compactDumps (unsigned e inputHash env)) prevHash) =
      digest) : sampleSigner.createReceipt compactDumps e prevHash env =
        .ok (signed (unsigned e inputHash env) (hexdigest digest)) := by
  subst hinput hdigest
  rfl

theorem sampleChain_created :
    sampleSigner.createChain compactDumps none sampleEvaluations = .ok sampleChain := by
  have hd0 : contentHash compactDumps d0Evaluation.ruleInput =
      "b57a71eb3e22db98f0742d6536208aa7f6948e67790c79f3e2ce48bd2e130da2" := by decide +kernel
  have hd1 : contentHash compactDumps d1Evaluation.ruleInput =
      "e9adbbcf0c3198a38ca4d62ed1c0796c230351886d2cc08df8767ec92b56cefc" := by decide +kernel
  have hlink : chainInput (receiptBytes compactDumps d1Unsigned) (some (hexdigest d0Hash)) =
      receiptBytes compactDumps d1Unsigned ++ encode (hexdigest d0Hash) := by
    rw [chainInput_eq, hashText_d0Hash]
  have hfirst := createReceipt_sample none hd0 d0Hash_eq
  have hsecond := createReceipt_sample (some (hexdigest d0Hash)) hd1
    ((congrArg sha256 hlink).trans d1Hash_eq)
  exact createChain_cons hfirst (createChain_cons hsecond rfl)

theorem chainInputs_pair (dumps : Json → List UInt8) (r r' : DecisionReceipt) :
    chainInputs dumps [r, r'] =
      [receiptBytes dumps r, receiptBytes dumps r' ++ hashText r.chainHash] := by
  simp [chainInputs, Scheme.inputs, Scheme.input, scheme, hashText, chainInput]

theorem chainInputs_sample : chainInputs compactDumps sampleChain =
    [receiptBytes compactDumps d0Unsigned,
      receiptBytes compactDumps d1Unsigned ++ encode (hexdigest d0Hash)] := by
  rw [sampleChain, chainInputs_pair, receiptBytes_signed, receiptBytes_signed, ← hashText_d0Hash]
  rfl

theorem collisionFree_sample :
    CollisionFree compactDumps sampleChain [signed d1Unsigned (hexdigest d1Hash)] := by
  intro b hb b' hb' heq
  obtain rfl : b' = receiptBytes compactDumps (signed d1Unsigned (hexdigest d1Hash)) ++ [] :=
    List.mem_singleton.mp hb'
  rw [List.append_nil, receiptBytes_signed] at heq
  rw [chainInputs_sample, List.mem_pair] at hb
  rcases hb with rfl | rfl
  · exact absurd (heq.symm.trans d0Hash_eq) d1Unsigned_hash.1
  · exact absurd (heq.symm.trans d1Hash_eq) d1Unsigned_hash.2

/-- The second receipt alone is rejected. -/
theorem createChain_verified_sample : verifyChain compactDumps sampleChain = true ∧
    verifyChain compactDumps [signed d0Unsigned (hexdigest d0Hash)] = true ∧
    verifyChain compactDumps [signed d1Unsigned (hexdigest d1Hash)] = false := by
  obtain ⟨-, hall⟩ := createChain_verified compactDumps sampleSigner sampleEvaluations
  obtain ⟨hchain, hparts⟩ := hall sampleChain sampleChain_created
  obtain ⟨hfront, hback⟩ := hparts [signed d0Unsigned (hexdigest d0Hash)] _ rfl
  exact ⟨hchain, hfront, hback (by simp) (by simp) collisionFree_sample⟩

/-! ## Binding -/

/-- Accepted lists whose last receipts have the same `chain_hash` are the same, receipt
by receipt, in every field except `signature`. -/
theorem verifyChain_binding (dumps : Json → List UInt8) (receipts receipts' : List DecisionReceipt)
    (hsha : CollisionFree dumps receipts receipts')
    (hjson : ∀ r ∈ receipts, ∀ r' ∈ receipts', receiptBytes dumps r = receiptBytes dumps r' →
      r.blanked.Equal r'.blanked)
    (hbrace : ∀ r ∈ receipts ++ receipts', (receiptBytes dumps r).getLast? = some 125)
    (h : verifyChain dumps receipts = true) (h' : verifyChain dumps receipts' = true)
    (hlast : receipts.getLast?.map (·.chainHash) = receipts'.getLast?.map (·.chainHash)) :
    receipts.length = receipts'.length ∧
      List.Forall₂ DecisionReceipt.EqualButSignature receipts receipts' := by
  have hbinding := (verifyChain_iff.mp h).binding scheme_delimited hbrace hsha.hash
    (verifyChain_iff.mp h') (last_none_eq hlast)
  refine ⟨hbinding.length_eq, (forall₂_mem hbinding).imp fun r r' hmem => ?_⟩
  obtain ⟨hr, hr', hbytes, hlink⟩ := hmem
  have hequal := hjson r hr r' hr' hbytes
  exact { hequal with chainHash := hlink }

def unsignedChain : List DecisionReceipt := sampleChain.map fun r => { r with signature := none }

theorem receiptBytes_ends (r : DecisionReceipt) :
    (receiptBytes compactDumps r).getLast? = some 125 := by
  exact List.getLast?_concat

theorem d0_ne_d1 :
    receiptBytes compactDumps d0Unsigned ≠ receiptBytes compactDumps d1Unsigned := by
  intro heq
  exact d1Unsigned_hash.1 (heq ▸ d0Hash_eq)

/-- The sample chain and the same receipts without their signatures. -/
theorem verifyChain_binding_unsigned :
    List.Forall₂ DecisionReceipt.EqualButSignature sampleChain unsignedChain := by
  have hchain : verifyChain compactDumps sampleChain = true :=
    verifyChain_iff.mpr (createChain_valid sampleChain_created)
  refine (verifyChain_binding compactDumps sampleChain unsignedChain ?_ ?_ ?_ hchain hchain rfl).2
  · intro b hb b' hb' heq
    change b' ∈ chainInputs compactDumps sampleChain at hb'
    rw [chainInputs_sample, List.mem_pair] at hb hb'
    rcases hb with rfl | rfl <;> rcases hb' with rfl | rfl
    · rfl
    · rw [d0Hash_eq, d1Hash_eq] at heq
      exact absurd heq (by decide)
    · rw [d0Hash_eq, d1Hash_eq] at heq
      exact absurd heq (by decide)
    · rfl
  · intro r hr r' hr' heq
    rw [sampleChain, List.mem_pair] at hr
    rw [unsignedChain, sampleChain, List.map_cons, List.map_cons, List.map_nil, List.mem_pair] at hr'
    rcases hr with rfl | rfl <;> rcases hr' with rfl | rfl
    · exact .refl _
    · exact absurd heq d0_ne_d1
    · exact absurd heq.symm d0_ne_d1
    · exact .refl _
  · intro r _
    exact receiptBytes_ends r

end OcenPlatform.Audit
