import OcenPlatform.Audit.Chain

/-! Chains without the signing key. `verify_chain` reads no signature, and its hashes
are public, so whoever changes a receipt can recompute them from there on. -/

namespace OcenPlatform.Audit

open Hashlib

section Code

variable (dumps : Json → List UInt8)

/-- The receipt carries the signer's signature over its content. -/
def ReceiptSigner.Signed (signer : ReceiptSigner) (r : DecisionReceipt) : Prop :=
  ∃ signature, signer.sign (receiptBytes dumps r) = .ok signature ∧ r.signature = some signature

/-- Every accepted list consists of signed receipts. -/
def AcceptsOnlySigned (signer : ReceiptSigner) : Prop :=
  ∀ receipts, verifyChain dumps receipts = true → ∀ r ∈ receipts, signer.Signed dumps r

/-- Recompute the chain hashes. -/
def rechain (prevHash : Option String) : List DecisionReceipt → List DecisionReceipt
  | [] => []
  | r :: receipts =>
    let chainHash := some (sha256Hex (chainInput (receiptBytes dumps r) prevHash))
    { r with chainHash := chainHash } :: rechain chainHash receipts

/-- Change the outcome of a receipt, drop its signature and recompute the hashes. -/
def forge (front : List DecisionReceipt) (r : DecisionReceipt) (back : List DecisionReceipt)
    (outcome : DecisionOutcome) : List DecisionReceipt :=
  rechain dumps none (front ++ { r with outcome := outcome, signature := none } :: back)

end Code

section Forgery

variable {dumps : Json → List UInt8} {signer : ReceiptSigner} {prevHash : Option String}
  {receipts front back : List DecisionReceipt} {r : DecisionReceipt}

theorem not_signed_of_none (h : r.signature = none) : ¬ signer.Signed dumps r := by
  rintro ⟨signature, -, hsome⟩
  rw [h] at hsome
  cases hsome

/-- Blanking brings back the bytes that `create_receipt` has signed. -/
theorem createReceipt_signed {e : RuleEvaluation} {env : Ambient}
    (h : signer.createReceipt dumps e prevHash env = .ok r) : signer.Signed dumps r := by
  unfold ReceiptSigner.createReceipt at h
  obtain ⟨signature, hsign, h⟩ := exists_of_bind_ok h
  obtain rfl := Except.ok.inj h
  exact ⟨signature, hsign, rfl⟩

theorem createChain_signed {es : List (RuleEvaluation × Ambient)}
    (h : signer.createChain dumps prevHash es = .ok receipts) :
    ∀ r ∈ receipts, signer.Signed dumps r := by
  induction es generalizing prevHash receipts with
  | nil =>
    obtain rfl := Except.ok.inj h
    simp
  | cons p es ih =>
    obtain ⟨receipt, hreceipt, h⟩ := exists_of_bind_ok h
    obtain ⟨rest, hrest, h⟩ := exists_of_bind_ok h
    obtain rfl := Except.ok.inj h
    intro r hr
    rcases List.mem_cons.mp hr with rfl | hr
    · exact createReceipt_signed hreceipt
    · exact ih hrest r hr

theorem receiptBytes_chainHash (r : DecisionReceipt) (chainHash : Option String) :
    receiptBytes dumps { r with chainHash := chainHash } = receiptBytes dumps r := rfl

/-- Whatever the receipts are, they are accepted with recomputed hashes. -/
theorem verifyFrom_rechain : verifyFrom dumps prevHash (rechain dumps prevHash receipts) = true := by
  induction receipts generalizing prevHash with
  | nil => rfl
  | cons r receipts ih =>
    simp only [rechain, verifyFrom, receiptBytes_chainHash, ne_eq, not_true_eq_false, ↓reduceIte]
    exact ih

/-- An accepted chain in front keeps its hashes. -/
theorem rechain_append (h : verifyFrom dumps prevHash front = true) (back : List DecisionReceipt) :
    ∃ prevHash', rechain dumps prevHash (front ++ back) = front ++ rechain dumps prevHash' back := by
  induction front generalizing prevHash with
  | nil => exact ⟨prevHash, rfl⟩
  | cons r front ih =>
    simp only [verifyFrom] at h
    split at h
    · cases h
    · rename_i hlink
      have hhash := of_not_not hlink
      obtain ⟨prevHash', htail⟩ := ih h
      refine ⟨prevHash', ?_⟩
      simp only [List.cons_append, rechain, ← hhash, htail]

/-- A forged chain is accepted. It is the old one up to the receipt with the new outcome,
which nobody has signed. -/
theorem forge_accepted (signer : ReceiptSigner) (outcome : DecisionOutcome)
    (h : verifyChain dumps (front ++ r :: back) = true) :
    verifyChain dumps (forge dumps front r back outcome) = true ∧
      ∃ r' back', forge dumps front r back outcome = front ++ r' :: back' ∧
        r'.outcome = outcome ∧ ¬ signer.Signed dumps r' := by
  have hfront : verifyFrom dumps none front = true := by
    rw [verifyFrom_iff]
    exact (HashChain.Scheme.valid_append.mp (verifyChain_iff.mp h)).1
  refine ⟨verifyFrom_rechain, ?_⟩
  obtain ⟨prevHash, hforge⟩ := rechain_append hfront
    ({ r with outcome := outcome, signature := none } :: back)
  exact ⟨_, _, hforge, rfl, not_signed_of_none rfl⟩

end Forgery

/-- No signer's signatures are enforced: from every chain of signed receipts, whoever has
no key can set the outcome of any receipt and is accepted. -/
theorem acceptsOnlySigned_never (dumps : Json → List UInt8) (signer : ReceiptSigner) :
    ¬ AcceptsOnlySigned dumps signer ∧
      ∀ front r back, verifyChain dumps (front ++ r :: back) = true →
        (∀ r' ∈ front ++ r :: back, signer.Signed dumps r') → ∀ outcome,
          verifyChain dumps (forge dumps front r back outcome) = true ∧
          forge dumps front r back outcome ≠ front ++ r :: back ∧
          ∃ r' back', forge dumps front r back outcome = front ++ r' :: back' ∧
            r'.outcome = outcome ∧ ¬ signer.Signed dumps r' := by
  constructor
  · intro honly
    have haccepted : verifyChain dumps (rechain dumps none [d0Unsigned]) = true :=
      verifyFrom_rechain
    exact not_signed_of_none rfl (honly _ haccepted _ (.head _))
  · intro front r back h hsigned outcome
    obtain ⟨haccepted, r', back', hforge, houtcome, hnot⟩ := forge_accepted signer outcome h
    refine ⟨haccepted, fun heq => ?_, r', back', hforge, houtcome, hnot⟩
    exact hnot (hsigned r' (by simp [← heq, hforge]))

/-- The failed D1 gate of the sample chain, passed. -/
def forgedChain : List DecisionReceipt :=
  forge compactDumps [signed d0Unsigned (hexdigest d0Hash)]
    (signed d1Unsigned (hexdigest d1Hash)) [] .pass

theorem sampleChain_accepted : verifyChain compactDumps sampleChain = true :=
  verifyChain_iff.mpr (createChain_valid sampleChain_created)

theorem acceptsOnlySigned_never_sample :
    verifyChain compactDumps forgedChain = true ∧ forgedChain ≠ sampleChain := by
  obtain ⟨-, hforge⟩ := acceptsOnlySigned_never compactDumps sampleSigner
  obtain ⟨haccepted, hne, -⟩ := hforge [signed d0Unsigned (hexdigest d0Hash)] _ []
    sampleChain_accepted (createChain_signed sampleChain_created) .pass
  exact ⟨haccepted, hne⟩

theorem forgedChain_accepted : ¬ (verifyChain compactDumps forgedChain = true →
    ∀ r ∈ forgedChain, sampleSigner.Signed compactDumps r) := by
  intro honly
  have hsplit : verifyChain compactDumps ([signed d0Unsigned (hexdigest d0Hash)] ++
      signed d1Unsigned (hexdigest d1Hash) :: []) = true := sampleChain_accepted
  obtain ⟨haccepted, r', back', hforge, -, hnot⟩ := forge_accepted sampleSigner .pass hsplit
  exact hnot (honly haccepted r' (by simp [forgedChain, hforge]))

end OcenPlatform.Audit
