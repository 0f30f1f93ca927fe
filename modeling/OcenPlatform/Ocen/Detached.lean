import OcenPlatform.Ocen.PublicKey

/-! The form of the texts that `verify` accepts: it neither reads the payload segment nor asks for
the one encoding of a signature. -/

namespace OcenPlatform.Ocen

open Base64

/-! ## Segments -/

/-- No segment has the separator. -/
theorem not_mem_of_mem_splitOn {α : Type} [BEq α] [LawfulBEq α] {a : α} {xs l : List α}
    (h : l ∈ xs.splitOn a) : a ∉ l := by
  induction xs generalizing l with
  | nil =>
    rw [List.splitOn_nil, List.mem_singleton] at h
    exact h ▸ List.not_mem_nil
  | cons x xs ih =>
    rw [List.splitOn_cons_eq_if_modifyHead] at h
    split at h
    · rcases List.mem_cons.mp h with rfl | hrest
      · exact List.not_mem_nil
      · exact ih hrest
    · rename_i hx
      cases hsplit : xs.splitOn a with
      | nil => exact absurd hsplit (List.splitOn_ne_nil a xs)
      | cons l' ls =>
        rw [hsplit, List.modifyHead_cons] at h
        rcases List.mem_cons.mp h with rfl | hrest
        · have hl' := ih (hsplit ▸ List.mem_cons_self)
          simp only [List.mem_cons, not_or]
          exact ⟨fun hax => hx (hax ▸ beq_self_eq_true a), hl'⟩
        · exact ih (hsplit ▸ List.mem_cons_of_mem _ hrest)

/-- `header..signature`, with the signature in unpadded base64url. -/
def detached (headerB64 : String) (signature : List UInt8) : String :=
  headerB64 ++ ".." ++ base64urlEncode signature

/-- The text has three segments, with this header and with a signature of this value. -/
def Carries (s headerB64 : String) (signature : List UInt8) : Prop :=
  ∃ middle signatureB64, s.toList.splitOn '.' = [headerB64.toList, middle, signatureB64] ∧
    base64urlDecode (String.ofList signatureB64) = .ok signature

theorem splitOn_eq_detached {headerB64 : String} (hheader : '.' ∉ headerB64.toList)
    (signature : List UInt8) : (detached headerB64 signature).toList.splitOn '.' =
      [headerB64.toList, [], (base64urlEncode signature).toList] :=
  splitOn_detached hheader (base64urlEncode_no_dot signature)

/-- A text is detached exactly if nothing is between its dots and its signature is in the one
encoding. -/
theorem eq_detached_iff {s headerB64 : String} {signature : List UInt8} {middle signatureB64 : List Char}
    (h : s.toList.splitOn '.' = [headerB64.toList, middle, signatureB64]) :
    s = detached headerB64 signature ↔
      middle = [] ∧ signatureB64 = (base64urlEncode signature).toList := by
  have hheader : '.' ∉ headerB64.toList := not_mem_of_mem_splitOn (h ▸ List.mem_cons_self)
  constructor
  · rintro rfl
    rw [splitOn_eq_detached hheader] at h
    simp only [List.cons.injEq, and_true, true_and] at h
    exact ⟨h.1.symm, h.2.symm⟩
  · rintro ⟨rfl, rfl⟩
    have hjoin : ['.'].intercalate (s.toList.splitOn '.') = s.toList := List.intercalate_splitOn '.'
    apply String.toList_injective
    rw [← hjoin, h]
    simp [List.intercalate, detached]

/-! ## What is accepted -/

section Verify

variable {Priv Pub : Type} {rsa : Rsa Priv Pub} {signer : OcenJWSSigner Priv} {s : String}
  {payload : List UInt8}

/-- What is accepted is the one detached text of its header and its signature. -/
def AcceptedDetached (rsa : Rsa Priv Pub) (signer : OcenJWSSigner Priv) (s : String)
    (payload : List UInt8) : Prop :=
  signer.verify rsa s payload = true →
    ∃ headerB64 signature, Carries s headerB64 signature ∧ s = detached headerB64 signature

/-- The text carries a valid signature of the payload, with something between the dots or in another
encoding than the unpadded one. -/
def CarriesOtherwise (rsa : Rsa Priv Pub) (signer : OcenJWSSigner Priv) (s : String)
    (payload : List UInt8) : Prop :=
  ∃ (headerB64 : String) (middle signatureB64 : List Char) (signature : List UInt8),
    s.toList.splitOn '.' = [headerB64.toList, middle, signatureB64] ∧
    base64urlDecode (String.ofList signatureB64) = .ok signature ∧
    rsa.verify (rsa.publicKey signer.privateKey) signature (signingInput headerB64 payload) = true ∧
    (middle ≠ [] ∨ signatureB64 ≠ (base64urlEncode signature).toList)

theorem CarriesOtherwise.verify (h : CarriesOtherwise rsa signer s payload) :
    signer.verify rsa s payload = true := by
  obtain ⟨headerB64, middle, signatureB64, signature, hsplit, hdecode, hverify, -⟩ := h
  refine verifyUnder_iff.mpr ⟨_, middle, signatureB64, signature, hsplit, hdecode, ?_⟩
  rwa [String.ofList_toList]

theorem CarriesOtherwise.not_acceptedDetached (h : CarriesOtherwise rsa signer s payload) :
    ¬ AcceptedDetached rsa signer s payload := by
  intro haccepted
  obtain ⟨headerB64', signature', ⟨middle', signatureB64', hsplit', hdecode'⟩, hs⟩ := haccepted h.verify
  obtain ⟨headerB64, middle, signatureB64, signature, hsplit, hdecode, -, hother⟩ := h
  obtain ⟨hmiddle, hsignature⟩ := (eq_detached_iff hsplit').mp hs
  simp only [hsplit, List.cons.injEq, and_true] at hsplit'
  obtain ⟨-, rfl, rfl⟩ := hsplit'
  obtain rfl := Except.ok.inj (hdecode.symm.trans hdecode')
  rcases hother with hne | hne
  · exact hne hmiddle
  · exact hne hsignature

/-- Whatever is put between the dots of a signature that was made, the text is accepted. -/
theorem carriesOtherwise_middle (hrsa : rsa.Correct) (signer : OcenJWSSigner Priv)
    (payload : List UInt8) {middle : String} (hmiddle : '.' ∉ middle.toList)
    (hne : middle.toList ≠ []) :
    CarriesOtherwise rsa signer (base64urlEncode (utf8 (headerJson signer.kid)) ++ "." ++ middle ++ "." ++
      base64urlEncode (rsa.sign signer.privateKey
        (signingInput (base64urlEncode (utf8 (headerJson signer.kid))) payload))) payload := by
  have hsplit := splitOn_segments (base64urlEncode_no_dot (utf8 (headerJson signer.kid))) hmiddle
    (base64urlEncode_no_dot (rsa.sign signer.privateKey
      (signingInput (base64urlEncode (utf8 (headerJson signer.kid))) payload)))
  refine ⟨_, _, _, _, hsplit, ?_, hrsa signer.privateKey _, .inl hne⟩
  rw [String.ofList_toList]
  exact base64urlDecode_encode _

end Verify

/-- **What is accepted is detached exactly if** it does not carry its signature otherwise. Whatever is
signed with whichever key, such a text is accepted as well. -/
theorem acceptedDetached_iff {Priv Pub : Type} (rsa : Rsa Priv Pub) (signer : OcenJWSSigner Priv)
    (payload : Payload) :
    (∀ s, AcceptedDetached rsa signer s payload.encode ↔ ¬ CarriesOtherwise rsa signer s payload.encode) ∧
    (rsa.Correct → ∃ s, signer.verify rsa s payload.encode = true ∧
      ¬ AcceptedDetached rsa signer s payload.encode) := by
  refine ⟨fun s => ⟨fun haccepted h => h.not_acceptedDetached haccepted, fun hother hverify => ?_⟩,
    fun hcorrect => ?_⟩
  · obtain ⟨headerB64, middle, signatureB64, signature, hsplit, hdecode, hrsa⟩ :=
      verifyUnder_iff.mp hverify
    rw [← String.toList_ofList (l := headerB64)] at hsplit
    refine ⟨String.ofList headerB64, signature, ⟨middle, signatureB64, hsplit, hdecode⟩, ?_⟩
    rw [eq_detached_iff hsplit]
    by_contra hform
    rw [not_and_or] at hform
    exact hother ⟨_, middle, signatureB64, signature, hsplit, hdecode, hrsa, hform⟩
  · have hother := carriesOtherwise_middle hcorrect signer payload.encode
      (show '.' ∉ "e30".toList by decide) (show "e30".toList ≠ [] by decide)
    exact ⟨_, hother.verify, hother.not_acceptedDetached⟩

theorem acceptedDetached_iff_sample : ∃ s, sampleSigner.verify sampleRsa s (utf8 "\x7b\x7d") = true ∧
    ¬ AcceptedDetached sampleRsa sampleSigner s (utf8 "\x7b\x7d") :=
  (acceptedDetached_iff sampleRsa sampleSigner (.str "\x7b\x7d")).2 sampleRsa_correct

/-- A signature with the payload between its dots, and one with padding. -/
theorem embeddedPayload_accepted :
    ¬ AcceptedDetached sampleRsa sampleSigner
      (base64urlEncode (utf8 (headerJson sampleSigner.kid)) ++ "." ++ "e30" ++ "." ++
        base64urlEncode (sampleRsa.sign sampleSigner.privateKey (signingInput
          (base64urlEncode (utf8 (headerJson sampleSigner.kid))) (utf8 "\x7b\x7d")))) (utf8 "\x7b\x7d") ∧
    ¬ AcceptedDetached sampleRsa sampleSigner "a..YS4=" [] := by
  have hpadded : CarriesOtherwise sampleRsa sampleSigner "a..YS4=" [] :=
    ⟨"a", [], "YS4=".toList, [97, 46], rfl, rfl, by decide +kernel, .inr (by decide)⟩
  exact ⟨(carriesOtherwise_middle sampleRsa_correct sampleSigner (utf8 "\x7b\x7d") (by decide)
    (by decide)).not_acceptedDetached, hpadded.not_acceptedDetached⟩

end OcenPlatform.Ocen
