import OcenPlatform.Encoding.BigEndian
import OcenPlatform.Ocen.JsonDumps

/-! The public key of a signer as a JWK text, and the verification of a signature under such a
text: where it says what the signer itself says. -/

namespace OcenPlatform.Ocen

open Base64 BigEndian JsonText

/-! ## Model -/

structure RsaPublicNumbers where
  e : Nat
  n : Nat

/-- `public_numbers()` of a key, and `RSAPublicNumbers(e, n).public_key()`, which rejects numbers
that no key has. -/
structure RsaKeys (Pub : Type) where
  publicNumbers : Pub → RsaPublicNumbers
  publicKey : RsaPublicNumbers → Except String Pub

/-- A key is recovered from its numbers. -/
def RsaKeys.Recovers {Pub : Type} (keys : RsaKeys Pub) : Prop :=
  ∀ key, keys.publicKey (keys.publicNumbers key) = .ok key

/-- `payload: str | bytes`. -/
inductive Payload where
  | str (s : String)
  | bytes (data : List UInt8)

/-- `payload.encode("utf-8")` of a text. -/
def Payload.encode : Payload → List UInt8
  | .str s => utf8 s
  | .bytes data => data

def encodeInteger (n : Nat) : Except String String := do
  return base64urlEncode (← toBytes n ((bitLength n + 7) / 8))

/-- `jwk`. -/
def jwkMembers (kid n e : String) : List (String × String) :=
  [("kty", "RSA"), ("alg", "RS256"), ("use", "sig"), ("kid", kid), ("n", n), ("e", e)]

/-- `jwk_data[key]`. -/
def subscript (v : Value) (key : String) : Except String Value :=
  match v with
  | .object fields =>
    match PyDict.find? fields key with
    | some value => .ok value
    | none => .error "KeyError"
  | _ => .error "TypeError"

/-- `int.from_bytes(_base64url_decode(value), "big")`. -/
def decodeInteger : Value → Except String Nat
  | .string s => do return fromBytes (← base64urlDecode s)
  | _ => .error "TypeError"

/-- The modulus and the exponent of a JWK text. -/
def numbersOfJwk (publicKeyJwk : String) : Except String RsaPublicNumbers := do
  let jwkData ← loads publicKeyJwk
  let n ← decodeInteger (← subscript jwkData "n")
  let e ← decodeInteger (← subscript jwkData "e")
  return { e, n }

section Signer

variable {Priv Pub : Type} (rsa : Rsa Priv Pub) (keys : RsaKeys Pub)

/-- `get_public_key_jwk`. -/
def OcenJWSSigner.getPublicKeyJwk (signer : OcenJWSSigner Priv) : Except String String := do
  let pubNumbers := keys.publicNumbers (rsa.publicKey signer.privateKey)
  let n ← encodeInteger pubNumbers.n
  let e ← encodeInteger pubNumbers.e
  return dumpsObject (jwkMembers signer.kid n e)

/-- `verify_with_public_key`: only the verification itself is in a `try` block. -/
def verifyWithPublicKey (detachedSignature : String) (payload : List UInt8) (publicKeyJwk : String) :
    Except String Bool :=
  match detachedSignature.toList.splitOn '.' with
  | [headerB64, _, signatureB64] => do
    let pubKey ← keys.publicKey (← numbersOfJwk publicKeyJwk)
    let signature ← base64urlDecode (String.ofList signatureB64)
    return rsa.verify pubKey signature (signingInput (String.ofList headerB64) payload)
  | _ => .ok false

variable {rsa keys}

/-! ## The numbers -/

theorem exists_encodeInteger (n : Nat) :
    ∃ text, encodeInteger n = .ok text ∧ decodeInteger (.string text) = .ok n := by
  obtain ⟨bytes, hbytes, hn⟩ := exists_toBytes n
  refine ⟨base64urlEncode bytes, by rw [encodeInteger, hbytes]; rfl, ?_⟩
  rw [decodeInteger, base64urlDecode_encode]
  exact congrArg Except.ok hn

theorem loads_jwkMembers (kid n e : String) : ∃ jwkData,
    loads (dumpsObject (jwkMembers kid n e)) = .ok jwkData ∧
      subscript jwkData "n" = .ok (.string n) ∧ subscript jwkData "e" = .ok (.string e) := by
  have hkeys : (((jwkMembers kid n e).map fun p => (p.1, Value.string p.2)).map Prod.fst).Nodup := by
    simp [jwkMembers]
  refine ⟨_, loads_dumpsObject (List.cons_ne_nil _ _), ?_, ?_⟩
  · rw [subscript, PyDict.find?_update hkeys]
    simp [jwkMembers]
  · rw [subscript, PyDict.find?_update hkeys]
    simp [jwkMembers]

/-- The exported numbers are those of the key. -/
theorem exists_getPublicKeyJwk (rsa : Rsa Priv Pub) (keys : RsaKeys Pub) (signer : OcenJWSSigner Priv) :
    ∃ jwk, signer.getPublicKeyJwk rsa keys = .ok jwk ∧
      numbersOfJwk jwk = .ok (keys.publicNumbers (rsa.publicKey signer.privateKey)) := by
  obtain ⟨n, hn, hn'⟩ := exists_encodeInteger (keys.publicNumbers (rsa.publicKey signer.privateKey)).n
  obtain ⟨e, he, he'⟩ := exists_encodeInteger (keys.publicNumbers (rsa.publicKey signer.privateKey)).e
  obtain ⟨jwkData, hloads, hjwkN, hjwkE⟩ := loads_jwkMembers signer.kid n e
  refine ⟨dumpsObject (jwkMembers signer.kid n e), ?_, ?_⟩
  · rw [OcenJWSSigner.getPublicKeyJwk, hn, he]
    rfl
  · simp only [numbersOfJwk, hloads, bind, Except.bind, hjwkN, hjwkE, hn', he']
    rfl

/-! ## The two verifiers -/

/-- What the exported key verifies. -/
theorem exists_verifyWithPublicKey (rsa : Rsa Priv Pub) (hkeys : keys.Recovers) (signer : OcenJWSSigner Priv)
    (detachedSignature : String) (payload : List UInt8) :
    ∃ jwk, signer.getPublicKeyJwk rsa keys = .ok jwk ∧
      verifyWithPublicKey rsa keys detachedSignature payload jwk =
        match detachedSignature.toList.splitOn '.' with
        | [headerB64, _, signatureB64] => do
          let signature ← base64urlDecode (String.ofList signatureB64)
          return rsa.verify (rsa.publicKey signer.privateKey) signature
            (signingInput (String.ofList headerB64) payload)
        | _ => .ok false := by
  obtain ⟨jwk, hjwk, hnumbers⟩ := exists_getPublicKeyJwk rsa keys signer
  refine ⟨jwk, hjwk, ?_⟩
  unfold verifyWithPublicKey
  split
  · simp only [hnumbers, bind, Except.bind, hkeys _]
  · rfl

/-- The text has three segments, the last of which cannot be decoded. -/
def Undecodable (detachedSignature : String) : Prop :=
  ∃ headerB64 middle signatureB64 e,
    detachedSignature.toList.splitOn '.' = [headerB64, middle, signatureB64] ∧
      base64urlDecode (String.ofList signatureB64) = .error e

/-- The verifier with the exported key returns what the signer's own verifier returns. -/
def VerifiersAgree (rsa : Rsa Priv Pub) (keys : RsaKeys Pub) (signer : OcenJWSSigner Priv)
    (detachedSignature : String) (payload : List UInt8) : Prop :=
  ∃ jwk, signer.getPublicKeyJwk rsa keys = .ok jwk ∧
    verifyWithPublicKey rsa keys detachedSignature payload jwk =
      .ok (signer.verify rsa detachedSignature payload)

theorem verifiersAgree_of_decodable (rsa : Rsa Priv Pub) (hkeys : keys.Recovers)
    (signer : OcenJWSSigner Priv) {detachedSignature : String} (h : ¬ Undecodable detachedSignature)
    (payload : List UInt8) : VerifiersAgree rsa keys signer detachedSignature payload := by
  obtain ⟨jwk, hjwk, hverify⟩ :=
    exists_verifyWithPublicKey rsa hkeys signer detachedSignature payload
  refine ⟨jwk, hjwk, hverify.trans ?_⟩
  rw [OcenJWSSigner.verify, verifyUnder]
  generalize hsplit : detachedSignature.toList.splitOn '.' = segments
  obtain _ | ⟨headerB64, _ | ⟨middle, _ | ⟨signatureB64, _ | ⟨extra, rest⟩⟩⟩⟩ := segments
  case cons.cons.cons.nil =>
    cases hdecode : base64urlDecode (String.ofList signatureB64) with
    | ok signature =>
      simp only [hdecode]
      rfl
    | error e => exact absurd ⟨_, _, _, e, hsplit, hdecode⟩ h
  all_goals rfl

/-- What cannot be decoded is raised by one verifier, and rejected by the other. -/
theorem Undecodable.raises (rsa : Rsa Priv Pub) (hkeys : keys.Recovers)
    (signer : OcenJWSSigner Priv) {detachedSignature : String} (h : Undecodable detachedSignature)
    (payload : List UInt8) :
    signer.verify rsa detachedSignature payload = false ∧ ∃ jwk e,
      signer.getPublicKeyJwk rsa keys = .ok jwk ∧
        verifyWithPublicKey rsa keys detachedSignature payload jwk = .error e := by
  obtain ⟨headerB64, middle, signatureB64, e, hsplit, hdecode⟩ := h
  obtain ⟨jwk, hjwk, hverify⟩ :=
    exists_verifyWithPublicKey rsa hkeys signer detachedSignature payload
  refine ⟨?_, jwk, e, hjwk, ?_⟩
  · rw [OcenJWSSigner.verify, verifyUnder]
    simp only [hsplit, hdecode]
  · simp only [hsplit, hdecode] at hverify
    exact hverify

theorem not_verifiersAgree (hkeys : keys.Recovers) (signer : OcenJWSSigner Priv)
    {detachedSignature : String} (h : Undecodable detachedSignature) (payload : List UInt8) :
    ¬ VerifiersAgree rsa keys signer detachedSignature payload := by
  rintro ⟨jwk, hjwk, hagrees⟩
  obtain ⟨-, jwk', e, hjwk', hraises⟩ := h.raises rsa hkeys signer payload
  obtain rfl := Except.ok.inj (hjwk.symm.trans hjwk')
  rw [hraises] at hagrees
  cases hagrees

/-- The parts of a signature that was made. -/
theorem not_undecodable_sign (signer : OcenJWSSigner Priv) (payload : List UInt8) :
    ¬ Undecodable (signer.sign rsa payload) := by
  rintro ⟨headerB64, middle, signatureB64, e, hsplit, hdecode⟩
  have hdetached := splitOn_detached (base64urlEncode_no_dot (utf8 (headerJson signer.kid)))
    (base64urlEncode_no_dot (rsa.sign signer.privateKey
      (signingInput (base64urlEncode (utf8 (headerJson signer.kid))) payload)))
  rw [OcenJWSSigner.sign, hdetached] at hsplit
  simp only [List.cons.injEq, and_true] at hsplit
  obtain ⟨-, -, rfl⟩ := hsplit
  rw [String.ofList_toList, base64urlDecode_encode] at hdecode
  cases hdecode

end Signer

/-- **What is signed verifies**, under the signer and under its exported key. -/
theorem sign_roundTrip {Priv Pub : Type} (rsa : Rsa Priv Pub) (hrsa : rsa.Correct)
    (keys : RsaKeys Pub) (hkeys : keys.Recovers) (signer : OcenJWSSigner Priv) (payload : Payload) :
    (∃ headerB64 signatureB64 : String,
      signer.sign rsa payload.encode = headerB64 ++ ".." ++ signatureB64 ∧
        '.' ∉ headerB64.toList ∧ '.' ∉ signatureB64.toList) ∧
    signer.verify rsa (signer.sign rsa payload.encode) payload.encode = true ∧
    (∃ jwk, signer.getPublicKeyJwk rsa keys = .ok jwk ∧
      verifyWithPublicKey rsa keys (signer.sign rsa payload.encode) payload.encode jwk = .ok true ∧
      numbersOfJwk jwk = .ok (keys.publicNumbers (rsa.publicKey signer.privateKey))) ∧
    ∀ data, base64urlDecode (base64urlEncode data) = .ok data := by
  have hverify := verify_sign hrsa signer payload.encode
  refine ⟨⟨_, _, rfl, base64urlEncode_no_dot _, base64urlEncode_no_dot _⟩, hverify, ?_,
    base64urlDecode_encode⟩
  obtain ⟨jwk, hjwk, hagrees⟩ := verifiersAgree_of_decodable rsa hkeys signer
    (not_undecodable_sign signer payload.encode) payload.encode
  obtain ⟨jwk', hjwk', hnumbers⟩ := exists_getPublicKeyJwk rsa keys signer
  obtain rfl := Except.ok.inj (hjwk.symm.trans hjwk')
  exact ⟨jwk, hjwk, hagrees.trans (by rw [hverify]), hnumbers⟩

/-! A scheme whose keys are their numbers and whose signatures are what they sign. -/

def sampleRsa : Rsa RsaPublicNumbers RsaPublicNumbers where
  publicKey := id
  sign _ data := data
  verify _ signature data := signature == data

def sampleKeys : RsaKeys RsaPublicNumbers where
  publicNumbers := id
  publicKey := .ok

def sampleSigner : OcenJWSSigner RsaPublicNumbers where
  privateKey := { e := 17, n := 3233 }
  kid := "dev-key-1"

theorem sampleRsa_correct : sampleRsa.Correct := fun _ _ => beq_self_eq_true _

theorem sampleKeys_recovers : sampleKeys.Recovers := fun _ => rfl

theorem sign_roundTrip_sample :
    sampleSigner.verify sampleRsa (sampleSigner.sign sampleRsa (utf8 "\x7b\x7d")) (utf8 "\x7b\x7d") = true :=
  (sign_roundTrip sampleRsa sampleRsa_correct sampleKeys sampleKeys_recovers sampleSigner
    (.str "\x7b\x7d")).2.1

/-- **The two verifiers agree exactly if** it is not so that the text has three segments and the last
one cannot be decoded. -/
theorem verifiersAgree_iff {Priv Pub : Type} (rsa : Rsa Priv Pub) (keys : RsaKeys Pub)
    (hkeys : keys.Recovers) (signer : OcenJWSSigner Priv) (detachedSignature : String)
    (payload : Payload) : VerifiersAgree rsa keys signer detachedSignature payload.encode ↔
      ¬ Undecodable detachedSignature :=
  ⟨fun hagrees h => not_verifiersAgree hkeys signer h payload.encode hagrees,
    fun h => verifiersAgree_of_decodable rsa hkeys signer h payload.encode⟩

theorem verifiersAgree_iff_invalid : VerifiersAgree sampleRsa sampleKeys sampleSigner "invalid" [] := by
  refine (verifiersAgree_iff sampleRsa sampleKeys sampleKeys_recovers sampleSigner "invalid"
    (.bytes [])).mpr ?_
  rintro ⟨headerB64, middle, signatureB64, e, hsplit, -⟩
  have hlength : ("invalid".toList.splitOn '.').length = 3 := by rw [hsplit]; rfl
  exact absurd hlength (by decide)

/-- One character of base64 at the end. -/
theorem truncated_raises : ¬ VerifiersAgree sampleRsa sampleKeys sampleSigner "a..b" [] :=
  not_verifiersAgree sampleKeys_recovers sampleSigner
    ⟨_, _, _, "Invalid base64-encoded string", rfl, rfl⟩ []

end OcenPlatform.Ocen
