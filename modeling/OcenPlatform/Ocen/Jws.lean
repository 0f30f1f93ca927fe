import OcenPlatform.Encoding.Base64
import OcenPlatform.Uuid

/-! Detached JWS signatures over request bodies. RSA is a parameter; headers,
segments and base64 are as the signer writes and reads them. -/

namespace OcenPlatform.Ocen

open Base64

/-- RSA-SHA256 with PKCS #1 v1.5 padding: `verify key signature data`. -/
structure Rsa (Priv Pub : Type) where
  publicKey : Priv → Pub
  sign : Priv → List UInt8 → List UInt8
  verify : Pub → List UInt8 → List UInt8 → Bool

/-- What a private key signs, its public key verifies. -/
def Rsa.Correct {Priv Pub : Type} (rsa : Rsa Priv Pub) : Prop :=
  ∀ key data, rsa.verify (rsa.publicKey key) (rsa.sign key data) data = true

structure OcenJWSSigner (Priv : Type) where
  privateKey : Priv
  kid : String

/-! ## The header -/

def hex4 (n : Nat) : List Char :=
  [Uuid.hexDigit (n / 4096), Uuid.hexDigit (n / 256), Uuid.hexDigit (n / 16), Uuid.hexDigit n]

/-- One character of a string literal of `json.dumps`, which writes ASCII only. -/
def escapeChar (c : Char) : List Char :=
  if c = '"' then ['\\', '"']
  else if c = '\\' then ['\\', '\\']
  else if c = '\n' then ['\\', 'n']
  else if c = '\r' then ['\\', 'r']
  else if c = '\t' then ['\\', 't']
  else if c.toNat = 12 then ['\\', 'f']
  else if c.toNat = 8 then ['\\', 'b']
  else if 32 ≤ c.toNat ∧ c.toNat < 127 then [c]
  else if c.toNat < 65536 then '\\' :: 'u' :: hex4 c.toNat
  else
    let n := c.toNat - 65536
    '\\' :: 'u' :: hex4 (55296 + n / 1024) ++ '\\' :: 'u' :: hex4 (56320 + n % 1024)

def dumpsString (s : String) : String := String.ofList ('"' :: s.toList.flatMap escapeChar ++ ['"'])

/-- `json.dumps` of the signer's header. -/
def headerJson (kid : String) : String :=
  "\x7b\"alg\": \"RS256\", \"kid\": " ++ dumpsString kid ++
    ", \"b64\": false, \"crit\": [\"b64\"]\x7d"

/-! ## Signing and verifying -/

def utf8 (s : String) : List UInt8 := s.toUTF8.toList

/-- `header_b64.encode() + b"." + payload`. -/
def signingInput (headerB64 : String) (payload : List UInt8) : List UInt8 :=
  utf8 headerB64 ++ 46 :: payload

section Signer

variable {Priv Pub : Type} (rsa : Rsa Priv Pub)

/-- `sign`: header, an empty payload segment, signature. -/
def OcenJWSSigner.sign (signer : OcenJWSSigner Priv) (payload : List UInt8) : String :=
  let headerB64 := base64urlEncode (utf8 (headerJson signer.kid))
  let signatureB64 := base64urlEncode (rsa.sign signer.privateKey (signingInput headerB64 payload))
  headerB64 ++ ".." ++ signatureB64

/-- `verify` under a public key: whatever is raised on the way counts as false. -/
def verifyUnder (key : Pub) (detachedSignature : String) (payload : List UInt8) : Bool :=
  match detachedSignature.toList.splitOn '.' with
  | [headerB64, _, signatureB64] =>
    match base64urlDecode (String.ofList signatureB64) with
    | .ok signature => rsa.verify key signature (signingInput (String.ofList headerB64) payload)
    | .error _ => false
  | _ => false

def OcenJWSSigner.verify (signer : OcenJWSSigner Priv) (detachedSignature : String)
    (payload : List UInt8) : Bool :=
  verifyUnder rsa (rsa.publicKey signer.privateKey) detachedSignature payload

/-! ## What a verifying signature is -/

/-- The text has three segments, the last of which decodes to a signature of the
first one and this payload. -/
def Verifies (key : Pub) (detachedSignature : String) (payload : List UInt8) : Prop :=
  ∃ headerB64 middle signatureB64 signature,
    detachedSignature.toList.splitOn '.' = [headerB64, middle, signatureB64] ∧
    base64urlDecode (String.ofList signatureB64) = .ok signature ∧
    rsa.verify key signature (signingInput (String.ofList headerB64) payload) = true

variable {rsa}

theorem verifyUnder_iff {key : Pub} {detachedSignature : String} {payload : List UInt8} :
    verifyUnder rsa key detachedSignature payload = true ↔
      Verifies rsa key detachedSignature payload := by
  unfold verifyUnder
  constructor
  · intro h
    split at h
    · rename_i headerB64 middle signatureB64 hsplit
      split at h
      · rename_i signature hdecode
        exact ⟨headerB64, middle, signatureB64, signature, hsplit, hdecode, h⟩
      · cases h
    · cases h
  · rintro ⟨headerB64, middle, signatureB64, signature, hsplit, hdecode, hverify⟩
    rw [hsplit]
    simp only [hdecode]
    exact hverify

theorem base64urlEncode_no_dot (data : List UInt8) : '.' ∉ (base64urlEncode data).toList := by
  rw [base64urlEncode_toList]
  intro h
  exact absurd (mem_unpadded h) (by decide)

/-- Three segments without dots are read back. -/
theorem splitOn_segments {headerB64 middle signatureB64 : String} (hh : '.' ∉ headerB64.toList)
    (hm : '.' ∉ middle.toList) (hs : '.' ∉ signatureB64.toList) :
    (headerB64 ++ "." ++ middle ++ "." ++ signatureB64).toList.splitOn '.' =
      [headerB64.toList, middle.toList, signatureB64.toList] := by
  have hjoin : (headerB64 ++ "." ++ middle ++ "." ++ signatureB64).toList =
      headerB64.toList ++ '.' :: (middle.toList ++ '.' :: signatureB64.toList) := by simp
  rw [hjoin, List.splitOn_append_cons_self_of_not_mem hh, List.splitOn_append_cons_self_of_not_mem hm,
    List.splitOn_eq_singleton hs]

/-- A signature splits into its header, nothing, and its last segment. -/
theorem splitOn_detached {headerB64 signatureB64 : String} (hh : '.' ∉ headerB64.toList)
    (hs : '.' ∉ signatureB64.toList) : (headerB64 ++ ".." ++ signatureB64).toList.splitOn '.' =
      [headerB64.toList, [], signatureB64.toList] := by
  have hempty : headerB64 ++ ".." ++ signatureB64 = headerB64 ++ "." ++ "" ++ "." ++ signatureB64 := by
    apply String.toList_injective
    simp
  rw [hempty]
  exact splitOn_segments hh List.not_mem_nil hs

/-- A body signed with a private key verifies under its public key. -/
theorem verify_sign (hrsa : rsa.Correct) (signer : OcenJWSSigner Priv) (payload : List UInt8) :
    signer.verify rsa (signer.sign rsa payload) payload = true := by
  rw [OcenJWSSigner.verify, verifyUnder_iff]
  have hsplit := splitOn_detached (base64urlEncode_no_dot (utf8 (headerJson signer.kid)))
    (base64urlEncode_no_dot (rsa.sign signer.privateKey
      (signingInput (base64urlEncode (utf8 (headerJson signer.kid))) payload)))
  refine ⟨_, _, _, _, hsplit, ?_, hrsa signer.privateKey _⟩
  rw [String.ofList_toList, String.ofList_toList]
  exact base64urlDecode_encode _

end Signer

end OcenPlatform.Ocen
