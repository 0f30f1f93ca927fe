import OcenPlatform.Uuid

/-! Python's `str.encode`, and SHA-256 and HMAC as `hashlib` and `hmac` have them. -/

namespace OcenPlatform.Hashlib

/-- `s.encode()`. -/
def encode (s : String) : List UInt8 := s.toByteArray.data.toList

theorem encode_ofList (cs : List Char) :
    encode (String.ofList cs) = cs.flatMap String.utf8EncodeChar := by
  simp [encode, List.utf8Encode]

/-! ## SHA-256 -/

abbrev Word := BitVec 32

def roundConstants : List Word :=
  [0x428a2f98, 0x71374491, 0xb5c0fbcf, 0xe9b5dba5, 0x3956c25b, 0x59f111f1, 0x923f82a4, 0xab1c5ed5,
    0xd807aa98, 0x12835b01, 0x243185be, 0x550c7dc3, 0x72be5d74, 0x80deb1fe, 0x9bdc06a7, 0xc19bf174,
    0xe49b69c1, 0xefbe4786, 0x0fc19dc6, 0x240ca1cc, 0x2de92c6f, 0x4a7484aa, 0x5cb0a9dc, 0x76f988da,
    0x983e5152, 0xa831c66d, 0xb00327c8, 0xbf597fc7, 0xc6e00bf3, 0xd5a79147, 0x06ca6351, 0x14292967,
    0x27b70a85, 0x2e1b2138, 0x4d2c6dfc, 0x53380d13, 0x650a7354, 0x766a0abb, 0x81c2c92e, 0x92722c85,
    0xa2bfe8a1, 0xa81a664b, 0xc24b8b70, 0xc76c51a3, 0xd192e819, 0xd6990624, 0xf40e3585, 0x106aa070,
    0x19a4c116, 0x1e376c08, 0x2748774c, 0x34b0bcb5, 0x391c0cb3, 0x4ed8aa4a, 0x5b9cca4f, 0x682e6ff3,
    0x748f82ee, 0x78a5636f, 0x84c87814, 0x8cc70208, 0x90befffa, 0xa4506ceb, 0xbef9a3f7, 0xc67178f2]

def ch (x y z : Word) : Word := x &&& y ^^^ ~~~x &&& z

def maj (x y z : Word) : Word := x &&& y ^^^ x &&& z ^^^ y &&& z

def bigSigma0 (x : Word) : Word := x.rotateRight 2 ^^^ x.rotateRight 13 ^^^ x.rotateRight 22

def bigSigma1 (x : Word) : Word := x.rotateRight 6 ^^^ x.rotateRight 11 ^^^ x.rotateRight 25

def smallSigma0 (x : Word) : Word := x.rotateRight 7 ^^^ x.rotateRight 18 ^^^ x >>> 3

def smallSigma1 (x : Word) : Word := x.rotateRight 17 ^^^ x.rotateRight 19 ^^^ x >>> 10

/-- The eight working variables. -/
structure Working where
  a : Word
  b : Word
  c : Word
  d : Word
  e : Word
  f : Word
  g : Word
  h : Word

def initialHash : Working where
  a := 0x6a09e667
  b := 0xbb67ae85
  c := 0x3c6ef372
  d := 0xa54ff53a
  e := 0x510e527f
  f := 0x9b05688c
  g := 0x1f83d9ab
  h := 0x5be0cd19

def Working.round (v : Working) (k w : Word) : Working :=
  let t1 := v.h + bigSigma1 v.e + ch v.e v.f v.g + k + w
  let t2 := bigSigma0 v.a + maj v.a v.b v.c
  { a := t1 + t2, b := v.a, c := v.b, d := v.c, e := v.d + t1, f := v.e, g := v.f, h := v.g }

def Working.add (v v' : Working) : Working where
  a := v.a + v'.a
  b := v.b + v'.b
  c := v.c + v'.c
  d := v.d + v'.d
  e := v.e + v'.e
  f := v.f + v'.f
  g := v.g + v'.g
  h := v.h + v'.h

/-- `n` more words of the message schedule. The last one comes first. -/
def extend (schedule : List Word) : Nat → List Word
  | 0 => schedule
  | n + 1 =>
    let next := smallSigma1 (schedule.getD 1 0) + schedule.getD 6 0 +
      smallSigma0 (schedule.getD 14 0) + schedule.getD 15 0
    extend (next :: schedule) n

def rounds (v : Working) : List Word → List Word → Working
  | k :: ks, w :: ws => rounds (v.round k w) ks ws
  | _, _ => v

def bigEndian (bytes : List UInt8) : Nat := bytes.foldl (fun n b => n * 256 + b.toNat) 0

/-- The first `n` pieces of `size` bytes. -/
def pieces (size : Nat) : Nat → List UInt8 → List (List UInt8)
  | 0, _ => []
  | n + 1, bytes => bytes.take size :: pieces size n (bytes.drop size)

def Working.compress (v : Working) (block : List UInt8) : Working :=
  let words := (pieces 4 16 block).map fun word => .ofNat 32 (bigEndian word)
  v.add (rounds v roundConstants (extend words.reverse 48).reverse)

/-- The message, a one bit, zeros up to a multiple of 64 bytes, and its length. -/
def padded (message : List UInt8) : List UInt8 :=
  message ++ 0x80 :: List.replicate ((119 - message.length % 64) % 64) 0 ++
    (List.range 8).map fun i => .ofNat ((message.length * 8) >>> (8 * (7 - i)))

/-- `hashlib.sha256(message).digest()`. -/
def sha256 (message : List UInt8) : BitVec 256 :=
  let blocks := pieces 64 ((padded message).length / 64) (padded message)
  let v := blocks.foldl Working.compress initialHash
  v.a ++ v.b ++ v.c ++ v.d ++ v.e ++ v.f ++ v.g ++ v.h

example : sha256 (encode "abc") =
    0xba7816bf8f01cfea414140de5dae2223b00361a396177a9cb410ff61f20015ad := by decide +kernel

/-- `digest.hex()`. -/
def hexdigest (digest : BitVec 256) : String :=
  String.ofList ((List.range 64).map fun i => Uuid.hexDigit (digest.toNat >>> (4 * (63 - i))))

/-- `hashlib.sha256(message).hexdigest()`. -/
def sha256Hex (message : List UInt8) : String := hexdigest (sha256 message)

/-! ## HMAC -/

def digestBytes (digest : BitVec 256) : List UInt8 :=
  (List.range 32).map fun i => .ofNat (digest.toNat >>> (8 * (31 - i)))

/-- A key longer than a block is hashed, a shorter one is filled up with zeros. -/
def blockKey (key : List UInt8) : List UInt8 :=
  let key := if key.length ≤ 64 then key else digestBytes (sha256 key)
  key ++ List.replicate (64 - key.length) 0

/-- `hmac.new(key, message, hashlib.sha256).hexdigest()`. -/
def hmacHex (key message : List UInt8) : String :=
  let inner := sha256 ((blockKey key).map (· ^^^ 0x36) ++ message)
  sha256Hex ((blockKey key).map (· ^^^ 0x5c) ++ digestBytes inner)

example : hmacHex (encode "key") (encode "The quick brown fox jumps over the lazy dog") =
    "f7bc83f430538424b13298e6aa6fb143ef4d59a14946175997479dbc2d1a3cd8" := by decide +kernel

/-! ## The text of a digest -/

/-- The bytes of a hexadecimal digit. -/
def hexByte (n : Nat) : UInt8 := (Uuid.hexDigit n).val.toUInt8

theorem utf8EncodeChar_hexDigit (n : Nat) :
    String.utf8EncodeChar (Uuid.hexDigit n) = [hexByte n] := by
  have hdigit : ∀ m < 16, String.utf8EncodeChar (Nat.digitChar m) =
      [(Nat.digitChar m).val.toUInt8] := by decide
  exact hdigit (n % 16) (by omega)

theorem hexByte_inj {n m : Nat} (h : hexByte n = hexByte m) : n % 16 = m % 16 := by
  have hdigits : ∀ i < 16, ∀ j < 16,
      (Nat.digitChar i).val.toUInt8 = (Nat.digitChar j).val.toUInt8 → i = j := by decide
  exact hdigits (n % 16) (by omega) (m % 16) (by omega) h

/-- A digit is no brace. -/
theorem hexByte_ne (n : Nat) : hexByte n ≠ 125 := by
  have hdigits : ∀ i < 16, (Nat.digitChar i).val.toUInt8 ≠ 125 := by decide
  exact hdigits (n % 16) (by omega)

theorem encode_hexdigest (digest : BitVec 256) : encode (hexdigest digest) =
    (List.range 64).map fun i => hexByte (digest.toNat >>> (4 * (63 - i))) := by
  unfold hexdigest
  rw [encode_ofList, List.flatMap_map]
  simp only [utf8EncodeChar_hexDigit]
  exact List.map_eq_flatMap.symm

/-- The text of a digest has 64 bytes. -/
theorem length_encode_hexdigest (digest : BitVec 256) :
    (encode (hexdigest digest)).length = 64 := by
  simp [encode_hexdigest]

theorem not_mem_encode_hexdigest (digest : BitVec 256) : 125 ∉ encode (hexdigest digest) := by
  rw [encode_hexdigest]
  intro hmem
  obtain ⟨i, -, hi⟩ := List.mem_map.mp hmem
  exact hexByte_ne _ hi

/-- A digest can be read back from its text. -/
theorem encode_hexdigest_inj {d d' : BitVec 256}
    (h : encode (hexdigest d) = encode (hexdigest d')) : d = d' := by
  rw [encode_hexdigest, encode_hexdigest] at h
  have hdigit : ∀ j < 64, (d.toNat >>> (4 * j)) % 16 = (d'.toNat >>> (4 * j)) % 16 := by
    intro j hj
    have hbyte := List.map_inj_left.mp h (63 - j) (by simp; omega)
    have hsub : 63 - (63 - j) = j := by omega
    rw [hsub] at hbyte
    exact hexByte_inj hbyte
  apply BitVec.eq_of_getLsbD_eq
  intro i hi
  have hbit := congrArg (Nat.testBit · (i % 4)) (hdigit (i / 4) (by omega))
  have hmod : ∀ n : Nat, (n >>> (4 * (i / 4)) % 16).testBit (i % 4) = n.testBit i := by
    intro n
    have hpos : 4 * (i / 4) + i % 4 = i := by omega
    rw [show (16 : Nat) = 2 ^ 4 from rfl, Nat.testBit_mod_two_pow, Nat.testBit_shiftRight, hpos]
    simp [Nat.mod_lt]
  simp only [hmod] at hbit
  exact hbit

theorem hexdigest_inj {d d' : BitVec 256} (h : hexdigest d = hexdigest d') : d = d' :=
  encode_hexdigest_inj (by rw [h])

/-- Two messages with one digest. -/
def Collision (message message' : List UInt8) : Prop :=
  message ≠ message' ∧ sha256 message = sha256 message'

theorem sha256Hex_eq_iff {message message' : List UInt8} :
    sha256Hex message = sha256Hex message' ↔ message = message' ∨ Collision message message' := by
  have hsha : sha256Hex message = sha256Hex message' ↔ sha256 message = sha256 message' :=
    ⟨hexdigest_inj, congrArg hexdigest⟩
  rw [hsha]
  by_cases hsame : message = message'
  · rw [hsame, eq_self, true_iff]
    exact .inl rfl
  · exact ⟨fun h => .inr ⟨hsame, h⟩, fun h => (h.resolve_left hsame).2⟩

theorem hexdigest_ne_empty (digest : BitVec 256) : hexdigest digest ≠ "" := by
  intro hempty
  have hlength := length_encode_hexdigest digest
  rw [hempty] at hlength
  exact absurd hlength (by decide)

end OcenPlatform.Hashlib
