import Mathlib.Data.List.DropRight

/-! Python's URL-safe base64: `urlsafe_b64encode` and the lenient decoder behind
`urlsafe_b64decode`, which skips foreign characters and stops at padding. -/

namespace OcenPlatform.Base64

def alphabet : List Char :=
  "ABCDEFGHIJKLMNOPQRSTUVWXYZabcdefghijklmnopqrstuvwxyz0123456789-_".toList

def encodeChar (n : Nat) : Char := alphabet.getD n 'A'

/-- Three bytes become four characters; a shorter last group is padded. -/
def b64encode : List UInt8 → List Char
  | [] => []
  | [a] => [encodeChar (a.toNat / 4), encodeChar (a.toNat % 4 * 16), '=', '=']
  | [a, b] => [encodeChar (a.toNat / 4), encodeChar (a.toNat % 4 * 16 + b.toNat / 16),
      encodeChar (b.toNat % 16 * 4), '=']
  | a :: b :: c :: rest => encodeChar (a.toNat / 4) ::
      encodeChar (a.toNat % 4 * 16 + b.toNat / 16) ::
      encodeChar (b.toNat % 16 * 4 + c.toNat / 64) :: encodeChar (c.toNat % 64) :: b64encode rest

/-- The decoder's table, after `-` and `_` have been translated to `+` and `/`. -/
def decodeChar (c : Char) : Option Nat :=
  if 'A' ≤ c ∧ c ≤ 'Z' then some (c.toNat - 'A'.toNat)
  else if 'a' ≤ c ∧ c ≤ 'z' then some (c.toNat - 'a'.toNat + 26)
  else if '0' ≤ c ∧ c ≤ '9' then some (c.toNat - '0'.toNat + 52)
  else if c = '-' ∨ c = '+' then some 62
  else if c = '_' ∨ c = '/' then some 63
  else none

/-- The loop of `binascii.a2b_base64`: position in the group of four, bits left
over from the last character, pad characters seen in a row, bytes so far. -/
def a2b (quadPos leftchar pads : Nat) (out : List UInt8) : List Char → Except String (List UInt8)
  | [] =>
    if quadPos = 0 then .ok out
    else if quadPos = 1 then .error "Invalid base64-encoded string"
    else .error "Incorrect padding"
  | c :: cs =>
    if c = '=' then
      if 2 ≤ quadPos then
        if 4 ≤ quadPos + (pads + 1) then .ok out else a2b quadPos leftchar (pads + 1) out cs
      else a2b quadPos leftchar pads out cs
    else
      match decodeChar c with
      | none => a2b quadPos leftchar pads out cs
      | some v =>
        match quadPos with
        | 0 => a2b 1 v 0 out cs
        | 1 => a2b 2 (v % 16) 0 (out ++ [.ofNat (leftchar * 4 + v / 16)]) cs
        | 2 => a2b 3 (v % 4) 0 (out ++ [.ofNat (leftchar * 16 + v / 4)]) cs
        | _ => a2b 0 0 0 (out ++ [.ofNat (leftchar * 64 + v)]) cs

def b64decode (s : List Char) : Except String (List UInt8) :=
  if s.all (·.toNat < 128) then a2b 0 0 0 [] s
  else .error "string argument should contain only ASCII characters"

/-- The encoding without its padding. -/
def base64urlEncode (data : List UInt8) : String :=
  String.ofList ((b64encode data).rdropWhile (· == '='))

/-- Pad to a multiple of four characters and decode. -/
def base64urlDecode (s : String) : Except String (List UInt8) :=
  let paddingNeeded := 4 - s.length % 4
  b64decode (if paddingNeeded ≠ 4 then s.toList ++ List.replicate paddingNeeded '=' else s.toList)

/-! ## Decoding what was encoded -/

/-- The encoding itself, as the unpadded characters. -/
def unpadded : List UInt8 → List Char
  | [] => []
  | [a] => [encodeChar (a.toNat / 4), encodeChar (a.toNat % 4 * 16)]
  | [a, b] => [encodeChar (a.toNat / 4), encodeChar (a.toNat % 4 * 16 + b.toNat / 16),
      encodeChar (b.toNat % 16 * 4)]
  | a :: b :: c :: rest => encodeChar (a.toNat / 4) ::
      encodeChar (a.toNat % 4 * 16 + b.toNat / 16) ::
      encodeChar (b.toNat % 16 * 4 + c.toNat / 64) :: encodeChar (c.toNat % 64) :: unpadded rest

theorem decodeChar_encodeChar {n : Nat} (hn : n < 64) : decodeChar (encodeChar n) = some n := by
  have hall : ∀ m : Fin 64, decodeChar (encodeChar m) = some m.val := by decide +kernel
  exact hall ⟨n, hn⟩

theorem encodeChar_mem (n : Nat) : encodeChar n ∈ alphabet := by
  unfold encodeChar
  rw [List.getD_eq_getElem?_getD]
  cases hn : alphabet[n]? with
  | none => decide
  | some c => exact List.mem_of_getElem? hn

theorem encodeChar_ne_pad (n : Nat) : encodeChar n ≠ '=' := by
  intro h
  have hmem := encodeChar_mem n
  rw [h] at hmem
  exact absurd hmem (by decide)

theorem mem_unpadded {data : List UInt8} {c : Char} (h : c ∈ unpadded data) : c ∈ alphabet := by
  induction data using unpadded.induct with
  | case1 => cases h
  | case2 a =>
    simp only [unpadded, List.mem_cons, List.not_mem_nil, or_false] at h
    rcases h with rfl | rfl <;> exact encodeChar_mem _
  | case3 a b =>
    simp only [unpadded, List.mem_cons, List.not_mem_nil, or_false] at h
    rcases h with rfl | rfl | rfl <;> exact encodeChar_mem _
  | case4 a b c rest ih =>
    simp only [unpadded, List.mem_cons] at h
    rcases h with rfl | rfl | rfl | rfl | h
    · exact encodeChar_mem _
    · exact encodeChar_mem _
    · exact encodeChar_mem _
    · exact encodeChar_mem _
    · exact ih h

/-- Padding is all that stripping removes. -/
theorem b64encode_eq (data : List UInt8) :
    ∃ n, b64encode data = unpadded data ++ List.replicate n '=' ∧
      ((unpadded data).length + n) % 4 = 0 ∧ n < 3 := by
  induction data using unpadded.induct with
  | case1 => exact ⟨0, rfl, rfl, by omega⟩
  | case2 a => exact ⟨2, rfl, by simp [unpadded], by omega⟩
  | case3 a b => exact ⟨1, rfl, by simp [unpadded], by omega⟩
  | case4 a b c rest ih =>
    obtain ⟨n, heq, hlen, hn⟩ := ih
    refine ⟨n, by simp [b64encode, unpadded, heq], ?_, hn⟩
    simp only [unpadded, List.length_cons]
    omega

theorem rstrip_pads (cs : List Char) (hcs : ∀ c ∈ cs, c ≠ '=') (n : Nat) :
    (cs ++ List.replicate n '=').rdropWhile (· == '=') = cs := by
  induction n with
  | zero =>
    rw [List.replicate_zero, List.append_nil, List.rdropWhile_eq_self_iff]
    intro hne
    simpa using hcs _ (List.getLast_mem hne)
  | succ n ih =>
    rw [List.replicate_succ', ← List.append_assoc, List.rdropWhile_concat_pos _ _ _ (by simp)]
    exact ih

theorem base64urlEncode_toList (data : List UInt8) :
    (base64urlEncode data).toList = unpadded data := by
  obtain ⟨n, heq, -⟩ := b64encode_eq data
  unfold base64urlEncode
  rw [String.toList_ofList, heq]
  refine rstrip_pads _ (fun c hc => ?_) n
  have hmem := mem_unpadded hc
  rintro rfl
  exact absurd hmem (by decide)

/-! A character of the alphabet takes the loop to the next position of its group. -/

section Positions

variable {n : Nat} (hn : n < 64) (leftchar pads : Nat) (out : List UInt8) (cs : List Char)
include hn

theorem a2b_first : a2b 0 leftchar pads out (encodeChar n :: cs) = a2b 1 n 0 out cs := by
  rw [a2b, if_neg (encodeChar_ne_pad n), decodeChar_encodeChar hn]
  rfl

theorem a2b_second : a2b 1 leftchar pads out (encodeChar n :: cs) =
    a2b 2 (n % 16) 0 (out ++ [.ofNat (leftchar * 4 + n / 16)]) cs := by
  rw [a2b, if_neg (encodeChar_ne_pad n), decodeChar_encodeChar hn]
  rfl

theorem a2b_third : a2b 2 leftchar pads out (encodeChar n :: cs) =
    a2b 3 (n % 4) 0 (out ++ [.ofNat (leftchar * 16 + n / 4)]) cs := by
  rw [a2b, if_neg (encodeChar_ne_pad n), decodeChar_encodeChar hn]
  rfl

theorem a2b_fourth : a2b 3 leftchar pads out (encodeChar n :: cs) =
    a2b 0 0 0 (out ++ [.ofNat (leftchar * 64 + n)]) cs := by
  rw [a2b, if_neg (encodeChar_ne_pad n), decodeChar_encodeChar hn]
  rfl

end Positions

theorem ofNat_eq {a : UInt8} {n : Nat} (h : n = a.toNat) : UInt8.ofNat n = a := by
  rw [h, UInt8.ofNat_toNat]

/-- **Loop invariant** of decoding: whole groups come out as they went in, and the
padding closes the last one. -/
theorem a2b_unpadded (data out : List UInt8) (n : Nat) (hn : ((unpadded data).length + n) % 4 = 0)
    (hlt : n < 4) (leftchar pads : Nat) :
    a2b 0 leftchar pads out (unpadded data ++ List.replicate n '=') = .ok (out ++ data) := by
  induction data using unpadded.induct generalizing out leftchar pads with
  | case1 =>
    obtain rfl : n = 0 := by simp only [unpadded, List.length_nil] at hn; omega
    simp [unpadded, a2b]
  | case2 a =>
    have ha := a.toNat_lt
    obtain rfl : n = 2 := by simp only [unpadded, List.length_cons, List.length_nil] at hn; omega
    simp only [unpadded, List.cons_append, List.nil_append]
    rw [a2b_first (by omega), a2b_second (by omega)]
    have hbyte : a.toNat / 4 * 4 + a.toNat % 4 * 16 / 16 = a.toNat := by omega
    rw [ofNat_eq hbyte]
    simp [List.replicate, a2b]
  | case3 a b =>
    have ha := a.toNat_lt
    have hb := b.toNat_lt
    obtain rfl : n = 1 := by simp only [unpadded, List.length_cons, List.length_nil] at hn; omega
    simp only [unpadded, List.cons_append, List.nil_append]
    rw [a2b_first (by omega), a2b_second (by omega), a2b_third (by omega)]
    have hfirst : a.toNat / 4 * 4 + (a.toNat % 4 * 16 + b.toNat / 16) / 16 = a.toNat := by omega
    have hsecond : (a.toNat % 4 * 16 + b.toNat / 16) % 16 * 16 + b.toNat % 16 * 4 / 4 = b.toNat := by
      omega
    rw [ofNat_eq hfirst, ofNat_eq hsecond]
    simp [List.replicate, a2b]
  | case4 a b c rest ih =>
    have ha := a.toNat_lt
    have hb := b.toNat_lt
    have hc := c.toNat_lt
    simp only [unpadded, List.cons_append]
    rw [a2b_first (by omega), a2b_second (by omega), a2b_third (by omega), a2b_fourth (by omega)]
    have hfirst : a.toNat / 4 * 4 + (a.toNat % 4 * 16 + b.toNat / 16) / 16 = a.toNat := by omega
    have hsecond : (a.toNat % 4 * 16 + b.toNat / 16) % 16 * 16 +
        (b.toNat % 16 * 4 + c.toNat / 64) / 4 = b.toNat := by omega
    have hthird : (b.toNat % 16 * 4 + c.toNat / 64) % 4 * 64 + c.toNat % 64 = c.toNat := by omega
    rw [ofNat_eq hfirst, ofNat_eq hsecond, ofNat_eq hthird]
    rw [ih _ (by simp only [unpadded, List.length_cons] at hn; omega)]
    simp

/-- Decoding undoes encoding. -/
theorem base64urlDecode_encode (data : List UInt8) :
    base64urlDecode (base64urlEncode data) = .ok data := by
  obtain ⟨n, -, hlen, hn⟩ := b64encode_eq data
  have hchars := base64urlEncode_toList data
  have hpadded : (if 4 - (base64urlEncode data).length % 4 ≠ 4 then (base64urlEncode data).toList ++
      List.replicate (4 - (base64urlEncode data).length % 4) '=' else (base64urlEncode data).toList) =
        unpadded data ++ List.replicate n '=' := by
    rw [← String.length_toList, hchars]
    split
    · rw [show 4 - (unpadded data).length % 4 = n by omega]
    · rw [show n = 0 by omega, List.replicate_zero, List.append_nil]
  have hascii : (unpadded data ++ List.replicate n '=').all (·.toNat < 128) = true := by
    have halphabet : alphabet.all (·.toNat < 128) = true := rfl
    rw [List.all_eq_true] at halphabet ⊢
    intro c hc
    rcases List.mem_append.mp hc with hc | hc
    · exact halphabet c (mem_unpadded hc)
    · rw [List.eq_of_mem_replicate hc]
      rfl
  simp only [base64urlDecode]
  rw [hpadded, b64decode, if_pos hascii, a2b_unpadded data [] n hlen (by omega), List.nil_append]

end OcenPlatform.Base64
