import Mathlib.Data.Nat.Digits.Lemmas
import Mathlib.Data.Nat.Size

/-! Python's `int.to_bytes(length, "big")`, `int.from_bytes(bytes, "big")` and `int.bit_length()`, of
numbers that are not negative. -/

namespace OcenPlatform.BigEndian

def toBytes (n length : Nat) : Except String (List UInt8) :=
  if n < 256 ^ length then .ok ((Nat.digitsAppend 256 length n).reverse.map UInt8.ofNat)
  else .error "OverflowError"

def fromBytes (bytes : List UInt8) : Nat := Nat.ofDigits 256 (bytes.map UInt8.toNat).reverse

def bitLength (n : Nat) : Nat := n.size

example : toBytes 65537 3 = .ok [1, 0, 1] ∧ fromBytes [1, 0, 1] = 65537 := ⟨rfl, rfl⟩

theorem fromBytes_digits (n length : Nat) :
    fromBytes ((Nat.digitsAppend 256 length n).reverse.map UInt8.ofNat) = n := by
  have hbytes : ((Nat.digitsAppend 256 length n).reverse.map UInt8.ofNat).map UInt8.toNat =
      (Nat.digitsAppend 256 length n).reverse := by
    rw [List.map_map]
    conv_rhs => rw [← List.map_id (Nat.digitsAppend 256 length n).reverse]
    refine List.map_congr_left fun digit hdigit => ?_
    have hlt := Nat.lt_of_mem_digitsAppend (by omega) _ _ (List.mem_reverse.mp hdigit)
    exact UInt8.toNat_ofNat_of_lt hlt
  rw [fromBytes, hbytes, List.reverse_reverse, Nat.digitsAppend, Nat.ofDigits_append_replicate_zero,
    Nat.ofDigits_digits]

/-- As many bytes as the number has bits, in eights. -/
theorem lt_pow_bitLength (n : Nat) : n < 256 ^ ((bitLength n + 7) / 8) := by
  have hbits : n < 2 ^ bitLength n := Nat.lt_size_self n
  calc n < 2 ^ bitLength n := hbits
    _ ≤ 2 ^ (8 * ((bitLength n + 7) / 8)) := Nat.pow_le_pow_right (by omega) (by omega)
    _ = 256 ^ ((bitLength n + 7) / 8) := by rw [Nat.pow_mul]

/-- A number is read back from the bytes that its bits need. -/
theorem exists_toBytes (n : Nat) :
    ∃ bytes, toBytes n ((bitLength n + 7) / 8) = .ok bytes ∧ fromBytes bytes = n :=
  ⟨_, if_pos (lt_pow_bitLength n), fromBytes_digits n _⟩

end OcenPlatform.BigEndian
