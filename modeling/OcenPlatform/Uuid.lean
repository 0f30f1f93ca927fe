/-! UUIDs as Python's `uuid` module has them: a 128-bit integer and its
canonical text. -/

namespace OcenPlatform

structure Uuid where
  int : BitVec 128
  deriving DecidableEq, Repr

namespace Uuid

def hexDigit (n : Nat) : Char := Nat.digitChar (n % 16)

/-- `'%032x' % self.int`. -/
def hex (u : Uuid) : List Char :=
  (List.range 32).map fun i => hexDigit (u.int.toNat >>> (4 * (31 - i)))

/-- The characters of the text, in groups of 8, 4, 4, 4 and 12. -/
def chars (u : Uuid) : List Char :=
  u.hex.take 8 ++ '-' :: (u.hex.drop 8).take 4 ++ '-' :: (u.hex.drop 12).take 4 ++
    '-' :: (u.hex.drop 16).take 4 ++ '-' :: u.hex.drop 20

/-- `str(u)`. -/
def str (u : Uuid) : String := String.ofList u.chars

example : (Uuid.mk 0x12345678123456781234567812345678).str =
    "12345678-1234-5678-1234-567812345678" := by decide

theorem hexDigit_mem (n : Nat) : hexDigit n ∈ "0123456789abcdef".toList := by
  have hdigit : ∀ m < 16, Nat.digitChar m ∈ "0123456789abcdef".toList := by decide
  exact hdigit (n % 16) (by omega)

/-- The text starts with a hexadecimal digit. -/
theorem str_head (u : Uuid) : ∃ c rest, u.str.toList = c :: rest ∧
    c ∈ "0123456789abcdef".toList := by
  refine ⟨hexDigit (u.int.toNat >>> 124), u.chars.tail, ?_, hexDigit_mem _⟩
  unfold str
  rw [String.toList_ofList]
  rfl

theorem length_hex (u : Uuid) : u.hex.length = 32 := by simp [hex]

theorem hexDigit_inj {n m : Nat} (h : hexDigit n = hexDigit m) : n % 16 = m % 16 := by
  have hdigits : ∀ i < 16, ∀ j < 16, Nat.digitChar i = Nat.digitChar j → i = j := by decide
  exact hdigits (n % 16) (by omega) (m % 16) (by omega) h

theorem hex_inj {u v : Uuid} (h : u.hex = v.hex) : u = v := by
  have hdigit : ∀ j < 32, (u.int.toNat >>> (4 * j)) % 16 = (v.int.toNat >>> (4 * j)) % 16 := by
    intro j hj
    have hchar := List.map_inj_left.mp h (31 - j) (by simp; omega)
    have hsub : 31 - (31 - j) = j := by omega
    rw [hsub] at hchar
    exact hexDigit_inj hchar
  have hint : u.int = v.int := by
    apply BitVec.eq_of_getLsbD_eq
    intro i hi
    have hbit := congrArg (Nat.testBit · (i % 4)) (hdigit (i / 4) (by omega))
    have hmod : ∀ n : Nat, (n >>> (4 * (i / 4)) % 16).testBit (i % 4) = n.testBit i := by
      intro n
      have hpos : 4 * (i / 4) + i % 4 = i := by omega
      rw [show (16 : Nat) = 2 ^ 4 from rfl, Nat.testBit_mod_two_pow, Nat.testBit_shiftRight, hpos]
      simp [Nat.mod_lt]
    simp only [hmod] at hbit
    exact hbit
  obtain ⟨i⟩ := u
  obtain ⟨j⟩ := v
  exact congrArg Uuid.mk hint

/-- The hexadecimal text in its groups. -/
theorem hex_eq_groups (u : Uuid) : u.hex = u.hex.take 8 ++ ((u.hex.drop 8).take 4 ++
    ((u.hex.drop 12).take 4 ++ ((u.hex.drop 16).take 4 ++ u.hex.drop 20))) := by
  have hgroup : ∀ n, u.hex.drop n = (u.hex.drop n).take 4 ++ u.hex.drop (n + 4) := by
    intro n
    rw [← List.drop_drop, List.take_append_drop]
  rw [← hgroup 16, ← hgroup 12, ← hgroup 8, List.take_append_drop]

theorem length_chars (u : Uuid) : u.chars.length = 36 := by
  simp [chars, length_hex]

theorem chars_inj {u v : Uuid} (h : u.chars = v.chars) : u = v := by
  simp only [chars, List.append_assoc, List.cons_append] at h
  obtain ⟨h₁, h⟩ := List.append_inj h (by simp [length_hex])
  obtain ⟨h₂, h⟩ := List.append_inj (List.cons.inj h).2 (by simp [length_hex])
  obtain ⟨h₃, h⟩ := List.append_inj (List.cons.inj h).2 (by simp [length_hex])
  obtain ⟨h₄, h⟩ := List.append_inj (List.cons.inj h).2 (by simp [length_hex])
  refine hex_inj ?_
  rw [hex_eq_groups u, hex_eq_groups v, h₁, h₂, h₃, h₄, (List.cons.inj h).2]

/-- A UUID can be read back from its text. -/
theorem str_inj {u v : Uuid} : u.str = v.str ↔ u = v :=
  ⟨fun h => chars_inj (String.ofList_injective h), congrArg str⟩

end Uuid

end OcenPlatform
