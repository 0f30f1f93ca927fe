import Mathlib.Data.List.Basic
import OcenPlatform.Encoding.Hashlib

/-! Python's text files: a file is strict UTF-8, and reading it as a text translates its line
ends. -/

namespace OcenPlatform.TextFile

open Hashlib (encode)

/-! ## UTF-8 -/

/-- `bytes.decode("utf-8")`. -/
def decode (bytes : List UInt8) : Except String String :=
  match String.fromUTF8? ⟨bytes.toArray⟩ with
  | some text => .ok text
  | none => .error "UnicodeDecodeError"

section Utf8

variable {bytes : List UInt8} {text text' : String} {c : Char}

theorem fromUTF8?_eq_some_iff : String.fromUTF8? ⟨bytes.toArray⟩ = some text ↔ encode text = bytes := by
  unfold String.fromUTF8?
  constructor
  · intro h
    by_cases hvalid : (⟨bytes.toArray⟩ : ByteArray).IsValidUTF8
    · rw [dif_pos hvalid] at h
      obtain rfl := Option.some.inj h
      rfl
    · rw [dif_neg hvalid] at h
      cases h
  · rintro rfl
    have hbytes : (⟨(encode text).toArray⟩ : ByteArray) = text.toByteArray := by simp [encode]
    rw [hbytes, dif_pos text.isValidUTF8]
    rfl

/-- What is decoded is encoded as it was. -/
theorem decode_eq_ok_iff : decode bytes = .ok text ↔ encode text = bytes := by
  rw [← fromUTF8?_eq_some_iff, decode]
  cases String.fromUTF8? ⟨bytes.toArray⟩ with
  | none => exact ⟨nofun, nofun⟩
  | some text' => simp

theorem encode_inj : encode text = encode text' ↔ text = text' := by
  rw [← decode_eq_ok_iff, decode_eq_ok_iff.mpr rfl, Except.ok.injEq, eq_comm]

/-- The bytes of a character that is not ASCII are no ASCII characters. -/
theorem mem_utf8EncodeChar_iff {b : UInt8} (hb : b.toNat < 128) :
    b ∈ String.utf8EncodeChar c ↔ c.val.toNat = b.toNat := by
  have hbyte : ∀ n : Nat, b = UInt8.ofNat n ↔ b.toNat = n % 256 := fun n => by
    rw [← UInt8.toNat_inj, UInt8.toNat_ofNat']
  unfold String.utf8EncodeChar
  generalize c.val.toNat = v
  simp only []
  split_ifs
  all_goals
    simp only [List.mem_cons, List.not_mem_nil, or_false, hbyte]
    omega

/-- The byte of an ASCII character occurs where the character does. -/
theorem mem_encode_iff (hc : c.val.toNat < 128) : c.val.toUInt8 ∈ encode text ↔ c ∈ text.toList := by
  have hbyte : c.val.toUInt8.toNat = c.val.toNat := by
    rw [UInt32.toNat_toUInt8]
    omega
  rw [← String.ofList_toList (s := text), Hashlib.encode_ofList, List.mem_flatMap, String.ofList_toList]
  constructor
  · rintro ⟨c', hmem, hc'⟩
    rw [mem_utf8EncodeChar_iff (by omega), hbyte] at hc'
    obtain rfl : c' = c := Char.ext (UInt32.toNat_inj.mp hc')
    exact hmem
  · intro hmem
    exact ⟨c, hmem, (mem_utf8EncodeChar_iff (by omega)).mpr hbyte.symm⟩

end Utf8

/-! ## Line ends -/

/-- Universal newlines: every line end becomes a line feed. -/
def universalNewlines (cs : List Char) : List Char := go false cs
where
  go (afterReturn : Bool) : List Char → List Char
    | [] => []
    | c :: cs =>
      if c = '\r' then '\n' :: go true cs
      else if afterReturn && c = '\n' then go false cs
      else c :: go false cs

example : universalNewlines "a\r\nb\rc\n\nd".toList = "a\nb\nc\n\nd".toList := by decide

section Lines

variable {cs : List Char}

theorem return_not_mem : '\r' ∉ universalNewlines cs := by
  have hgo : ∀ afterReturn, '\r' ∉ universalNewlines.go afterReturn cs := by
    induction cs with
    | nil => exact fun _ => List.not_mem_nil
    | cons c cs ih =>
      intro afterReturn
      unfold universalNewlines.go
      split_ifs with hreturn hline
      · exact List.not_mem_cons_of_ne_of_not_mem (by decide) (ih true)
      · exact ih false
      · exact List.not_mem_cons_of_ne_of_not_mem (Ne.symm hreturn) (ih false)
  exact hgo false

/-- A text without a carriage return stays as it is, and no other one does. -/
theorem universalNewlines_eq_self_iff : universalNewlines cs = cs ↔ '\r' ∉ cs := by
  refine ⟨fun h => h ▸ return_not_mem, fun h => ?_⟩
  induction cs with
  | nil => rfl
  | cons c cs ih =>
    obtain ⟨hreturn, hcs⟩ := List.ne_and_not_mem_of_not_mem_cons h
    have hgo : universalNewlines (c :: cs) = c :: universalNewlines cs := by
      rw [universalNewlines, universalNewlines.go, if_neg (Ne.symm hreturn)]
      rfl
    rw [hgo, ih hcs]

end Lines

/-! ## Files -/

/-- `path.read_text(encoding="utf-8")`. -/
def readText (bytes : List UInt8) : Except String String :=
  (decode bytes).map fun text => String.ofList (universalNewlines text.toList)

section Files

variable {bytes : List UInt8} {text : String}

theorem readText_encode (text : String) :
    readText (encode text) = .ok (String.ofList (universalNewlines text.toList)) := by
  rw [readText, decode_eq_ok_iff.mpr rfl]
  rfl

/-- **The text that is read is the file exactly if the file has no carriage return.** -/
theorem encode_eq_iff (h : readText bytes = .ok text) : encode text = bytes ↔ 13 ∉ bytes := by
  cases hdecode : decode bytes with
  | error e =>
    rw [readText, hdecode] at h
    cases h
  | ok raw =>
    rw [readText, hdecode] at h
    obtain rfl := Except.ok.inj h
    obtain rfl := decode_eq_ok_iff.mp hdecode
    rw [encode_inj, ← String.toList_inj, String.toList_ofList, universalNewlines_eq_self_iff]
    exact not_congr (mem_encode_iff (c := '\r') (by decide)).symm

end Files

end OcenPlatform.TextFile
