import OcenPlatform.Encoding.JsonText
import OcenPlatform.Ocen.Jws

/-! `json.dumps` of a dict of texts, and what `json.loads` reads back from it. -/

namespace OcenPlatform.Ocen

open JsonText

/-! ## Escapes -/

theorem hexValue_hexDigit (n : Nat) : hexValue (Uuid.hexDigit n) = some (n % 16) := by
  have hall : ∀ m : Fin 16, hexValue (Nat.digitChar m) = some m.val := by decide
  exact hall ⟨n % 16, Nat.mod_lt _ (by omega)⟩

theorem scanHex4_hex4 {n : Nat} (h : n < 65536) (cs : List Char) :
    scanHex4 (hex4 n ++ cs) = .ok (n, cs) := by
  have hdigits : n / 4096 % 16 * 4096 + n / 256 % 16 * 256 + n / 16 % 16 * 16 + n % 16 = n := by omega
  simp only [hex4, List.cons_append, List.nil_append, scanHex4, hexValue_hexDigit, hdigits]

/-- A character is no surrogate. -/
theorem charOf_toNat (c : Char) : charOf c.toNat = c := by
  have hvalid : c.toNat.isValidChar := c.valid
  rw [charOf, if_pos hvalid, Char.ofNat_toNat]

theorem scanUnicode_single {n : Nat} (h : n < 65536) (hn : isHighSurrogate n = false)
    (cs : List Char) : scanUnicode (hex4 n ++ cs) = .ok (charOf n, cs) := by
  rw [scanUnicode, scanHex4_hex4 h]
  change (if isHighSurrogate n && _ then _ else _) = _
  rw [hn]
  rfl

/-- The two surrogates of a character beyond the first plane. -/
theorem scanUnicode_pair {n : Nat} (h : n < 1048576) (cs : List Char) :
    scanUnicode (hex4 (55296 + n / 1024) ++ '\\' :: 'u' :: (hex4 (56320 + n % 1024) ++ cs)) =
      .ok (charOf (65536 + n), cs) := by
  have hhigh : isHighSurrogate (55296 + n / 1024) = true := by
    simp only [isHighSurrogate, Bool.and_eq_true, decide_eq_true_eq]
    omega
  have hlow : isLowSurrogate (56320 + n % 1024) = true := by
    simp only [isLowSurrogate, Bool.and_eq_true, decide_eq_true_eq]
    omega
  have hsum : 0x10000 + (55296 + n / 1024 - 0xD800) * 1024 + (56320 + n % 1024 - 0xDC00) =
      65536 + n := by omega
  rw [scanUnicode, scanHex4_hex4 (by omega)]
  simp only [bind, Except.bind, hhigh, List.take_succ_cons, List.take_zero, List.drop_succ_cons,
    List.drop_zero, scanHex4_hex4 (show 56320 + n % 1024 < 65536 by omega), hlow, hsum]
  rfl

/-! ## Strings -/

/-- A round of the scanner on what one character is written as. -/
def Reads (written : List Char) (c : Char) : Prop :=
  ∀ fuel cs, scanChars (fuel + 1) (written ++ cs) = do
    let (s, rest) ← scanChars fuel cs
    return (c :: s, rest)

theorem reads_escape {written : List Char} {c : Char}
    (h : ∀ cs, scanEscape (written ++ cs) = .ok (c, cs)) : Reads ('\\' :: written) c := by
  intro fuel cs
  rw [List.cons_append, scanChars, if_neg (by decide), if_pos rfl, h]
  rfl

theorem reads_self {c : Char} (hquote : c ≠ '"') (hbackslash : c ≠ '\\') (h : 32 ≤ c.toNat) :
    Reads [c] c := by
  intro fuel cs
  rw [List.cons_append, scanChars, if_neg hquote, if_neg hbackslash, if_neg (by omega)]
  rfl

/-- A backslash and one letter. -/
theorem reads_short {letter c : Char} (hletter : letter ≠ 'u')
    (hescapes : PyDict.find? escapes letter = some c) : Reads ['\\', letter] c := by
  refine reads_escape fun cs => ?_
  rw [List.cons_append, scanEscape, if_neg hletter, hescapes]
  rfl

theorem reads_single {c : Char} (hplane : c.toNat < 65536) :
    Reads ('\\' :: 'u' :: hex4 c.toNat) c := by
  have hvalid : c.toNat.isValidChar := c.valid
  have hsurrogate : isHighSurrogate c.toNat = false := by
    unfold Nat.isValidChar at hvalid
    simp only [isHighSurrogate, Bool.and_eq_false_iff, decide_eq_false_iff_not]
    omega
  refine reads_escape fun cs => ?_
  exact (scanUnicode_single hplane hsurrogate cs).trans (by rw [charOf_toNat])

theorem reads_pair {c : Char} (hplane : ¬ c.toNat < 65536) :
    Reads ('\\' :: 'u' :: hex4 (55296 + (c.toNat - 65536) / 1024) ++
      '\\' :: 'u' :: hex4 (56320 + (c.toNat - 65536) % 1024)) c := by
  have hvalid : c.toNat.isValidChar := c.valid
  unfold Nat.isValidChar at hvalid
  refine reads_escape fun cs => ?_
  have hpair := scanUnicode_pair (n := c.toNat - 65536) (by omega) cs
  rw [Nat.add_sub_cancel' (by omega), charOf_toNat] at hpair
  change scanUnicode (hex4 _ ++ '\\' :: 'u' :: hex4 _ ++ cs) = _
  rw [List.append_assoc]
  exact hpair

theorem reads_escapeChar (c : Char) : Reads (escapeChar c) c := by
  unfold escapeChar
  split_ifs with hquote hbackslash hnewline hreturn htab hfeed hbackspace hprintable hplane
  · rw [hquote]
    exact reads_short (by decide) rfl
  · rw [hbackslash]
    exact reads_short (by decide) rfl
  · rw [hnewline]
    exact reads_short (by decide) rfl
  · rw [hreturn]
    exact reads_short (by decide) rfl
  · rw [htab]
    exact reads_short (by decide) rfl
  · have hchar : c = Char.ofNat 12 := by rw [← hfeed, Char.ofNat_toNat]
    exact hchar ▸ reads_short (by decide) rfl
  · have hchar : c = Char.ofNat 8 := by rw [← hbackspace, Char.ofNat_toNat]
    exact hchar ▸ reads_short (by decide) rfl
  · exact reads_self hquote hbackslash hprintable.1
  · exact reads_single hplane
  · exact reads_pair hplane

/-- **Loop invariant** of the scanner: it is at the start of what a character is written as. -/
theorem scanChars_flatMap (s cs : List Char) {fuel : Nat} (h : s.length < fuel) :
    scanChars fuel (s.flatMap escapeChar ++ '"' :: cs) = .ok (s, cs) := by
  induction s generalizing fuel with
  | nil =>
    obtain ⟨fuel, rfl⟩ := Nat.exists_eq_add_one.mpr h
    rfl
  | cons c s ih =>
    obtain ⟨fuel, rfl⟩ := Nat.exists_eq_add_one.mpr (Nat.zero_lt_of_lt h)
    rw [List.flatMap_cons, List.append_assoc, reads_escapeChar,
      ih (by simpa using Nat.lt_of_succ_lt_succ h)]
    rfl

theorem length_le_flatMap_escapeChar (s : List Char) : s.length ≤ (s.flatMap escapeChar).length := by
  induction s with
  | nil => exact Nat.le_refl 0
  | cons c s ih =>
    have hpos : 0 < (escapeChar c).length := by
      unfold escapeChar
      split_ifs <;> simp
    rw [List.flatMap_cons, List.length_append, List.length_cons]
    omega

theorem scanString_dumps (s : String) (cs : List Char) :
    scanString (s.toList.flatMap escapeChar ++ '"' :: cs) = .ok (s, cs) := by
  have hlength := length_le_flatMap_escapeChar s.toList
  rw [scanString, scanChars_flatMap _ _ (by rw [List.length_append]; omega)]
  change Except.ok (String.ofList s.toList, cs) = _
  rw [String.ofList_toList]

/-! ## Objects -/

/-- A member of a dict, with the default separators. -/
def dumpsMember (name value : String) : List Char :=
  (dumpsString name).toList ++ ':' :: ' ' :: (dumpsString value).toList

/-- The members, joined. -/
def dumpsMembers (members : List (String × String)) : List Char :=
  [',', ' '].intercalate (members.map fun p => dumpsMember p.1 p.2)

/-- `json.dumps` of a dict whose values are texts. -/
def dumpsObject (members : List (String × String)) : String :=
  String.ofList ('\x7b' :: dumpsMembers members ++ ['\x7d'])

example : dumpsObject [("kty", "RSA"), ("kid", "a\"b")] =
    "\x7b\"kty\": \"RSA\", \"kid\": \"a\\\"b\"\x7d" := by decide

theorem dumpsString_toList (s : String) :
    (dumpsString s).toList = '"' :: (s.toList.flatMap escapeChar ++ ['"']) := by
  rw [dumpsString, String.toList_ofList, List.cons_append]

theorem scanValue_dumpsString (s : String) (fuel : Nat) (cs : List Char) :
    scanValue (fuel + 1) ((dumpsString s).toList ++ cs) = .ok (.string s, cs) := by
  rw [dumpsString_toList, List.cons_append, List.append_assoc, scanValue, if_pos rfl,
    List.singleton_append, scanString_dumps]
  rfl

theorem skipSpace_cons {c : Char} (hc : isSpace c = false) (cs : List Char) :
    skipSpace (c :: cs) = c :: cs := List.dropWhile_cons_of_neg (by simp [hc])

/-- Up to the separator or the end, a member is read as it was written. -/
theorem scanMembers_member (name value : String) (fuel fuel' : Nat) (cs : List Char) :
    scanMembers (scanValue (fuel + 1)) (fuel' + 1) (dumpsMember name value ++ cs) =
      if (skipSpace cs).take 1 = ['\x7d'] then .ok ([(name, .string value)], (skipSpace cs).drop 1)
      else do
        let cs ← expect ',' "Expecting ',' delimiter" (skipSpace cs)
        let (members, cs) ← scanMembers (scanValue (fuel + 1)) fuel' (skipSpace cs)
        return ((name, .string value) :: members, cs) := by
  have hmember : dumpsMember name value ++ cs = '"' :: (name.toList.flatMap escapeChar ++
      '"' :: ':' :: ' ' :: ((dumpsString value).toList ++ cs)) := by
    simp [dumpsMember, dumpsString_toList]
  have hspace : skipSpace (' ' :: ((dumpsString value).toList ++ cs)) = (dumpsString value).toList ++ cs := by
    rw [dumpsString_toList]
    rfl
  have hcolon : isSpace ':' = false := rfl
  simp only [hmember, scanMembers, expect, if_true, bind, Except.bind, scanString_dumps,
    skipSpace_cons hcolon, hspace, scanValue_dumpsString, pure, Except.pure]

theorem dumpsMembers_singleton (p : String × String) : dumpsMembers [p] = dumpsMember p.1 p.2 :=
  List.intercalate_singleton

theorem dumpsMembers_cons (p : String × String) {members : List (String × String)}
    (hne : members ≠ []) :
    dumpsMembers (p :: members) = dumpsMember p.1 p.2 ++ ',' :: ' ' :: dumpsMembers members := by
  rw [dumpsMembers, List.map_cons, List.intercalate_cons_of_ne_nil (by simpa using hne)]
  simp [dumpsMembers]

/-- The first character is a quote. -/
theorem exists_dumpsMembers_eq {members : List (String × String)} (hne : members ≠ []) :
    ∃ rest, dumpsMembers members = '"' :: rest := by
  cases members with
  | nil => exact absurd rfl hne
  | cons p members =>
    have hmember : ∀ cs, ∃ rest, dumpsMember p.1 p.2 ++ cs = '"' :: rest := by
      intro cs
      rw [dumpsMember, dumpsString_toList]
      exact ⟨_, rfl⟩
    cases members with
    | nil =>
      rw [dumpsMembers_singleton, ← List.append_nil (dumpsMember p.1 p.2)]
      exact hmember []
    | cons q members =>
      rw [dumpsMembers_cons p (List.cons_ne_nil q members)]
      exact hmember _

/-- **Loop invariant** of the scanner of members: it is at the start of a member. -/
theorem scanMembers_dumps {members : List (String × String)} (hne : members ≠ []) (fuel : Nat)
    {fuel' : Nat} (h : members.length ≤ fuel') (cs : List Char) :
    scanMembers (scanValue (fuel + 1)) fuel' (dumpsMembers members ++ '\x7d' :: cs) =
      .ok (members.map fun p => (p.1, .string p.2), cs) := by
  have hcomma : isSpace ',' = false := rfl
  have hbrace : isSpace '\x7d' = false := rfl
  induction members generalizing fuel' with
  | nil => exact absurd rfl hne
  | cons p members ih =>
    obtain ⟨fuel', rfl⟩ := Nat.exists_eq_add_one.mpr (Nat.zero_lt_of_lt h)
    cases members with
    | nil =>
      rw [dumpsMembers_singleton, scanMembers_member, skipSpace_cons hbrace]
      exact if_pos rfl
    | cons q members =>
      have hrest := ih (List.cons_ne_nil q members) (Nat.le_of_succ_le_succ h)
      obtain ⟨quoted, hquoted⟩ := exists_dumpsMembers_eq (List.cons_ne_nil q members)
      have hspace : skipSpace (' ' :: (dumpsMembers (q :: members) ++ '\x7d' :: cs)) =
          dumpsMembers (q :: members) ++ '\x7d' :: cs := by
        rw [hquoted]
        rfl
      rw [dumpsMembers_cons p (List.cons_ne_nil q members), List.append_assoc, List.cons_append,
        List.cons_append, scanMembers_member, skipSpace_cons hcomma, if_neg (by simp)]
      simp only [expect, if_true, bind, Except.bind, hspace, hrest]
      rfl

theorem length_le_dumpsMembers (members : List (String × String)) :
    members.length ≤ (dumpsMembers members).length := by
  induction members with
  | nil => exact Nat.le_refl 0
  | cons p members ih =>
    cases members with
    | nil =>
      rw [dumpsMembers_singleton, dumpsMember, dumpsString_toList]
      simp
    | cons q members =>
      rw [dumpsMembers_cons p (List.cons_ne_nil q members), List.length_append, List.length_cons]
      simp only [List.length_cons] at ih ⊢
      omega

theorem scanValue_dumpsMembers {members : List (String × String)} (hne : members ≠ []) (fuel : Nat)
    (cs : List Char) : scanValue (fuel + 2) ('\x7b' :: (dumpsMembers members ++ '\x7d' :: cs)) =
      .ok (.object (PyDict.update [] (members.map fun p => (p.1, .string p.2))), cs) := by
  obtain ⟨quoted, hquoted⟩ := exists_dumpsMembers_eq hne
  have hspace : skipSpace (dumpsMembers members ++ '\x7d' :: cs) = dumpsMembers members ++ '\x7d' :: cs := by
    rw [hquoted]
    rfl
  have htake : (dumpsMembers members ++ '\x7d' :: cs).take 1 = ['"'] := by
    rw [hquoted]
    rfl
  have hlength : members.length ≤ (dumpsMembers members ++ '\x7d' :: cs).length + 1 := by
    have hle := length_le_dumpsMembers members
    rw [List.length_append]
    omega
  rw [scanValue, if_neg (by decide), if_pos rfl]
  simp only [hspace]
  rw [htake, if_neg (by decide), scanMembers_dumps hne fuel hlength]
  rfl

/-- **What `json.dumps` writes, `json.loads` reads.** -/
theorem loads_dumpsObject {members : List (String × String)} (hne : members ≠ []) :
    loads (dumpsObject members) =
      .ok (.object (PyDict.update [] (members.map fun p => (p.1, .string p.2)))) := by
  have hbrace : isSpace '\x7b' = false := rfl
  rw [loads, dumpsObject, String.toList_ofList, List.cons_append, if_neg (by simp),
    skipSpace_cons hbrace]
  simp only [List.length_cons, scanValue_dumpsMembers hne, bind, Except.bind]
  rfl

end OcenPlatform.Ocen
