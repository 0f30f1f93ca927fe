import Mathlib.Data.Rat.Defs
import Std.Data.String.ToInt
import OcenPlatform.Json
import OcenPlatform.Ocen.JsonDumps

/-! Writers of JSON texts, and what `json.loads` reads back from them. Two writers differ in how they
escape a character, in the space that they leave after a separator, and in their numbers. -/

namespace OcenPlatform.JsonText

/-! ## Values -/

/-- The values that are written without loss: numbers that the writer takes, and a key once. -/
inductive Plain (takes : Rat → Prop) : Json → Prop
  | null : Plain takes .null
  | bool (b : Bool) : Plain takes (.bool b)
  | num {q : Rat} (h : takes q) : Plain takes (.num q)
  | str (s : String) : Plain takes (.str s)
  | arr {items : List Json} (h : ∀ v ∈ items, Plain takes v) : Plain takes (.arr items)
  | obj {fields : Dict} (hkeys : (fields.map Prod.fst).Nodup) (h : ∀ p ∈ fields, Plain takes p.2) :
      Plain takes (.obj fields)

/-- The number of a literal. `float` has the value of a literal that is no integer. -/
def numberOf (float : String → Rat) (literal : String) : Rat :=
  match literal.toInt? with
  | some n => n
  | none => float literal

mutual

/-- The Python value behind what was scanned. -/
def ofValue (float : String → Rat) : Value → Json
  | .null => .null
  | .bool b => .bool b
  | .number literal => .num (numberOf float literal)
  | .string s => .str s
  | .array items => .arr (ofItems float items)
  | .object fields => .obj (ofMembers float fields)

def ofItems (float : String → Rat) : List Value → List Json
  | [] => []
  | v :: vs => ofValue float v :: ofItems float vs

def ofMembers (float : String → Rat) : List (String × Value) → List (String × Json)
  | [] => []
  | (k, v) :: fields => (k, ofValue float v) :: ofMembers float fields

end

/-- `json.loads`. -/
def loadsJson (float : String → Rat) (s : String) : Except String Json := (loads s).map (ofValue float)

/-! ## Writers -/

/-- `escape` is without the quotes around a text. -/
structure Style where
  escape : Char → List Char
  space : List Char
  number : Rat → List Char

def quote (style : Style) (s : String) : List Char := '"' :: (s.toList.flatMap style.escape ++ ['"'])

mutual

def write (style : Style) : Json → List Char
  | .null => "null".toList
  | .bool true => "true".toList
  | .bool false => "false".toList
  | .num q => style.number q
  | .str s => quote style s
  | .arr items => '[' :: (writeItems style items ++ [']'])
  | .obj fields => '\x7b' :: (writeMembers style fields ++ ['\x7d'])

def writeItems (style : Style) : List Json → List Char
  | [] => []
  | [v] => write style v
  | v :: vs => write style v ++ ',' :: (style.space ++ writeItems style vs)

def writeMembers (style : Style) : List (String × Json) → List Char
  | [] => []
  | [(k, v)] => quote style k ++ ':' :: (style.space ++ write style v)
  | (k, v) :: fields =>
    quote style k ++ ':' :: (style.space ++ write style v ++ ',' ::
      (style.space ++ writeMembers style fields))

end

/-- `dumps`, as text. -/
def Style.dumps (style : Style) (v : Json) : String := String.ofList (write style v)

mutual

/-- What the scanner makes of a value that was written. -/
def toValue (style : Style) : Json → Value
  | .null => .null
  | .bool b => .bool b
  | .num q => .number (String.ofList (style.number q))
  | .str s => .string s
  | .arr items => .array (toItems style items)
  | .obj fields => .object (toMembers style fields)

def toItems (style : Style) : List Json → List Value
  | [] => []
  | v :: vs => toValue style v :: toItems style vs

def toMembers (style : Style) : List (String × Json) → List (String × Value)
  | [] => []
  | (k, v) :: fields => (k, toValue style v) :: toMembers style fields

end

theorem keys_toMembers (style : Style) : (fields : List (String × Json)) →
    (toMembers style fields).map Prod.fst = fields.map Prod.fst
  | [] => rfl
  | (k, v) :: fields => by rw [toMembers, List.map_cons, List.map_cons, keys_toMembers style fields]

/-- What can follow a value in a text that was written. -/
def Ends (cs : List Char) : Prop := ∀ c ∈ cs.head?, c = ',' ∨ c = ']' ∨ c = '\x7d'

/-- A text that the scanner takes for one number, wherever it ends. -/
structure Literal (cs : List Char) : Prop where
  head : ∃ c cs', cs = c :: cs' ∧ (isDigit c = true ∨ c = '-')
  constant : ∀ rest, Ends rest → scanConstant (cs ++ rest) = none
  number : ∀ rest, Ends rest → scanNumber (cs ++ rest) = .ok (.number (String.ofList cs), rest)

/-- The numbers of `takes` are written so that they are read back. -/
structure Numbers (number : Rat → List Char) (float : String → Rat) (takes : Rat → Prop) : Prop where
  literal : ∀ q, takes q → Literal (number q)
  value : ∀ q, takes q → numberOf float (String.ofList (number q)) = q

/-- What a writer must do for its texts to be read back. -/
structure Style.Lawful (style : Style) (float : String → Rat) (takes : Rat → Prop) : Prop extends
    Numbers style.number float takes where
  reads : ∀ c, Ocen.Reads (style.escape c) c
  escape_ne_nil : ∀ c, style.escape c ≠ []
  space : ∀ c ∈ style.space, isSpace c = true

section Values

variable {style : Style} {float : String → Rat} {takes : Rat → Prop}

mutual

theorem ofValue_toValue (hlawful : style.Lawful float takes) :
    (v : Json) → Plain takes v → ofValue float (toValue style v) = v
  | .null, _ => rfl
  | .bool _, _ => rfl
  | .num q, .num h => by rw [toValue, ofValue, hlawful.value q h]
  | .str _, _ => rfl
  | .arr items, .arr h => by rw [toValue, ofValue, ofItems_toItems hlawful items h]
  | .obj fields, .obj _ h => by rw [toValue, ofValue, ofMembers_toMembers hlawful fields h]

theorem ofItems_toItems (hlawful : style.Lawful float takes) : (items : List Json) →
    (∀ v ∈ items, Plain takes v) → ofItems float (toItems style items) = items
  | [], _ => rfl
  | v :: vs, h => by
    rw [toItems, ofItems, ofValue_toValue hlawful v (h v (.head _)),
      ofItems_toItems hlawful vs fun w hw => h w (.tail _ hw)]

theorem ofMembers_toMembers (hlawful : style.Lawful float takes) : (fields : List (String × Json)) →
    (∀ p ∈ fields, Plain takes p.2) → ofMembers float (toMembers style fields) = fields
  | [], _ => rfl
  | (k, v) :: fields, h => by
    rw [toMembers, ofMembers, ofValue_toValue hlawful v (h (k, v) (.head _)),
      ofMembers_toMembers hlawful fields fun p hp => h p (.tail _ hp)]

end

end Values

/-! ## Integers -/

theorem isDigit_digitChar {d : Nat} (h : d < 10) : isDigit d.digitChar = true := by
  have hall : ∀ d : Fin 10, isDigit (Nat.digitChar d) = true := by decide
  exact hall ⟨d, h⟩

theorem digitChar_eq_zero {d : Nat} (h : d < 10) (hzero : d.digitChar = '0') : d = 0 := by
  have hall : ∀ d : Fin 10, Nat.digitChar d = '0' → d.val = 0 := by decide
  exact hall ⟨d, h⟩ hzero

/-- A number does not start with a zero, unless it is zero. -/
theorem exists_digits (n : Nat) : ∃ d ds, n.repr.toList = d :: ds ∧
    (∀ c ∈ d :: ds, isDigit c = true) ∧ (d = '0' → n = 0 ∧ ds = []) := by
  rw [Nat.toList_repr]
  induction n using Nat.strong_induction_on with
  | _ n ih =>
    by_cases h : n < 10
    · rw [Nat.toDigits_of_lt_base h]
      refine ⟨_, _, rfl, fun c hc => ?_, fun hzero => ⟨digitChar_eq_zero h hzero, rfl⟩⟩
      rw [List.mem_singleton.mp hc]
      exact isDigit_digitChar h
    · obtain ⟨d, ds, hdigits, hall, hzero⟩ := ih (n / 10) (by omega)
      rw [Nat.toDigits_of_base_le (by decide) (Nat.not_lt.mp h), hdigits]
      refine ⟨d, ds ++ [(n % 10).digitChar], List.cons_append, fun c hc => ?_, fun hd => ?_⟩
      · rw [← List.cons_append] at hc
        rcases List.mem_append.mp hc with hc | hc
        · exact hall c hc
        · rw [List.mem_singleton.mp hc]
          exact isDigit_digitChar (Nat.mod_lt _ (by decide))
      · have hquotient := (hzero hd).1
        omega

theorem Ends.not_isDigit {cs : List Char} (h : Ends cs) : ∀ c ∈ cs.head?, ¬ isDigit c = true := by
  intro c hc
  rcases h c hc with rfl | rfl | rfl <;> decide

theorem takeWhile_append_ends {cs rest : List Char} (hall : ∀ c ∈ cs, isDigit c = true)
    (hends : Ends rest) : (cs ++ rest).takeWhile isDigit = cs ∧ (cs ++ rest).dropWhile isDigit = rest := by
  have hrest : rest.takeWhile isDigit = [] ∧ rest.dropWhile isDigit = rest := by
    cases rest with
    | nil => exact ⟨rfl, rfl⟩
    | cons c rest =>
      have hc := hends.not_isDigit c rfl
      exact ⟨List.takeWhile_cons_of_neg hc, List.dropWhile_cons_of_neg hc⟩
  rw [List.takeWhile_append_of_pos hall, List.dropWhile_append_of_pos hall, hrest.1, hrest.2,
    List.append_nil]
  exact ⟨rfl, rfl⟩

/-- Where a number ends there is no fraction and no exponent. -/
theorem scanNumber_of_integer {cs integer rest : List Char} (hends : Ends rest)
    (h : scanInteger cs = some (integer, rest)) :
    scanNumber cs = .ok (.number (String.ofList integer), rest) := by
  have htake : ∀ c, c ≠ ',' → c ≠ ']' → c ≠ '\x7d' → rest.take 1 ≠ [c] := by
    rintro c hcomma hbracket hbrace htake
    cases rest with
    | nil => cases htake
    | cons c' rest =>
      obtain rfl := (List.cons.inj htake).1
      rcases hends c' rfl with rfl | rfl | rfl
      · exact hcomma rfl
      · exact hbracket rfl
      · exact hbrace rfl
  have hfraction : scanFraction rest = ([], rest) :=
    if_neg (htake '.' (by decide) (by decide) (by decide))
  have hexponent : scanExponent rest = ([], rest) := by
    refine if_neg ?_
    simp only [htake 'e' (by decide) (by decide) (by decide),
      htake 'E' (by decide) (by decide) (by decide), decide_false, Bool.or_self, Bool.false_eq_true,
      not_false_iff]
  simp only [scanNumber, h, hfraction, hexponent, List.append_nil]

theorem scanInteger_digits {d : Char} {ds rest : List Char} (hall : ∀ c ∈ d :: ds, isDigit c = true)
    (hzero : d = '0' → ds = []) (hends : Ends rest) :
    scanInteger (d :: ds ++ rest) = some (d :: ds, rest) ∧
    scanInteger ('-' :: (d :: ds ++ rest)) = some ('-' :: d :: ds, rest) := by
  have hd := hall d (.head _)
  have hminus : (d :: (ds ++ rest)).take 1 ≠ ['-'] := by
    intro h
    obtain rfl := (List.cons.inj h).1
    exact absurd hd (by decide)
  obtain ⟨htake, hdrop⟩ := takeWhile_append_ends hall hends
  rw [List.cons_append] at htake hdrop ⊢
  have hrest (sign : List Char) : (if d = '0' then some (sign ++ ['0'], ds ++ rest)
      else if isDigit d then some (sign ++ (d :: (ds ++ rest)).takeWhile isDigit,
        (d :: (ds ++ rest)).dropWhile isDigit) else none) = some (sign ++ d :: ds, rest) := by
    split_ifs with h
    · rw [hzero h, h]
      rfl
    · rw [htake, hdrop]
  refine ⟨?_, ?_⟩
  · unfold scanInteger
    rw [if_neg hminus]
    exact hrest []
  · unfold scanInteger
    rw [if_pos (by rfl)]
    exact hrest ['-']

theorem scanConstant_eq_none {c : Char} {cs : List Char} (hc : isDigit c = true) :
    scanConstant (c :: cs) = none ∧ scanConstant ('-' :: c :: cs) = none := by
  constructor <;> refine Option.map_eq_none_iff.mpr (List.find?_eq_none.mpr fun p hp => ?_) <;>
    simp only [constants, List.mem_cons, List.not_mem_nil, or_false] at hp <;>
    rcases hp with rfl | rfl | rfl | rfl | rfl | rfl <;> simp <;> rintro rfl <;>
    exact absurd hc (by decide)

/-- What an integer is written as is read as one number. -/
theorem literal_repr (n : Int) : Literal n.repr.toList := by
  obtain ⟨d, ds, hdigits, hall, hzero⟩ := exists_digits n.natAbs
  have hds : d = '0' → ds = [] := fun h => (hzero h).2
  rw [Int.repr_eq_if]
  split
  · next hpos =>
    have habs : n.toNat = n.natAbs := by omega
    rw [habs, hdigits]
    refine ⟨⟨_, _, rfl, .inl (hall d (.head _))⟩, fun rest _ => ?_, fun rest hends => ?_⟩
    · exact (scanConstant_eq_none (hall d (.head _))).1
    · exact scanNumber_of_integer hends (scanInteger_digits hall hds hends).1
  · next hneg =>
    have habs : (-n).toNat = n.natAbs := by omega
    rw [habs, String.toList_append, hdigits]
    refine ⟨⟨_, _, rfl, .inr rfl⟩, fun rest _ => ?_, fun rest hends => ?_⟩
    · exact (scanConstant_eq_none (hall d (.head _))).2
    · exact scanNumber_of_integer hends (scanInteger_digits hall hds hends).2

/-! ## Reading back -/

theorem skipSpace_append {space : List Char} (h : ∀ c ∈ space, isSpace c = true) (cs : List Char) :
    skipSpace (space ++ cs) = skipSpace cs := List.dropWhile_append_of_pos h

theorem Ends.comma (cs : List Char) : Ends (',' :: cs) := fun _ hc => .inl (Option.some.inj hc).symm

theorem Ends.bracket (cs : List Char) : Ends (']' :: cs) :=
  fun _ hc => .inr (.inl (Option.some.inj hc).symm)

theorem Ends.brace (cs : List Char) : Ends ('\x7d' :: cs) :=
  fun _ hc => .inr (.inr (Option.some.inj hc).symm)

/-- An update of the empty dict by distinct keys keeps their order. -/
theorem update_nil {α : Type} {fields : PyDict String α} (h : (fields.map Prod.fst).Nodup) :
    PyDict.update [] fields = fields := by
  have hinv : ∀ (rest before : PyDict String α), ((before ++ rest).map Prod.fst).Nodup →
      PyDict.update before rest = before ++ rest := by
    intro rest
    induction rest with
    | nil => exact fun before _ => (List.append_nil before).symm
    | cons p rest ih =>
      intro before hnodup
      have hp : p.1 ∉ before.map Prod.fst := by
        rw [List.map_append, List.nodup_append] at hnodup
        exact fun hmem => hnodup.2.2 _ hmem _ (.head _) rfl
      have hupdate : PyDict.update before (p :: rest) =
          PyDict.update (PyDict.set before p.1 p.2) rest := rfl
      rw [hupdate, PyDict.set_of_not_mem hp, ih _ (by simpa using hnodup)]
      simp
  exact hinv fields [] h

section Reading

variable {style : Style} {float : String → Rat} {takes : Rat → Prop}

/-- **Loop invariant** of the scanner: it is at the start of what a character is written as. -/
theorem scanChars_escape (hlawful : style.Lawful float takes) (s cs : List Char) {fuel : Nat}
    (h : s.length < fuel) : scanChars fuel (s.flatMap style.escape ++ '"' :: cs) = .ok (s, cs) := by
  induction s generalizing fuel with
  | nil =>
    obtain ⟨fuel, rfl⟩ := Nat.exists_eq_add_one.mpr h
    rfl
  | cons c s ih =>
    obtain ⟨fuel, rfl⟩ := Nat.exists_eq_add_one.mpr (Nat.zero_lt_of_lt h)
    rw [List.flatMap_cons, List.append_assoc, hlawful.reads,
      ih (by simpa using Nat.lt_of_succ_lt_succ h)]
    rfl

theorem length_le_escape (hlawful : style.Lawful float takes) (s : List Char) :
    s.length ≤ (s.flatMap style.escape).length := by
  induction s with
  | nil => exact Nat.le_refl 0
  | cons c s ih =>
    have hpos := List.length_pos_of_ne_nil (hlawful.escape_ne_nil c)
    rw [List.flatMap_cons, List.length_append, List.length_cons]
    omega

theorem scanString_quote (hlawful : style.Lawful float takes) (s : String) (cs : List Char) :
    scanString (s.toList.flatMap style.escape ++ '"' :: cs) = .ok (s, cs) := by
  have hlength := length_le_escape hlawful s.toList
  rw [scanString, scanChars_escape hlawful _ _ (by rw [List.length_append]; omega)]
  change Except.ok (String.ofList s.toList, cs) = _
  rw [String.ofList_toList]

theorem quote_append (s : String) (cs : List Char) :
    quote style s ++ cs = '"' :: (s.toList.flatMap style.escape ++ '"' :: cs) := by
  simp [quote]

/-- The first character of a value is no space, ends no array and is no byte order mark. -/
theorem exists_write_eq (hlawful : style.Lawful float takes) {v : Json} (h : Plain takes v) :
    ∃ c cs, write style v = c :: cs ∧ isSpace c = false ∧ c ≠ ']' ∧ c ≠ '\uFEFF' := by
  cases h with
  | null => exact ⟨_, _, rfl, rfl, by decide⟩
  | bool b => cases b <;> exact ⟨_, _, rfl, rfl, by decide⟩
  | str s => exact ⟨_, _, rfl, rfl, by decide⟩
  | arr h => exact ⟨_, _, rfl, rfl, by decide⟩
  | obj hkeys h => exact ⟨_, _, rfl, rfl, by decide⟩
  | num h =>
    obtain ⟨c, cs, hcs, hc⟩ := (hlawful.literal _ h).head
    refine ⟨c, cs, hcs, ?_, ?_⟩
    · rcases hc with hdigit | rfl
      · simp only [isSpace, Bool.or_eq_false_iff, decide_eq_false_iff_not]
        refine ⟨⟨⟨?_, ?_⟩, ?_⟩, ?_⟩ <;> rintro rfl <;> exact absurd hdigit (by decide)
      · rfl
    · constructor <;> rintro rfl <;> exact absurd hc (by decide)

/-- After a separator the scanner comes to the value. -/
theorem skipSpace_write (hlawful : style.Lawful float takes) {v : Json} (h : Plain takes v)
    (cs : List Char) : skipSpace (style.space ++ (write style v ++ cs)) = write style v ++ cs := by
  obtain ⟨c, cs', hwrite, hc, -⟩ := exists_write_eq hlawful h
  rw [skipSpace_append hlawful.space, hwrite, List.cons_append, Ocen.skipSpace_cons hc]

theorem writeItems_cons (v : Json) {vs : List Json} (hne : vs ≠ []) :
    writeItems style (v :: vs) = write style v ++ ',' :: (style.space ++ writeItems style vs) := by
  cases vs with
  | nil => exact absurd rfl hne
  | cons w vs =>
    rw [writeItems]
    exact hne

theorem writeMembers_cons (p : String × Json) {fields : List (String × Json)} (hne : fields ≠ []) :
    writeMembers style (p :: fields) = quote style p.1 ++ ':' :: (style.space ++ write style p.2 ++
      ',' :: (style.space ++ writeMembers style fields)) := by
  cases fields with
  | nil => exact absurd rfl hne
  | cons q fields =>
    rw [writeMembers]
    exact hne

theorem exists_writeItems_eq (hlawful : style.Lawful float takes) {v : Json} {vs : List Json}
    (h : ∀ w ∈ v :: vs, Plain takes w) :
    ∃ c cs, writeItems style (v :: vs) = c :: cs ∧ isSpace c = false ∧ c ≠ ']' := by
  obtain ⟨c, cs, hwrite, hspace, hc, -⟩ := exists_write_eq hlawful (h v (.head _))
  cases vs with
  | nil => exact ⟨c, cs, hwrite, hspace, hc⟩
  | cons w vs =>
    rw [writeItems_cons v (List.cons_ne_nil w vs), hwrite]
    exact ⟨c, _, rfl, hspace, hc⟩

theorem exists_writeMembers_eq (style : Style) (p : String × Json) (fields : List (String × Json)) :
    ∃ cs, writeMembers style (p :: fields) = '"' :: cs := by
  cases fields with
  | nil => exact ⟨_, rfl⟩
  | cons q fields =>
    rw [writeMembers_cons p (List.cons_ne_nil q fields)]
    exact ⟨_, rfl⟩

/-! ### The scanner at an item and at a member -/

theorem scanItems_last {scan : Scanner Value} {cs rest : List Char} {v : Value}
    (h : scan cs = .ok (v, ']' :: rest)) (fuel : Nat) :
    scanItems scan (fuel + 1) cs = .ok ([v], rest) := by
  rw [scanItems, h]
  rfl

theorem scanItems_more {scan : Scanner Value} {cs cs' rest : List Char} {v : Value} {vs : List Value}
    {fuel : Nat} (h : scan cs = .ok (v, ',' :: cs'))
    (hrest : scanItems scan fuel (skipSpace cs') = .ok (vs, rest)) :
    scanItems scan (fuel + 1) cs = .ok (v :: vs, rest) := by
  rw [scanItems, h]
  change (scanItems scan fuel (skipSpace cs') >>= _) = _
  rw [hrest]
  rfl

/-- Up to what follows the value, a member is read as it was written. -/
theorem scanMembers_quote (hlawful : style.Lawful float takes) (scan : Scanner Value) (fuel : Nat)
    (k : String) (cs : List Char) :
    scanMembers scan (fuel + 1) (quote style k ++ ':' :: cs) = do
      let (value, cs) ← scan (skipSpace cs)
      let cs := skipSpace cs
      if cs.take 1 = ['\x7d'] then
        return ([(k, value)], cs.drop 1)
      let cs ← expect ',' "Expecting ',' delimiter" cs
      let (members, cs) ← scanMembers scan fuel (skipSpace cs)
      return ((k, value) :: members, cs) := by
  have hcolon : isSpace ':' = false := rfl
  rw [quote_append, scanMembers]
  simp only [expect, if_true, bind, Except.bind, scanString_quote hlawful, Ocen.skipSpace_cons hcolon]

theorem scanMembers_last (hlawful : style.Lawful float takes) {scan : Scanner Value}
    {cs rest : List Char} {v : Value} (h : scan (skipSpace cs) = .ok (v, '\x7d' :: rest)) (k : String)
    (fuel : Nat) : scanMembers scan (fuel + 1) (quote style k ++ ':' :: cs) = .ok ([(k, v)], rest) := by
  rw [scanMembers_quote hlawful, h]
  rfl

theorem scanMembers_more (hlawful : style.Lawful float takes) {scan : Scanner Value}
    {cs cs' rest : List Char} {v : Value} {members : PyDict String Value} {fuel : Nat}
    (h : scan (skipSpace cs) = .ok (v, ',' :: cs'))
    (hrest : scanMembers scan fuel (skipSpace cs') = .ok (members, rest)) (k : String) :
    scanMembers scan (fuel + 1) (quote style k ++ ':' :: cs) = .ok ((k, v) :: members, rest) := by
  rw [scanMembers_quote hlawful, h]
  change (scanMembers scan fuel (skipSpace cs') >>= _) = _
  rw [hrest]
  rfl

theorem length_pos_write (hlawful : style.Lawful float takes) {v : Json} (h : Plain takes v) :
    0 < (write style v).length := by
  obtain ⟨c, cs, hwrite, -⟩ := exists_write_eq hlawful h
  rw [hwrite]
  exact Nat.zero_lt_succ _

theorem length_le_writeItems (hlawful : style.Lawful float takes) (items : List Json)
    (h : ∀ v ∈ items, Plain takes v) : items.length ≤ (writeItems style items).length := by
  induction items with
  | nil => exact Nat.le_refl 0
  | cons v vs ih =>
    have hpos := length_pos_write hlawful (h v (.head _))
    cases vs with
    | nil => exact hpos
    | cons w vs =>
      have hrest := ih fun u hu => h u (.tail _ hu)
      rw [writeItems_cons v (List.cons_ne_nil w vs), List.length_cons]
      simp only [List.length_append, List.length_cons] at hrest ⊢
      omega

theorem length_le_writeMembers (style : Style) (fields : List (String × Json)) :
    fields.length ≤ (writeMembers style fields).length := by
  induction fields with
  | nil => exact Nat.le_refl 0
  | cons p fields ih =>
    cases fields with
    | nil => simp [writeMembers, quote]
    | cons q fields =>
      rw [writeMembers_cons p (List.cons_ne_nil q fields), List.length_cons]
      simp only [List.length_append, List.length_cons, quote] at ih ⊢
      omega

/-! ### The round trip -/

mutual

/-- The fuel is the length of the text at least: a nested value is shorter by its bracket. -/
theorem scanValue_write (hlawful : style.Lawful float takes) : (v : Json) → Plain takes v →
    ∀ fuel, (write style v).length ≤ fuel → ∀ cs, Ends cs →
      scanValue fuel (write style v ++ cs) = .ok (toValue style v, cs)
  | .null, _, fuel, hfuel, cs, _ => by
    obtain ⟨fuel, rfl⟩ := Nat.exists_eq_add_one.mpr (Nat.zero_lt_of_lt hfuel)
    rfl
  | .bool b, _, fuel, hfuel, cs, _ => by
    cases b <;> obtain ⟨fuel, rfl⟩ := Nat.exists_eq_add_one.mpr (Nat.zero_lt_of_lt hfuel) <;> rfl
  | .num q, .num h, fuel, hfuel, cs, hends => by
    obtain ⟨⟨c, cs', hcs, hc⟩, hconstant, hnumber⟩ := hlawful.literal q h
    rw [write, hcs, List.length_cons] at hfuel
    obtain ⟨fuel, rfl⟩ := Nat.exists_eq_add_one.mpr (Nat.zero_lt_of_lt hfuel)
    have hne : c ≠ '"' ∧ c ≠ '\x7b' ∧ c ≠ '[' := by
      refine ⟨?_, ?_, ?_⟩ <;> rintro rfl <;> exact absurd hc (by decide)
    have hconstant := hconstant cs hends
    have hnumber := hnumber cs hends
    rw [hcs, List.cons_append] at hconstant hnumber
    rw [write, toValue, hcs, List.cons_append, scanValue, if_neg hne.1, if_neg hne.2.1,
      if_neg hne.2.2, hconstant, hnumber]
  | .str s, _, fuel, hfuel, cs, _ => by
    rw [write, quote, List.length_cons] at hfuel
    obtain ⟨fuel, rfl⟩ := Nat.exists_eq_add_one.mpr (Nat.zero_lt_of_lt hfuel)
    rw [write, quote_append, scanValue, if_pos rfl, scanString_quote hlawful]
    rfl
  | .arr [], _, fuel, hfuel, cs, _ => by
    obtain ⟨fuel, rfl⟩ := Nat.exists_eq_add_one.mpr (Nat.zero_lt_of_lt hfuel)
    rfl
  | .arr (v :: vs), .arr h, fuel, hfuel, cs, _ => by
    rw [write, List.length_cons, List.length_append, List.length_singleton] at hfuel
    obtain ⟨fuel, rfl⟩ := Nat.exists_eq_add_one.mpr (Nat.zero_lt_of_lt hfuel)
    have hlength := length_le_writeItems hlawful (v :: vs) h
    have hitems := scanItems_write hlawful (v :: vs) (List.cons_ne_nil v vs) h fuel (by omega)
      ((writeItems style (v :: vs) ++ ']' :: cs).length + 1) (by rw [List.length_append]; omega) cs
    obtain ⟨c, cs', hwrite, hspace, hc⟩ := exists_writeItems_eq hlawful h
    have hskip : skipSpace (writeItems style (v :: vs) ++ ']' :: cs) =
        writeItems style (v :: vs) ++ ']' :: cs := by
      rw [hwrite, List.cons_append, Ocen.skipSpace_cons hspace]
    have htake : (writeItems style (v :: vs) ++ ']' :: cs).take 1 ≠ [']'] := by
      rw [hwrite]
      exact fun h => hc (List.cons.inj h).1
    rw [write, List.cons_append, List.append_assoc, List.singleton_append, scanValue,
      if_neg (by decide), if_neg (by decide), if_pos rfl]
    simp only [hskip]
    rw [if_neg htake, hitems]
    rfl
  | .obj [], _, fuel, hfuel, cs, _ => by
    obtain ⟨fuel, rfl⟩ := Nat.exists_eq_add_one.mpr (Nat.zero_lt_of_lt hfuel)
    rfl
  | .obj (p :: fields), .obj hkeys h, fuel, hfuel, cs, _ => by
    rw [write, List.length_cons, List.length_append, List.length_singleton] at hfuel
    obtain ⟨fuel, rfl⟩ := Nat.exists_eq_add_one.mpr (Nat.zero_lt_of_lt hfuel)
    have hlength := length_le_writeMembers style (p :: fields)
    have hmembers := scanMembers_write hlawful (p :: fields) (List.cons_ne_nil p fields) h fuel (by omega)
      ((writeMembers style (p :: fields) ++ '\x7d' :: cs).length + 1)
      (by rw [List.length_append]; omega) cs
    obtain ⟨cs', hwrite⟩ := exists_writeMembers_eq style p fields
    have hskip : skipSpace (writeMembers style (p :: fields) ++ '\x7d' :: cs) =
        writeMembers style (p :: fields) ++ '\x7d' :: cs := by
      rw [hwrite]
      rfl
    have htake : (writeMembers style (p :: fields) ++ '\x7d' :: cs).take 1 ≠ ['\x7d'] := by
      rw [hwrite]
      exact fun h => absurd (List.cons.inj h).1 (by decide)
    rw [write, List.cons_append, List.append_assoc, List.singleton_append, scanValue,
      if_neg (by decide), if_pos rfl]
    simp only [hskip]
    rw [if_neg htake, hmembers, toValue]
    change Except.ok (Value.object (PyDict.update [] (toMembers style (p :: fields))), cs) = _
    rw [update_nil (by rw [keys_toMembers]; exact hkeys)]

theorem scanItems_write (hlawful : style.Lawful float takes) : (items : List Json) → items ≠ [] →
    (∀ v ∈ items, Plain takes v) → ∀ fuel, (writeItems style items).length ≤ fuel →
    ∀ fuel', items.length ≤ fuel' → ∀ cs,
      scanItems (scanValue fuel) fuel' (writeItems style items ++ ']' :: cs) =
        .ok (toItems style items, cs)
  | [], hne, _, _, _, _, _, _ => absurd rfl hne
  | [v], _, h, fuel, hfuel, fuel', hfuel', cs => by
    obtain ⟨fuel', rfl⟩ := Nat.exists_eq_add_one.mpr (Nat.zero_lt_of_lt hfuel')
    exact scanItems_last (scanValue_write hlawful v (h v (.head _)) fuel hfuel _ (.bracket cs)) fuel'
  | v :: w :: vs, _, h, fuel, hfuel, fuel', hfuel', cs => by
    obtain ⟨fuel', rfl⟩ := Nat.exists_eq_add_one.mpr (Nat.zero_lt_of_lt hfuel')
    rw [writeItems_cons v (List.cons_ne_nil w vs)] at hfuel ⊢
    simp only [List.length_append, List.length_cons] at hfuel
    have hvalue := scanValue_write hlawful v (h v (.head _)) fuel (by omega)
      (',' :: (style.space ++ (writeItems style (w :: vs) ++ ']' :: cs))) (.comma _)
    have hrest := scanItems_write hlawful (w :: vs) (List.cons_ne_nil w vs)
      (fun u hu => h u (.tail _ hu)) fuel (by omega) fuel' (Nat.le_of_succ_le_succ hfuel') cs
    obtain ⟨c, cs', hwrite, hspace, -⟩ := exists_writeItems_eq hlawful fun u hu => h u (.tail _ hu)
    have hskip : skipSpace (style.space ++ (writeItems style (w :: vs) ++ ']' :: cs)) =
        writeItems style (w :: vs) ++ ']' :: cs := by
      rw [skipSpace_append hlawful.space, hwrite, List.cons_append, Ocen.skipSpace_cons hspace]
    rw [← hskip] at hrest
    rw [List.append_assoc, List.cons_append, List.append_assoc]
    exact scanItems_more hvalue hrest

theorem scanMembers_write (hlawful : style.Lawful float takes) : (fields : List (String × Json)) →
    fields ≠ [] → (∀ p ∈ fields, Plain takes p.2) →
    ∀ fuel, (writeMembers style fields).length ≤ fuel → ∀ fuel', fields.length ≤ fuel' → ∀ cs,
      scanMembers (scanValue fuel) fuel' (writeMembers style fields ++ '\x7d' :: cs) =
        .ok (toMembers style fields, cs)
  | [], hne, _, _, _, _, _, _ => absurd rfl hne
  | [(k, v)], _, h, fuel, hfuel, fuel', hfuel', cs => by
    obtain ⟨fuel', rfl⟩ := Nat.exists_eq_add_one.mpr (Nat.zero_lt_of_lt hfuel')
    have hplain := h (k, v) (.head _)
    rw [writeMembers] at hfuel ⊢
    simp only [List.length_append, List.length_cons] at hfuel
    have hvalue := scanValue_write hlawful v hplain fuel (by omega) ('\x7d' :: cs) (.brace cs)
    rw [← skipSpace_write hlawful hplain] at hvalue
    rw [List.append_assoc, List.cons_append, List.append_assoc]
    exact scanMembers_last hlawful hvalue k fuel'
  | (k, v) :: q :: fields, _, h, fuel, hfuel, fuel', hfuel', cs => by
    obtain ⟨fuel', rfl⟩ := Nat.exists_eq_add_one.mpr (Nat.zero_lt_of_lt hfuel')
    have hplain := h (k, v) (.head _)
    rw [writeMembers_cons (k, v) (List.cons_ne_nil q fields)] at hfuel ⊢
    simp only [List.length_append, List.length_cons] at hfuel
    have hvalue := scanValue_write hlawful v hplain fuel (by omega)
      (',' :: (style.space ++ (writeMembers style (q :: fields) ++ '\x7d' :: cs))) (.comma _)
    rw [← skipSpace_write hlawful hplain] at hvalue
    have hrest := scanMembers_write hlawful (q :: fields) (List.cons_ne_nil q fields)
      (fun u hu => h u (.tail _ hu)) fuel (by omega) fuel' (Nat.le_of_succ_le_succ hfuel') cs
    obtain ⟨cs', hwrite⟩ := exists_writeMembers_eq style q fields
    have hskip : skipSpace (style.space ++ (writeMembers style (q :: fields) ++ '\x7d' :: cs)) =
        writeMembers style (q :: fields) ++ '\x7d' :: cs := by
      rw [skipSpace_append hlawful.space, hwrite]
      rfl
    rw [← hskip] at hrest
    have hmember := scanMembers_more hlawful hvalue hrest k
    rw [toMembers]
    simpa only [List.append_assoc, List.cons_append] using hmember

end

/-- **What is written, `json.loads` reads.** -/
theorem loadsJson_dumps (hlawful : style.Lawful float takes) {v : Json} (h : Plain takes v) :
    loadsJson float (style.dumps v) = .ok v := by
  obtain ⟨c, cs, hwrite, hspace, -, hc⟩ := exists_write_eq hlawful h
  have hmark : (write style v).take 1 ≠ ['\uFEFF'] := by
    rw [hwrite]
    exact fun h => hc (List.cons.inj h).1
  have hskip : skipSpace (write style v) = write style v := by rw [hwrite, Ocen.skipSpace_cons hspace]
  have hvalue := scanValue_write hlawful v h ((write style v).length + 1) (Nat.le_succ _) [] nofun
  rw [List.append_nil] at hvalue
  rw [loadsJson, loads, Style.dumps, String.toList_ofList, if_neg hmark]
  simp only [hskip, hvalue, bind, Except.bind]
  change Except.ok (ofValue float (toValue style v)) = _
  rw [ofValue_toValue hlawful v h]

/-- Two values with one text are one value. -/
theorem dumps_inj (hlawful : style.Lawful float takes) {v w : Json} (hv : Plain takes v)
    (hw : Plain takes w) (h : style.dumps v = style.dumps w) : v = w := by
  have hread := loadsJson_dumps hlawful hv
  rw [h, loadsJson_dumps hlawful hw] at hread
  exact (Except.ok.inj hread).symm

/-- What is written of a dict ends with its brace. -/
theorem getLast?_write_obj (fields : Dict) :
    (write style (.obj fields)).getLast? = some '\x7d' := by
  rw [write, ← List.cons_append]
  exact List.getLast?_concat

end Reading

/-! ## Two writers -/

/-- An integer, as every writer has it. -/
def writeInt (q : Rat) : List Char := q.num.repr.toList

theorem numbers_writeInt (float : String → Rat) : Numbers writeInt float fun q => q.den = 1 where
  literal q _ := literal_repr q.num
  value q h := by
    rw [writeInt, String.ofList_toList, numberOf, Int.toInt?_repr]
    exact Rat.den_eq_one_iff q |>.mp h

theorem Numbers.mono {number : Rat → List Char} {float : String → Rat} {takes takes' : Rat → Prop}
    (h : Numbers number float takes) (hsub : ∀ q, takes' q → takes q) :
    Numbers number float takes' where
  literal q hq := h.literal q (hsub q hq)
  value q hq := h.value q (hsub q hq)

/-- `json.dumps`: ASCII only, and a space after a separator. -/
def Style.json (number : Rat → List Char) : Style where
  escape := Ocen.escapeChar
  space := [' ']
  number := number

/-- A character of a text in `orjson.dumps`, which escapes no more than it has to. -/
def orjsonEscape (c : Char) : List Char :=
  if c = '"' then ['\\', '"']
  else if c = '\\' then ['\\', '\\']
  else if c = '\n' then ['\\', 'n']
  else if c = '\r' then ['\\', 'r']
  else if c = '\t' then ['\\', 't']
  else if c.toNat = 12 then ['\\', 'f']
  else if c.toNat = 8 then ['\\', 'b']
  else if c.toNat < 32 then '\\' :: 'u' :: Ocen.hex4 c.toNat
  else [c]

/-- `orjson.dumps`. -/
def Style.orjson (number : Rat → List Char) : Style where
  escape := orjsonEscape
  space := []
  number := number

section Writers

variable {number : Rat → List Char} {float : String → Rat} {takes : Rat → Prop}

theorem json_lawful (h : Numbers number float takes) : (Style.json number).Lawful float takes where
  toNumbers := h
  reads := Ocen.reads_escapeChar
  escape_ne_nil c := by
    simp only [Style.json, Ocen.escapeChar]
    split_ifs <;> simp
  space c hc := by
    rw [List.mem_singleton.mp hc]
    rfl

theorem reads_orjsonEscape (c : Char) : Ocen.Reads (orjsonEscape c) c := by
  unfold orjsonEscape
  split_ifs with hquote hbackslash hnewline hreturn htab hfeed hbackspace hcontrol
  · rw [hquote]
    exact Ocen.reads_short (by decide) rfl
  · rw [hbackslash]
    exact Ocen.reads_short (by decide) rfl
  · rw [hnewline]
    exact Ocen.reads_short (by decide) rfl
  · rw [hreturn]
    exact Ocen.reads_short (by decide) rfl
  · rw [htab]
    exact Ocen.reads_short (by decide) rfl
  · have hchar : c = Char.ofNat 12 := by rw [← hfeed, Char.ofNat_toNat]
    exact hchar ▸ Ocen.reads_short (by decide) rfl
  · have hchar : c = Char.ofNat 8 := by rw [← hbackspace, Char.ofNat_toNat]
    exact hchar ▸ Ocen.reads_short (by decide) rfl
  · exact Ocen.reads_single (by omega)
  · exact Ocen.reads_self hquote hbackslash (Nat.not_lt.mp hcontrol)

theorem orjson_lawful (h : Numbers number float takes) :
    (Style.orjson number).Lawful float takes where
  toNumbers := h
  reads := reads_orjsonEscape
  escape_ne_nil c := by
    simp only [Style.orjson, orjsonEscape]
    split_ifs <;> simp
  space c hc := nomatch hc

end Writers

end OcenPlatform.JsonText
