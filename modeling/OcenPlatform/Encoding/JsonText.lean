import OcenPlatform.PyDict

/-! Python's `json.loads`: the scanner of JSON texts. Numbers keep their text, and a surrogate that
stands alone, which no character is, becomes the replacement character. -/

namespace OcenPlatform.JsonText

inductive Value where
  | null
  | bool (b : Bool)
  | number (literal : String)
  | string (s : String)
  | array (items : List Value)
  | object (fields : List (String × Value))

abbrev Scanner (α : Type) := List Char → Except String (α × List Char)

/-! ## Space and punctuation -/

def isSpace (c : Char) : Bool := c = ' ' || c = '\t' || c = '\n' || c = '\r'

def skipSpace (cs : List Char) : List Char := cs.dropWhile isSpace

def expect (c : Char) (message : String) : List Char → Except String (List Char)
  | [] => .error message
  | c' :: cs => if c' = c then .ok cs else .error message

/-! ## Strings -/

def hexValue (c : Char) : Option Nat :=
  if '0' ≤ c ∧ c ≤ '9' then some (c.toNat - '0'.toNat)
  else if 'a' ≤ c ∧ c ≤ 'f' then some (c.toNat - 'a'.toNat + 10)
  else if 'A' ≤ c ∧ c ≤ 'F' then some (c.toNat - 'A'.toNat + 10)
  else none

/-- `_decode_uXXXX`. -/
def scanHex4 : Scanner Nat
  | a :: b :: c :: d :: cs =>
    match hexValue a, hexValue b, hexValue c, hexValue d with
    | some a, some b, some c, some d => .ok (a * 4096 + b * 256 + c * 16 + d, cs)
    | _, _, _, _ => .error "Invalid \\uXXXX escape"
  | _ => .error "Invalid \\uXXXX escape"

def isHighSurrogate (n : Nat) : Bool := 0xD800 ≤ n && n ≤ 0xDBFF

def isLowSurrogate (n : Nat) : Bool := 0xDC00 ≤ n && n ≤ 0xDFFF

def charOf (n : Nat) : Char := if n.isValidChar then Char.ofNat n else '\uFFFD'

/-- After `\u`: one code unit, or two that are a pair of surrogates. -/
def scanUnicode : Scanner Char := fun cs => do
  let (high, rest) ← scanHex4 cs
  if isHighSurrogate high && rest.take 2 = ['\\', 'u'] then
    let (low, rest') ← scanHex4 (rest.drop 2)
    if isLowSurrogate low then
      return (charOf (0x10000 + (high - 0xD800) * 1024 + (low - 0xDC00)), rest')
  return (charOf high, rest)

def escapes : PyDict Char Char :=
  [('"', '"'), ('\\', '\\'), ('/', '/'), ('b', Char.ofNat 8), ('f', Char.ofNat 12), ('n', '\n'),
    ('r', '\r'), ('t', '\t')]

/-- After a backslash. -/
def scanEscape : Scanner Char
  | [] => .error "Unterminated string starting at"
  | c :: cs =>
    if c = 'u' then scanUnicode cs
    else match PyDict.find? escapes c with
      | some c' => .ok (c', cs)
      | none => .error "Invalid \\escape"

/-- `scanstring`, after the opening quote. Each round takes a character at least. -/
def scanChars : Nat → Scanner (List Char)
  | 0, _ => .error "Unterminated string starting at"
  | _ + 1, [] => .error "Unterminated string starting at"
  | fuel + 1, c :: cs =>
    if c = '"' then .ok ([], cs)
    else if c = '\\' then do
      let (c', rest) ← scanEscape cs
      let (s, rest) ← scanChars fuel rest
      return (c' :: s, rest)
    else if c.toNat < 32 then .error "Invalid control character at"
    else do
      let (s, rest) ← scanChars fuel cs
      return (c :: s, rest)

def scanString : Scanner String := fun cs => do
  let (s, rest) ← scanChars (cs.length + 1) cs
  return (String.ofList s, rest)

/-! ## Numbers -/

def isDigit (c : Char) : Bool := '0' ≤ c ∧ c ≤ '9'

/-- `-?(?:0|[1-9][0-9]*)` -/
def scanInteger (cs : List Char) : Option (List Char × List Char) :=
  let (sign, cs) := if cs.take 1 = ['-'] then (['-'], cs.drop 1) else ([], cs)
  match cs with
  | [] => none
  | c :: rest =>
    if c = '0' then some (sign ++ ['0'], rest)
    else if isDigit c then some (sign ++ cs.takeWhile isDigit, cs.dropWhile isDigit)
    else none

/-- Digits that must follow: with none of them, the text before them is no part of the number. -/
def scanDigits (before cs : List Char) : Option (List Char × List Char) :=
  match cs.takeWhile isDigit with
  | [] => none
  | digits => some (before ++ digits, cs.dropWhile isDigit)

/-- `(\.[0-9]+)?` -/
def scanFraction (cs : List Char) : List Char × List Char :=
  if cs.take 1 = ['.'] then (scanDigits ['.'] (cs.drop 1)).getD ([], cs) else ([], cs)

/-- `([eE][-+]?[0-9]+)?` -/
def scanExponent (cs : List Char) : List Char × List Char :=
  if cs.take 1 = ['e'] || cs.take 1 = ['E'] then
    let rest := cs.drop 1
    let sign := if rest.take 1 = ['-'] || rest.take 1 = ['+'] then rest.take 1 else []
    (scanDigits (cs.take 1 ++ sign) (rest.drop sign.length)).getD ([], cs)
  else ([], cs)

def scanNumber : Scanner Value := fun cs =>
  match scanInteger cs with
  | none => .error "Expecting value"
  | some (integer, cs) =>
    let (fraction, cs) := scanFraction cs
    let (exponent, cs) := scanExponent cs
    .ok (.number (String.ofList (integer ++ fraction ++ exponent)), cs)

/-! ## Values -/

def constants : List (String × Value) :=
  [("null", .null), ("true", .bool true), ("false", .bool false), ("NaN", .number "NaN"),
    ("Infinity", .number "Infinity"), ("-Infinity", .number "-Infinity")]

def scanConstant (cs : List Char) : Option (Value × List Char) :=
  (constants.find? fun p => p.1.toList.isPrefixOf cs).map fun p => (p.2, cs.drop p.1.length)

/-- The members of an object, from the first name on. A later member of a name replaces an earlier
one. -/
def scanMembers (scanValue : Scanner Value) : Nat → Scanner (PyDict String Value)
  | 0, _ => .error "RecursionError"
  | fuel + 1, cs => do
    let cs ← expect '"' "Expecting property name enclosed in double quotes" cs
    let (name, cs) ← scanString cs
    let cs ← expect ':' "Expecting ':' delimiter" (skipSpace cs)
    let (value, cs) ← scanValue (skipSpace cs)
    let cs := skipSpace cs
    if cs.take 1 = ['\x7d'] then
      return ([(name, value)], cs.drop 1)
    let cs ← expect ',' "Expecting ',' delimiter" cs
    let (members, cs) ← scanMembers scanValue fuel (skipSpace cs)
    return ((name, value) :: members, cs)

/-- The items of an array, from the first one on. -/
def scanItems (scanValue : Scanner Value) : Nat → Scanner (List Value)
  | 0, _ => .error "RecursionError"
  | fuel + 1, cs => do
    let (value, cs) ← scanValue cs
    let cs := skipSpace cs
    if cs.take 1 = [']'] then
      return ([value], cs.drop 1)
    let cs ← expect ',' "Expecting ',' delimiter" cs
    let (items, cs) ← scanItems scanValue fuel (skipSpace cs)
    return (value :: items, cs)

/-- `scan_once`. -/
def scanValue : Nat → Scanner Value
  | 0, _ => .error "RecursionError"
  | _ + 1, [] => .error "Expecting value"
  | fuel + 1, c :: cs =>
    if c = '"' then do
      let (s, rest) ← scanString cs
      return (.string s, rest)
    else if c = '\x7b' then
      let cs := skipSpace cs
      if cs.take 1 = ['\x7d'] then .ok (.object [], cs.drop 1)
      else do
        let (members, rest) ← scanMembers (scanValue fuel) (cs.length + 1) cs
        return (.object (PyDict.update [] members), rest)
    else if c = '[' then
      let cs := skipSpace cs
      if cs.take 1 = [']'] then .ok (.array [], cs.drop 1)
      else do
        let (items, rest) ← scanItems (scanValue fuel) (cs.length + 1) cs
        return (.array items, rest)
    else match scanConstant (c :: cs) with
      | some constant => .ok constant
      | none => scanNumber (c :: cs)

/-- `json.loads`. -/
def loads (s : String) : Except String Value := do
  if s.toList.take 1 = ['\uFEFF'] then
    .error "Unexpected UTF-8 BOM (decode using utf-8-sig)"
  else
    let cs := skipSpace s.toList
    let (value, rest) ← scanValue (cs.length + 1) cs
    if skipSpace rest = [] then return value
    else .error "Extra data"

end OcenPlatform.JsonText
