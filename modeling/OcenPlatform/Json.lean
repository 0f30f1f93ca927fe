import OcenPlatform.PyDict

/-! JSON values as the platform's Python code sees them: what activities,
signals and rule contexts exchange, with Python's truth test, subscription
`d[key]` and `d.get(key, default)`. -/

namespace OcenPlatform

inductive Json where
  | null
  | bool (b : Bool)
  | num (q : Rat)
  | str (s : String)
  | arr (items : List Json)
  | obj (fields : List (String × Json))
  deriving Inhabited, Repr

/-- A Python dict with string keys and JSON values. -/
abbrev Dict := PyDict String Json

namespace Json

/-- Python's truth value of a decoded JSON value. -/
def truthy : Json → Bool
  | .null => false
  | .bool b => b
  | .num q => q != 0
  | .str s => s != ""
  | .arr items => !items.isEmpty
  | .obj fields => !fields.isEmpty

/-- `v == text` for a string constant `text`. -/
def isStr (text : String) : Json → Bool
  | .str s => s == text
  | _ => false

/-- `v[key]`: raises on anything but a dict that has the key. -/
def subscript (v : Json) (key : String) : Except String Json :=
  match v with
  | .obj fields =>
    match PyDict.find? fields key with
    | some item => .ok item
    | none => .error "KeyError"
  | _ => .error "TypeError"

/-- `v.get(key, default)`: raises on anything but a dict. -/
def get (v : Json) (key : String) (default : Json) : Except String Json :=
  match v with
  | .obj fields => .ok (PyDict.get fields key default)
  | _ => .error "AttributeError"

end Json

/-- Inversion of a step that may raise. -/
theorem exists_of_bind_ok {ε α β : Type} {x : Except ε α} {f : α → Except ε β} {b : β}
    (h : (x >>= f) = .ok b) : ∃ a, x = .ok a ∧ f a = .ok b := by
  cases x with
  | error e => cases h
  | ok a => exact ⟨a, rfl, h⟩

end OcenPlatform
