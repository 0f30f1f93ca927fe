import Mathlib.Data.List.Forall2
import OcenPlatform.Json

/-! Decision tables: a row matches a context if it passes all the tests of the row, and gives an
output object. -/

namespace OcenPlatform.Rules

/-! ## Tests -/

/-- A test of a cell. A comparison with a number fails on everything else. -/
inductive Test where
  | any
  | isBool (b : Bool)
  | isStr (s : String)
  | isNum (q : Rat)
  | lt (q : Rat)
  | le (q : Rat)
  | gt (q : Rat)
  | ge (q : Rat)
  /-- `[low..high)` -/
  | inInterval (low high : Rat)

def Test.passes : Test → Json → Bool
  | .any, _ => true
  | .isBool b, .bool b' => b' = b
  | .isStr s, .str s' => s' = s
  | .isNum q, .num x => x = q
  | .lt q, .num x => x < q
  | .le q, .num x => x ≤ q
  | .gt q, .num x => q < x
  | .ge q, .num x => q ≤ x
  | .inInterval low high, .num x => low ≤ x ∧ x < high
  | _, _ => false

@[simp] theorem passes_any (v : Json) : Test.any.passes v = true := rfl

@[simp] theorem passes_le_num (q x : Rat) : (Test.le q).passes (.num x) = decide (x ≤ q) := rfl

@[simp] theorem passes_gt_num (q x : Rat) : (Test.gt q).passes (.num x) = decide (q < x) := rfl

@[simp] theorem passes_ge_num (q x : Rat) : (Test.ge q).passes (.num x) = decide (q ≤ x) := rfl

@[simp] theorem passes_lt_num (q x : Rat) : (Test.lt q).passes (.num x) = decide (x < q) := rfl

@[simp] theorem passes_isNum_num (q x : Rat) : (Test.isNum q).passes (.num x) = decide (x = q) := rfl

@[simp] theorem passes_inInterval_num (low high x : Rat) :
    (Test.inInterval low high).passes (.num x) = decide (low ≤ x ∧ x < high) := rfl

@[simp] theorem passes_isBool_bool (b b' : Bool) : (Test.isBool b).passes (.bool b') = decide (b' = b) :=
  rfl

@[simp] theorem passes_isStr_str (s s' : String) : (Test.isStr s).passes (.str s') = decide (s' = s) :=
  rfl

/-- What passes the first test passes the second. -/
def Test.Implies (test test' : Test) : Prop := ∀ v, test.passes v → test'.passes v

theorem Test.le_implies {q q' : Rat} (h : q ≤ q') : (Test.le q).Implies (.le q') := by
  intro v hv
  cases v with
  | num x => simpa using Rat.le_trans (by simpa using hv) h
  | _ => cases hv

theorem Test.ge_implies {q q' : Rat} (h : q' ≤ q) : (Test.ge q).Implies (.ge q') := by
  intro v hv
  cases v with
  | num x => simpa using Rat.le_trans h (by simpa using hv)
  | _ => cases hv

theorem Test.isNum_implies {q q' : Rat} (h : q ≤ q') : (Test.isNum q).Implies (.le q') := by
  intro v hv
  cases v with
  | num x =>
    obtain rfl : x = q := by simpa [Test.passes] using hv
    simpa using h
  | _ => cases hv

/-! ## Tables -/

inductive HitPolicy where
  | first
  | collect
  deriving DecidableEq, Repr

/-- A row has a test for each input and a value for each output. -/
structure Rule where
  tests : List Test
  values : List Json

structure DecisionTable where
  hitPolicy : HitPolicy
  inputs : List String
  outputs : List String
  rules : List Rule

namespace DecisionTable

variable (table : DecisionTable) (context : Dict)

/-- A field that the context lacks is null. -/
def matchesRule (rule : Rule) : Bool :=
  (table.inputs.zip rule.tests).all fun (field, test) =>
    test.passes (PyDict.get context field .null)

def output (rule : Rule) : Dict := table.outputs.zip rule.values

def matching : List Rule := table.rules.filter (table.matchesRule context)

/-- The value of an output field in each matching row. -/
def collected (field : String) : List Json :=
  (table.matching context).map fun rule => PyDict.get (table.output rule) field .null

theorem mem_collected {table : DecisionTable} {context : Dict} {field : String} {value : Json} :
    value ∈ table.collected context field ↔ ∃ rule ∈ table.rules,
      table.matchesRule context rule ∧ PyDict.get (table.output rule) field .null = value := by
  simp only [collected, matching, List.mem_map, List.mem_filter, and_assoc]

/-- What an engine yields for the table: one object, that of the first matching row if there is
one, or a list with an object for each matching row. -/
def Yields : Json → Prop := fun result =>
  match table.hitPolicy with
  | .first => ∃ fields, result = .obj fields ∧
      ∀ rule, (table.matching context).head? = some rule → fields = table.output rule
  | .collect => result = .arr ((table.matching context).map fun rule => .obj (table.output rule))

/-- An engine for one table. -/
def evaluate : Json :=
  match table.hitPolicy with
  | .first => .obj (((table.matching context).head?.map table.output).getD [])
  | .collect => .arr ((table.matching context).map fun rule => .obj (table.output rule))

theorem yields_evaluate : table.Yields context (table.evaluate context) := by
  unfold Yields evaluate
  cases table.hitPolicy with
  | first =>
    refine ⟨_, rfl, fun rule hrule => ?_⟩
    rw [hrule]
    rfl
  | collect => rfl

variable {table context} in
/-- Without a match there is no output. -/
theorem evaluate_of_unmatched (hfirst : table.hitPolicy = .first)
    (h : ∀ rule ∈ table.rules, table.matchesRule context rule = false) :
    table.evaluate context = .obj [] := by
  have hmatching : table.matching context = [] :=
    List.filter_eq_nil_iff.mpr fun rule hrule => by simp [h rule hrule]
  unfold evaluate
  rw [hfirst, hmatching]
  rfl

/-! ## Rows that match together -/

section Together

variable {table : DecisionTable} {context context' : Dict} {rule rule' : Rule} {field : String}

theorem mem_matching :
    rule ∈ table.matching context ↔ rule ∈ table.rules ∧ table.matchesRule context rule :=
  List.mem_filter

/-- A row with weaker tests matches too. -/
theorem matchesRule_of_implies (himplies : List.Forall₂ Test.Implies rule.tests rule'.tests)
    (h : table.matchesRule context rule) : table.matchesRule context rule' := by
  unfold matchesRule at h ⊢
  generalize table.inputs = fields at h ⊢
  generalize rule.tests = tests at h himplies
  generalize rule'.tests = tests' at himplies ⊢
  induction himplies generalizing fields with
  | nil => simp
  | cons hfirst _ ih =>
    cases fields with
    | nil => rfl
    | cons name fields =>
      simp only [List.zip_cons_cons, List.all_cons, Bool.and_eq_true] at h ⊢
      exact ⟨hfirst _ h.1, ih fields h.2⟩

/-- A row matches a context whose values pass the tests as well. -/
theorem matchesRule_of_passes (h : table.matchesRule context rule)
    (hpasses : ∀ p ∈ table.inputs.zip rule.tests, p.2.passes (PyDict.get context p.1 .null) →
      p.2.passes (PyDict.get context' p.1 .null)) : table.matchesRule context' rule := by
  unfold matchesRule at h ⊢
  rw [List.all_eq_true] at h ⊢
  exact fun p hp => hpasses p hp (h p hp)

variable (table context field) in
/-- The value of an output field in the first matching row. -/
def stated : Option Json :=
  (table.matching context).head?.map fun rule => PyDict.get (table.output rule) field .null

variable (table context field) in
/-- The matching rows have one value of an output field. -/
def Agree : Prop := ∀ rule ∈ table.matching context, ∀ rule' ∈ table.matching context,
  PyDict.get (table.output rule) field .null = PyDict.get (table.output rule') field .null

theorem stated_isSome_iff :
    (table.stated context field).isSome ↔ ∃ rule ∈ table.rules, table.matchesRule context rule := by
  simp only [stated, Option.isSome_map, List.isSome_head?, ← mem_matching]
  exact ⟨List.exists_mem_of_ne_nil _, fun ⟨_, h⟩ => List.ne_nil_of_mem h⟩

theorem exists_of_stated {value : Json} (h : table.stated context field = some value) :
    ∃ rule ∈ table.rules, table.matchesRule context rule ∧
      PyDict.get (table.output rule) field .null = value := by
  obtain ⟨rule, hhead, hvalue⟩ := Option.map_eq_some_iff.mp h
  obtain ⟨hmem, hmatches⟩ := mem_matching.mp (List.mem_of_head? hhead)
  exact ⟨rule, hmem, hmatches, hvalue⟩

/-- The order of rows that agree does not matter to the first of them. -/
theorem stated_perm {rules : List Rule} (hagree : table.Agree context field)
    (hperm : rules.Perm table.rules) :
    ({ table with rules } : DecisionTable).stated context field = table.stated context field := by
  have hmatching : (({ table with rules } : DecisionTable).matching context).Perm
      (table.matching context) := hperm.filter _
  unfold stated
  cases hrows : table.matching context with
  | nil =>
    rw [hrows] at hmatching
    rw [hmatching.eq_nil]
    rfl
  | cons rule rest =>
    cases hrows' : ({ table with rules } : DecisionTable).matching context with
    | nil =>
      rw [hrows, hrows'] at hmatching
      cases hmatching.symm.eq_nil
    | cons rule' rest' =>
      have hmem : rule' ∈ table.matching context := hmatching.subset (hrows' ▸ .head _)
      exact congrArg some (hagree rule' hmem rule (hrows ▸ .head _))

/-- An engine that stops at the first match yields the value that the table states. -/
theorem Yields.find?_of_stated {result value : Json} (h : table.Yields context result)
    (hfirst : table.hitPolicy = .first)
    (hfield : ∀ rule ∈ table.rules, (PyDict.find? (table.output rule) field).isSome)
    (hstated : table.stated context field = some value) :
    ∃ fields, result = .obj fields ∧ PyDict.find? fields field = some value := by
  unfold Yields at h
  rw [hfirst] at h
  obtain ⟨fields, rfl, hhead⟩ := h
  obtain ⟨rule, hrule, rfl⟩ := Option.map_eq_some_iff.mp hstated
  obtain ⟨value, hvalue⟩ :=
    Option.isSome_iff_exists.mp (hfield rule (mem_matching.mp (List.mem_of_head? hrule)).1)
  refine ⟨fields, rfl, ?_⟩
  rw [hhead rule hrule, PyDict.get, hvalue, Option.getD_some]

end Together

end DecisionTable

end OcenPlatform.Rules
