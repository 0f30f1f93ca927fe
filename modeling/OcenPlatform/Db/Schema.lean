import Mathlib.Data.List.Perm.Basic
import OcenPlatform.Json

/-! Schema changes: statements that change the columns and indexes of tables, and the rows
with them. -/

namespace OcenPlatform.Db.Schema

/-! ## Tables -/

/-- A column of type `τ`. Defaults are left out. -/
structure Column (τ : Type) where
  name : String
  type : τ
  nullable : Bool := true
  unique : Bool := false
  deriving DecidableEq

structure Index where
  name : String
  columns : List String
  unique : Bool := false
  deriving DecidableEq

structure Relation (τ : Type) where
  columns : List (Column τ)
  indexes : List Index := []
  deriving DecidableEq

/-- A row by its column names, with `none` for NULL. -/
structure Row (κ ν : Type) where
  id : κ
  cells : String → Option ν

/-- Tables by name, and the rows of each. -/
structure Store (τ κ ν : Type) where
  schema : PyDict String (Relation τ)
  rows : String → List (Row κ ν)

variable {τ κ ν : Type}

/-- The row under other column names: each column comes from another one or is new. -/
def Row.through (source : String → Option String) (r : Row κ ν) : Row κ ν where
  id := r.id
  cells c := (source c).bind r.cells

/-! ## Demands -/

/-- What a statement demands of the rows of a table, by the columns that they come from. -/
inductive Demand where
  | empty (table : String)
  | present (table : String) (column : Option String)
  | distinct (table : String) (columns : List (Option String))
  deriving DecidableEq

namespace Demand

/-- Rows with a NULL in an index are distinct. -/
def Holds (rows : String → List (Row κ ν)) : Demand → Prop
  | .empty table => (rows table).isEmpty = true
  | .present table column => ∀ r ∈ rows table, (column.bind r.cells).isSome = true
  | .distinct table columns => (rows table).Pairwise fun r r' =>
      ∃ c ∈ columns, (c.bind r.cells).isSome = true → c.bind r.cells ≠ c.bind r'.cells

instance [DecidableEq ν] (rows : String → List (Row κ ν)) : DecidablePred (Holds rows)
  | .empty _ => inferInstanceAs (Decidable (_ = _))
  | .present _ _ => inferInstanceAs (Decidable (∀ r ∈ _, _))
  | .distinct _ _ => inferInstanceAs (Decidable (List.Pairwise _ _))

/-- The demand on the rows before the columns changed. -/
def through (source : String → String → Option String) : Demand → Demand
  | .empty table => .empty table
  | .present table column => .present table (column.bind (source table))
  | .distinct table columns => .distinct table (columns.map (Option.bind · (source table)))

theorem holds_through {rows : String → List (Row κ ν)} {source : String → String → Option String}
    {d : Demand} : d.Holds (fun table => (rows table).map (Row.through (source table))) ↔
      (d.through source).Holds rows := by
  have hcell : ∀ (c : Option String) (r : Row κ ν) table,
      c.bind (r.through (source table)).cells = (c.bind (source table)).bind r.cells :=
    fun c r table => (Option.bind_assoc c (source table) r.cells).symm
  cases d with
  | empty table => simp [Holds, through]
  | present table column => simp only [Holds, through, List.forall_mem_map, hcell]
  | distinct table columns => simp only [Holds, through, List.pairwise_map, hcell, List.mem_map,
      exists_exists_and_eq_and]

end Demand

/-! ## Statements -/

inductive Statement (τ : Type) where
  | addColumn (table : String) (column : Column τ)
  | dropColumn (table name : String)
  | alterColumn (table name : String) (newName : Option String) (nullable : Option Bool)
  | createIndex (table : String) (index : Index)
  | dropIndex (name : String)

namespace Relation

def hasColumn (r : Relation τ) (name : String) : Bool := r.columns.any (·.name = name)

/-- Whether the column that is added gets the constraint of `unique=True` depends on the
library. -/
def addColumn (addsUnique : Bool) (column : Column τ) (r : Relation τ) :
    Except String (Relation τ) :=
  if r.hasColumn column.name then .error "DuplicateColumn"
  else .ok { r with
    columns := r.columns ++ [{ column with unique := column.unique && addsUnique }] }

/-- The indexes on a column go with it. -/
def dropColumn (name : String) (r : Relation τ) : Except String (Relation τ) :=
  if r.hasColumn name then .ok {
    columns := r.columns.filter (·.name ≠ name)
    indexes := r.indexes.filter (name ∉ ·.columns) }
  else .error "UndefinedColumn"

/-- Indexes follow a column to its new name. -/
def alterColumn (name : String) (newName : Option String) (nullable : Option Bool)
    (r : Relation τ) : Except String (Relation τ) :=
  if r.hasColumn name = false then .error "UndefinedColumn"
  else if newName.any r.hasColumn then .error "DuplicateColumn"
  else .ok {
    columns := r.columns.map fun c => if c.name = name then
      { c with name := newName.getD name, nullable := nullable.getD c.nullable } else c
    indexes := r.indexes.map fun i => { i with
      columns := i.columns.map fun c => if c = name then newName.getD name else c } }

def createIndex (index : Index) (r : Relation τ) : Except String (Relation τ) :=
  if index.columns.all r.hasColumn then .ok { r with indexes := r.indexes ++ [index] }
  else .error "UndefinedColumn"

end Relation

/-- A change of one table. -/
def alterTable (table : String) (change : Relation τ → Except String (Relation τ))
    (schema : PyDict String (Relation τ)) : Except String (PyDict String (Relation τ)) :=
  match PyDict.find? schema table with
  | none => .error "UndefinedTable"
  | some r => PyDict.set schema table <$> change r

/-- `create_table`. -/
def createTable (table : String) (columns : List (Column τ)) (schema : PyDict String (Relation τ)) :
    Except String (PyDict String (Relation τ)) :=
  if (PyDict.find? schema table).isSome then .error "DuplicateTable"
  else .ok (PyDict.set schema table { columns })

/-- An index with this name, in whatever table. -/
def hasIndex (schema : PyDict String (Relation τ)) (name : String) : Bool :=
  schema.any fun p => p.2.indexes.any (·.name = name)

namespace Statement

/-- What a statement does to the schema. -/
def schema (addsUnique : Bool) (schema : PyDict String (Relation τ)) :
    Statement τ → Except String (PyDict String (Relation τ))
  | .addColumn table column => alterTable table (Relation.addColumn addsUnique column) schema
  | .dropColumn table name => alterTable table (Relation.dropColumn name) schema
  | .alterColumn table name newName nullable =>
    alterTable table (Relation.alterColumn name newName nullable) schema
  | .createIndex table index =>
    if hasIndex schema index.name then .error "DuplicateTable"
    else alterTable table (Relation.createIndex index) schema
  | .dropIndex name =>
    if hasIndex schema name then .ok (PyDict.mapValues (fun r : Relation τ =>
      { r with indexes := r.indexes.filter (·.name ≠ name) }) schema)
    else .error "UndefinedObject"

/-- Where the columns of a table come from. -/
def source (table : String) : Statement τ → String → Option String
  | .addColumn table' column, c => if table' = table ∧ c = column.name then none else some c
  | .dropColumn table' name, c => if table' = table ∧ c = name then none else some c
  | .alterColumn table' name (some newName) _, c =>
    if table' = table then
      if c = newName then some name else if c = name then none else some c
    else some c
  | _, c => some c

def demands : Statement τ → List Demand
  | .addColumn table column => if column.nullable then [] else [.empty table]
  | .alterColumn table name _ (some false) => [.present table (some name)]
  | .createIndex table index =>
    if index.unique then [.distinct table (index.columns.map some)] else []
  | _ => []

def data (rows : String → List (Row κ ν)) (s : Statement τ) : String → List (Row κ ν) :=
  fun table => (rows table).map (Row.through (s.source table))

end Statement

/-! ## Migrations -/

section Migration

variable [DecidableEq ν] (addsUnique : Bool)

def execute (db : Store τ κ ν) (s : Statement τ) : Except String (Store τ κ ν) := do
  let schema ← s.schema addsUnique db.schema
  if ∀ d ∈ s.demands, d.Holds db.rows then return { schema, rows := s.data db.rows } else .error "IntegrityError"

/-- The statements of a migration, one after another in one transaction. -/
def migrate (statements : List (Statement τ)) (db : Store τ κ ν) : Except String (Store τ κ ν) :=
  statements.foldlM (execute addsUnique) db

end Migration

/-- The schema that a migration leads to. -/
def schemaAfter (addsUnique : Bool) (statements : List (Statement τ))
    (schema : PyDict String (Relation τ)) : Except String (PyDict String (Relation τ)) :=
  statements.foldlM (Statement.schema addsUnique) schema

/-- Where the columns come from after these statements. -/
def sourceAfter (table : String) : List (Statement τ) → String → Option String
  | [], c => some c
  | s :: statements, c => (sourceAfter table statements c).bind (s.source table)

/-- What these statements demand of the rows before the first of them. -/
def demandsAfter : List (Statement τ) → List Demand
  | [] => []
  | s :: statements =>
    s.demands ++ (demandsAfter statements).map (Demand.through fun table => s.source table)

section Migrate

variable {addsUnique : Bool} {statements : List (Statement τ)} {db db' : Store τ κ ν}

theorem through_through (source source' : String → Option String) (r : Row κ ν) :
    (r.through source).through source' = r.through fun c => (source' c).bind source := by
  simp only [Row.through, Option.bind_assoc]

theorem forall_demandsAfter_cons {s : Statement τ} {rows : String → List (Row κ ν)} :
    (∀ d ∈ demandsAfter (s :: statements), d.Holds rows) ↔
      (∀ d ∈ s.demands, d.Holds rows) ∧ ∀ d ∈ demandsAfter statements, d.Holds (s.data rows) := by
  have hdata : ∀ d : Demand, d.Holds (s.data rows) ↔
      (d.through fun table => s.source table).Holds rows := fun _ => Demand.holds_through
  rw [demandsAfter, List.forall_mem_append, List.forall_mem_map]
  simp only [hdata]

/-- A migration succeeds if it does on the schema and the rows are as it demands. -/
theorem migrate_ok_iff [DecidableEq ν] : migrate addsUnique statements db = .ok db' ↔
    schemaAfter addsUnique statements db.schema = .ok db'.schema ∧
      (∀ d ∈ demandsAfter statements, d.Holds db.rows) ∧
      db'.rows = fun table => (db.rows table).map (Row.through (sourceAfter table statements)) := by
  induction statements generalizing db with
  | nil =>
    obtain ⟨schema, rows⟩ := db
    obtain ⟨schema', rows'⟩ := db'
    have hsame : (fun table => (rows table).map (Row.through (sourceAfter table
        ([] : List (Statement τ))))) = rows := by
      funext table
      exact List.map_id _
    rw [hsame]
    simp [migrate, schemaAfter, demandsAfter, pure, Except.pure, eq_comm]
  | cons s statements ih =>
    have hdata : (fun table => (s.data db.rows table).map (Row.through (sourceAfter table statements)))
        = fun table => (db.rows table).map (Row.through (sourceAfter table (s :: statements))) := by
      funext table
      rw [Statement.data, List.map_map]
      exact List.map_congr_left fun r _ => through_through _ _ r
    rw [migrate, List.foldlM_cons, schemaAfter, List.foldlM_cons, execute]
    cases hschema : s.schema addsUnique db.schema with
    | error e => simp [bind, Except.bind]
    | ok schema =>
      rw [forall_demandsAfter_cons]
      simp only [bind, Except.bind]
      by_cases hholds : ∀ d ∈ s.demands, d.Holds db.rows
      · have hrest := @ih ⟨schema, s.data db.rows⟩
        rw [hdata] at hrest
        rw [if_pos hholds, and_iff_right hholds]
        exact hrest
      · rw [if_neg hholds]
        exact iff_of_false nofun fun h => hholds h.2.1.1

theorem migrate_of_holds [DecidableEq ν] {schema : PyDict String (Relation τ)}
    (hschema : schemaAfter addsUnique statements db.schema = .ok schema)
    (hholds : ∀ d ∈ demandsAfter statements, d.Holds db.rows) : migrate addsUnique statements db =
      .ok ⟨schema, fun table => (db.rows table).map (Row.through (sourceAfter table statements))⟩ :=
  migrate_ok_iff.mpr ⟨hschema, hholds, rfl⟩

end Migrate

/-! ## Updates -/

section Update

/-- `UPDATE table SET c = NULL, …`. -/
def nullify (table : String) (columns : List String) (db : Store τ κ ν) :
    Except String (Store τ κ ν) :=
  match PyDict.find? db.schema table with
  | none => .error "UndefinedTable"
  | some r =>
    if columns.all r.hasColumn = false then .error "UndefinedColumn"
    else if (db.rows table).isEmpty = false ∧
        ∃ c ∈ r.columns, c.name ∈ columns ∧ c.nullable = false then .error "IntegrityError"
    else .ok { db with
      rows := fun table' => if table' = table then
        (db.rows table).map (Row.through fun c => if c ∈ columns then none else some c)
        else db.rows table' }

/-- One update after another. -/
def nullifyAll (updates : List (String × List String)) (db : Store τ κ ν) :
    Except String (Store τ κ ν) :=
  updates.foldlM (fun db p => nullify p.1 p.2 db) db

/-- The table has all these columns, one of them NOT NULL. -/
def refusesNulls (schema : PyDict String (Relation τ)) (table : String) (columns : List String) :
    Bool :=
  (PyDict.find? schema table).any fun r => columns.all r.hasColumn &&
    r.columns.any fun c => decide (c.name ∈ columns) && !c.nullable

variable {table : String} {columns : List String} {updates : List (String × List String)}
  {db db' : Store τ κ ν}

/-- Such a table can be updated only if it is empty, and nothing changes then. -/
theorem nullify_ok_iff
    (h : refusesNulls db.schema table columns = true) :
    nullify table columns db = .ok db' ↔ db.rows table = [] ∧ db' = db := by
  unfold refusesNulls at h
  cases hfind : PyDict.find? db.schema table with
  | none => simp [hfind] at h
  | some r => ?_
  rw [hfind, Option.any_some] at h
  obtain ⟨hcolumns, hnotNull⟩ := Bool.and_eq_true_iff.mp h
  obtain ⟨c, hc, hcnull⟩ := List.any_eq_true.mp hnotNull
  have hblocked : ∃ c ∈ r.columns, c.name ∈ columns ∧ c.nullable = false :=
    ⟨c, hc, by simpa using hcnull⟩
  simp only [nullify, hfind, hcolumns, Bool.true_eq_false, if_false]
  cases hrows : db.rows table with
  | nil =>
    have hsame : (fun table' => if table' = table then
        ([] : List (Row κ ν)).map (Row.through fun c => if c ∈ columns then none else some c)
        else db.rows table') = db.rows := by
      funext table'
      split
      · rename_i htable
        rw [htable, hrows, List.map_nil]
      · rfl
    rw [hsame, if_neg fun h => Bool.noConfusion h.1]
    exact ⟨fun h => ⟨rfl, (Except.ok.inj h).symm⟩, fun h => congrArg Except.ok h.2.symm⟩
  | cons row rows =>
    rw [if_pos ⟨rfl, hblocked⟩]
    refine iff_of_false (fun h => ?_) fun h => List.cons_ne_nil _ _ h.1
    cases h

theorem nullifyAll_ok_iff (h : ∀ p ∈ updates, refusesNulls db.schema p.1 p.2 = true) :
    nullifyAll updates db = .ok db' ↔ (∀ p ∈ updates, db.rows p.1 = []) ∧ db' = db := by
  induction updates with
  | nil => exact ⟨fun h => ⟨nofun, (Except.ok.inj h).symm⟩, fun h => congrArg Except.ok h.2.symm⟩
  | cons p updates ih =>
    rw [List.forall_mem_cons] at h ⊢
    have ih := ih h.2
    have hfirst : ∀ db₁, nullify p.1 p.2 db = .ok db₁ ↔ db.rows p.1 = [] ∧ db₁ = db :=
      fun _ => nullify_ok_iff h.1
    simp only [nullifyAll, List.foldlM_cons] at ih ⊢
    cases hnullify : nullify p.1 p.2 db with
    | error e =>
      refine iff_of_false nofun fun hempty => ?_
      rw [(hfirst db).mpr ⟨hempty.1.1, rfl⟩] at hnullify
      cases hnullify
    | ok db₁ =>
      obtain ⟨hempty, rfl⟩ := (hfirst db₁).mp hnullify
      exact ih.trans (by rw [and_iff_right hempty])

/-- An update leaves the schema alone. -/
theorem nullify_schema (h : nullify table columns db = .ok db') : db'.schema = db.schema := by
  unfold nullify at h
  split at h
  · cases h
  · split at h
    · cases h
    split at h
    · cases h
    obtain rfl := Except.ok.inj h
    rfl

theorem nullifyAll_schema (h : nullifyAll updates db = .ok db') : db'.schema = db.schema := by
  induction updates generalizing db with
  | nil =>
    obtain rfl := Except.ok.inj h
    rfl
  | cons p updates ih =>
    simp only [nullifyAll, List.foldlM_cons] at h ih
    cases hnullify : nullify p.1 p.2 db with
    | error e =>
      rw [hnullify] at h
      cases h
    | ok db₁ =>
      rw [hnullify] at h
      exact (ih h).trans (nullify_schema hnullify)

end Update

end OcenPlatform.Db.Schema
