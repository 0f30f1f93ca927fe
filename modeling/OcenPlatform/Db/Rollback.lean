import OcenPlatform.Db.Migrations

/-! From revision 003 up to 004 and back: which schema the downgrades leave. -/

namespace OcenPlatform.Db.Migrations

open Schema

/-- The columns that 004 drops and its downgrade adds again. -/
def plaintext : String → List String
  | "anchors" => ["name", "gstin"]
  | "vendors" => ["name", "gstin", "udyam_number"]
  | "loan_applications" => ["vendor_gstin", "anchor_gstin"]
  | _ => []

/-- The columns that 004 makes NOT NULL as it renames them. -/
def renamedNotNull : String → List String
  | "anchors" | "vendors" => ["name_enc", "gstin_enc"]
  | "loan_applications" => ["vendor_gstin_enc", "anchor_gstin_enc"]
  | _ => []

/-- How a column of 002 comes back: plaintext is nullable, and `unique` as `add_column` makes it.
Whether the renamed columns are nullable again is left open. -/
def ColumnRestored (addsUnique : Bool) (table : String) (c c' : Column ColumnType) : Prop :=
  c'.name = c.name ∧ c'.type = c.type ∧
    c'.unique = (c.unique && (addsUnique || decide (c.name ∉ plaintext table))) ∧
    (c.name ∉ renamedNotNull table → c'.nullable = (c.nullable || decide (c.name ∈ plaintext table)))

instance (addsUnique : Bool) (table : String) (c c' : Column ColumnType) :
    Decidable (ColumnRestored addsUnique table c c') :=
  inferInstanceAs (Decidable (_ ∧ _ ∧ _ ∧ (_ → _)))

/-- The columns and the indexes of a table, in whatever order. -/
def TableRestored (addsUnique : Bool) (table : String) (r r' : Relation ColumnType) : Prop :=
  (∃ columns, columns.Perm r'.columns ∧
    List.Forall₂ (ColumnRestored addsUnique table) r.columns columns) ∧ r'.indexes.Perm r.indexes

def SchemaRestored (addsUnique : Bool) (schema schema' : Tables) : Prop :=
  List.Forall₂ (fun p p' => p'.1 = p.1 ∧ TableRestored addsUnique p.1 p.2 p'.2) schema schema'

/-- The columns of `r'` in the order of `r`. -/
def ordered (r r' : Relation ColumnType) : List (Column ColumnType) :=
  r.columns.map fun c => (r'.columns.find? (·.name = c.name)).getD c

theorem tableRestored_of_ordered {addsUnique : Bool} {table : String} {r r' : Relation ColumnType}
    (hcolumns : (ordered r r').Perm r'.columns)
    (hrestored : ∀ c ∈ r.columns, ColumnRestored addsUnique table c
      ((r'.columns.find? (·.name = c.name)).getD c))
    (hindexes : r'.indexes.Perm r.indexes) : TableRestored addsUnique table r r' :=
  ⟨⟨ordered r r', hcolumns, List.forall₂_map_right_iff.mpr (List.forall₂_same.mpr hrestored)⟩,
    hindexes⟩

/-- On the schema alone, the way up and back. The tables then refuse the nulls of
`downgrade003`. -/
theorem schema_rollback (addsUnique : Bool) : ∃ schema upgraded downgraded,
    revision002 addsUnique = .ok schema ∧ schemaAfter addsUnique upgrade004 schema = .ok upgraded ∧
      schemaAfter addsUnique downgrade004 upgraded = .ok downgraded ∧
      SchemaRestored addsUnique schema downgraded ∧
      ∀ p ∈ nulled003, refusesNulls downgraded p.1 p.2 = true := by
  have hrestored : ∀ {schema downgraded : Tables},
      (List.Forall₂ (fun p p' => p'.1 = p.1 ∧ (ordered p.2 p'.2).Perm p'.2.columns ∧
        (∀ c ∈ p.2.columns, ColumnRestored addsUnique p.1 c
          ((p'.2.columns.find? (·.name = c.name)).getD c)) ∧ p'.2.indexes.Perm p.2.indexes)
        schema downgraded) → SchemaRestored addsUnique schema downgraded := fun h =>
    h.imp fun _ _ ⟨hname, hcolumns, hrestored, hindexes⟩ =>
      ⟨hname, tableRestored_of_ordered hcolumns hrestored hindexes⟩
  cases addsUnique
  · exact ⟨_, _, _, rfl, rfl, rfl, hrestored (by decide +kernel), by decide +kernel⟩
  · exact ⟨_, _, _, rfl, rfl, rfl, hrestored (by decide +kernel), by decide +kernel⟩

/-- 004 needs distinct indexes besides. It and its downgrade then leave the schema of 002 but for
the nullable plaintext. -/
theorem rollback (addsUnique : Bool) (db : Store) (hschema : revision002 addsUnique = .ok db.schema)
    (hnulls : NoNulls db.rows) :
    ((∃ upgraded, migrate addsUnique upgrade004 db = .ok upgraded) ↔ DistinctIndexes db.rows) ∧
      ∀ upgraded, migrate addsUnique upgrade004 db = .ok upgraded →
        ∃ downgraded, migrate addsUnique downgrade004 upgraded = .ok downgraded ∧
          SchemaRestored addsUnique db.schema downgraded.schema ∧
          ((∀ table ∈ tables, db.rows table = []) →
            ∃ reverted, downgrade003 downgraded = .ok reverted) ∧
          ∀ reverted, downgrade003 downgraded = .ok reverted →
            reverted.schema = downgraded.schema := by
  obtain ⟨schema, up, down, hschema', hup, hdown, hrestored, hrefuses⟩ := schema_rollback addsUnique
  obtain rfl := Except.ok.inj (hschema'.symm.trans hschema)
  refine ⟨⟨fun ⟨upgraded, hupgrade⟩ => ?_, fun hdistinct => ?_⟩, fun upgraded hupgrade => ?_⟩
  · exact (demands_upgrade004.mp (migrate_ok_iff.mp hupgrade).2.1).2
  · exact ⟨_, migrate_of_holds hup (demands_upgrade004.mpr ⟨hnulls, hdistinct⟩)⟩
  · obtain ⟨hupschema, -, hrows⟩ := migrate_ok_iff.mp hupgrade
    obtain rfl := Except.ok.inj (hup.symm.trans hupschema)
    have hdemands : ∀ d ∈ demandsAfter downgrade004, d.Holds upgraded.rows := by
      rw [show demandsAfter downgrade004 = [] from rfl]
      exact nofun
    refine ⟨_, migrate_of_holds hdown hdemands, hrestored, fun hempty => ?_,
      fun reverted hreverted => nullifyAll_schema hreverted⟩
    refine ⟨_, (nullifyAll_ok_iff hrefuses).mpr ⟨fun p hp => ?_, rfl⟩⟩
    have htable : p.1 ∈ tables := List.mem_map_of_mem (f := Prod.fst) hp
    simp only [hrows, hempty p.1 htable, List.map_nil]

/-- One row in each table, with a text in every column. -/
def oneEach : Store := atRevision003 false fun table =>
  if table ∈ tables then [{ id := ⟨1⟩, cells := fun c => some (.text c) }] else []

theorem rollback_oneEach :
    ((∃ upgraded, migrate false upgrade004 oneEach = .ok upgraded) ↔ DistinctIndexes oneEach.rows) ∧
      ∀ upgraded, migrate false upgrade004 oneEach = .ok upgraded →
        ∃ downgraded, migrate false downgrade004 upgraded = .ok downgraded ∧
          SchemaRestored false oneEach.schema downgraded.schema ∧
          ((∀ table ∈ tables, oneEach.rows table = []) →
            ∃ reverted, downgrade003 downgraded = .ok reverted) ∧
          ∀ reverted, downgrade003 downgraded = .ok reverted →
            reverted.schema = downgraded.schema :=
  rollback false oneEach rfl (by decide)

/-- All three migrations run, and the schema is the one of 002 up to the order of columns. -/
def RollsBack (addsUnique : Bool) (db : Store) : Prop :=
  ∃ upgraded downgraded reverted, migrate addsUnique upgrade004 db = .ok upgraded ∧
    migrate addsUnique downgrade004 upgraded = .ok downgraded ∧
    downgrade003 downgraded = .ok reverted ∧
    List.Forall₂ (fun p p' => p'.1 = p.1 ∧ p'.2.columns.Perm p.2.columns ∧
      p'.2.indexes.Perm p.2.indexes) db.schema reverted.schema

/-- Two anchors with the same index. -/
def twins : Store := atRevision003 false fun table =>
  if table = "anchors" then [⟨⟨1⟩, fun c => some (.text c)⟩, ⟨⟨2⟩, fun c => some (.text c)⟩] else []

/-- Even without rows, `anchors.name` comes back nullable. With `twins`, 004 fails. -/
theorem noRows_not_rollsBack :
    (NoNulls (fun _ => []) ∧ ¬ RollsBack false (atRevision003 false fun _ => []) ∧
      ¬ RollsBack true (atRevision003 true fun _ => [])) ∧
    NoNulls twins.rows ∧ ¬ RollsBack false twins := by
  have hschema : ∀ addsUnique, RollsBack addsUnique (atRevision003 addsUnique fun _ => []) →
      ∃ upgraded downgraded,
        schemaAfter addsUnique upgrade004 (atRevision003 addsUnique fun _ => []).schema =
          .ok upgraded ∧ schemaAfter addsUnique downgrade004 upgraded = .ok downgraded ∧
        List.Forall₂ (fun p p' => p'.1 = p.1 ∧ p'.2.columns.Perm p.2.columns ∧
          p'.2.indexes.Perm p.2.indexes) (atRevision003 addsUnique fun _ => []).schema downgraded := by
    rintro addsUnique ⟨upgraded, downgraded, reverted, hup, hdown, hreverted, hsame⟩
    refine ⟨_, _, (migrate_ok_iff.mp hup).1, (migrate_ok_iff.mp hdown).1, ?_⟩
    rw [← nullifyAll_schema hreverted]
    exact hsame
  refine ⟨⟨by decide, fun h => ?_, fun h => ?_⟩, by decide, fun ⟨_, _, _, hup, _⟩ => ?_⟩
  · obtain ⟨upgraded, downgraded, hup, hdown, hsame⟩ := hschema false h
    obtain rfl := Except.ok.inj hup
    obtain rfl := Except.ok.inj hdown
    revert hsame
    decide +kernel
  · obtain ⟨upgraded, downgraded, hup, hdown, hsame⟩ := hschema true h
    obtain rfl := Except.ok.inj hup
    obtain rfl := Except.ok.inj hdown
    revert hsame
    decide +kernel
  · exact absurd (demands_upgrade004.mp (migrate_ok_iff.mp hup).2.1).2 (by decide)

end OcenPlatform.Db.Migrations
