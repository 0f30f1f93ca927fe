import OcenPlatform.Db.Schema
import OcenPlatform.Uuid

/-! The migrations of `anchors`, `vendors` and `loan_applications`. The other tables that 001
and 002 create are left out: 003 and 004 do not touch them. -/

namespace OcenPlatform.Db.Migrations

open Schema

inductive ColumnType where
  | uuid
  | string (length : Nat)
  | boolean
  | dateTime
  | jsonb
  | numeric (precision scale : Nat)
  | largeBinary
  deriving DecidableEq

/-- What the columns hold that the migrations read or write. -/
inductive Cell where
  | text (s : String)
  | bytes (b : List UInt8)
  deriving DecidableEq

abbrev Tables := PyDict String (Relation ColumnType)

abbrev Store := Schema.Store ColumnType Uuid Cell

abbrev Row := Schema.Row Uuid Cell

/-! ## 001 -/

def id : Column ColumnType := { name := "id", type := .uuid, nullable := false, unique := true }

def anchors : List (Column ColumnType) := [
  id,
  { name := "name", type := .string 255, nullable := false },
  { name := "gstin", type := .string 15, unique := true, nullable := false },
  { name := "sector", type := .string 100 },
  { name := "region", type := .string 100 },
  { name := "repayment_routing_active", type := .boolean },
  { name := "onboarded_at", type := .dateTime }]

def vendors : List (Column ColumnType) := [
  id,
  { name := "name", type := .string 255, nullable := false },
  { name := "gstin", type := .string 15, unique := true, nullable := false },
  { name := "udyam_number", type := .string 30 },
  { name := "udyam_category", type := .string 10 },
  { name := "onboarded_at", type := .dateTime }]

def loanApplications : List (Column ColumnType) := [
  id,
  { name := "invoice_id", type := .uuid, nullable := false },
  { name := "vendor_gstin", type := .string 15, nullable := false },
  { name := "anchor_gstin", type := .string 15, nullable := false },
  { name := "amount_requested", type := .numeric 14 2, nullable := false },
  { name := "status", type := .string 50, nullable := false },
  { name := "current_gate", type := .string 50 },
  { name := "workflow_id", type := .string 100 },
  { name := "idempotency_key", type := .string 128, unique := true },
  { name := "matched_lender_ids", type := .jsonb },
  { name := "selected_lender_id", type := .string 100 },
  { name := "offer_data", type := .jsonb },
  { name := "amount_sanctioned", type := .numeric 14 2 },
  { name := "created_at", type := .dateTime },
  { name := "updated_at", type := .dateTime }]

def upgrade001 : Except String Tables := do
  let tables ← createTable "anchors" anchors []
  let tables ← createTable "vendors" vendors tables
  let tables ← createTable "loan_applications" loanApplications tables
  schemaAfter true [
    .createIndex "loan_applications" { name := "ix_loan_app_vendor", columns := ["vendor_gstin"] },
    .createIndex "loan_applications" { name := "ix_loan_app_anchor", columns := ["anchor_gstin"] },
    .createIndex "loan_applications" { name := "ix_loan_app_status", columns := ["status"] }] tables

/-! ## 002 -/

def upgrade002 : List (Statement ColumnType) := [
  .addColumn "anchors" { name := "name_enc", type := .largeBinary },
  .addColumn "anchors" { name := "gstin_enc", type := .largeBinary },
  .addColumn "anchors" { name := "gstin_idx", type := .string 64 },
  .addColumn "vendors" { name := "name_enc", type := .largeBinary },
  .addColumn "vendors" { name := "gstin_enc", type := .largeBinary },
  .addColumn "vendors" { name := "gstin_idx", type := .string 64 },
  .addColumn "vendors" { name := "udyam_number_enc", type := .largeBinary },
  .addColumn "vendors" { name := "udyam_number_idx", type := .string 64 },
  .addColumn "loan_applications" { name := "vendor_gstin_enc", type := .largeBinary },
  .addColumn "loan_applications" { name := "vendor_gstin_idx", type := .string 64 },
  .addColumn "loan_applications" { name := "anchor_gstin_enc", type := .largeBinary },
  .addColumn "loan_applications" { name := "anchor_gstin_idx", type := .string 64 },
  .addColumn "loan_applications" { name := "aa_consent_id", type := .string 128 }]

/-- The schema that 002 leaves. 003 changes rows only. -/
def revision002 (addsUnique : Bool) : Except String Tables :=
  upgrade001 >>= schemaAfter addsUnique upgrade002

/-- A database with this schema. -/
def atRevision003 (addsUnique : Bool) (rows : String → List Row) : Store where
  schema := (revision002 addsUnique).toOption.getD []
  rows := rows

theorem revision002_atRevision003 (addsUnique : Bool) (rows : String → List Row) :
    revision002 addsUnique = .ok (atRevision003 addsUnique rows).schema := by
  cases addsUnique <;> rfl

/-! ## 003 -/

/-- The columns that the downgrade of 003 sets to NULL. -/
def nulled003 : List (String × List String) := [
  ("anchors", ["name_enc", "gstin_enc", "gstin_idx"]),
  ("vendors", ["name_enc", "gstin_enc", "gstin_idx", "udyam_number_enc", "udyam_number_idx"]),
  ("loan_applications",
    ["vendor_gstin_enc", "vendor_gstin_idx", "anchor_gstin_enc", "anchor_gstin_idx"])]

def downgrade003 (db : Store) : Except String Store := nullifyAll nulled003 db

/-! ## 004 -/

def upgrade004 : List (Statement ColumnType) := [
  .dropColumn "anchors" "name",
  .dropColumn "anchors" "gstin",
  .alterColumn "anchors" "name_enc" (some "name_encrypted") (some false),
  .alterColumn "anchors" "gstin_enc" (some "gstin_encrypted") (some false),
  .alterColumn "anchors" "gstin_idx" none (some false),
  .createIndex "anchors" { name := "ix_anchor_gstin_idx", columns := ["gstin_idx"], unique := true },
  .dropColumn "vendors" "name",
  .dropColumn "vendors" "gstin",
  .dropColumn "vendors" "udyam_number",
  .alterColumn "vendors" "name_enc" (some "name_encrypted") (some false),
  .alterColumn "vendors" "gstin_enc" (some "gstin_encrypted") (some false),
  .alterColumn "vendors" "gstin_idx" none (some false),
  .alterColumn "vendors" "udyam_number_enc" (some "udyam_encrypted") none,
  .alterColumn "vendors" "udyam_number_idx" (some "udyam_idx") none,
  .createIndex "vendors" { name := "ix_vendor_gstin_idx", columns := ["gstin_idx"], unique := true },
  .createIndex "vendors" { name := "ix_vendor_udyam_idx", columns := ["udyam_idx"] },
  .dropIndex "ix_loan_app_vendor",
  .dropIndex "ix_loan_app_anchor",
  .dropColumn "loan_applications" "vendor_gstin",
  .dropColumn "loan_applications" "anchor_gstin",
  .alterColumn "loan_applications" "vendor_gstin_enc" (some "vendor_gstin_encrypted") (some false),
  .alterColumn "loan_applications" "anchor_gstin_enc" (some "anchor_gstin_encrypted") (some false),
  .alterColumn "loan_applications" "vendor_gstin_idx" none (some false),
  .alterColumn "loan_applications" "anchor_gstin_idx" none (some false),
  .createIndex "loan_applications"
    { name := "ix_loan_app_vendor_idx", columns := ["vendor_gstin_idx"] },
  .createIndex "loan_applications"
    { name := "ix_loan_app_anchor_idx", columns := ["anchor_gstin_idx"] }]

def downgrade004 : List (Statement ColumnType) := [
  .dropIndex "ix_loan_app_anchor_idx",
  .dropIndex "ix_loan_app_vendor_idx",
  .alterColumn "loan_applications" "anchor_gstin_idx" none (some true),
  .alterColumn "loan_applications" "vendor_gstin_idx" none (some true),
  .alterColumn "loan_applications" "anchor_gstin_encrypted" (some "anchor_gstin_enc") none,
  .alterColumn "loan_applications" "vendor_gstin_encrypted" (some "vendor_gstin_enc") none,
  .addColumn "loan_applications" { name := "anchor_gstin", type := .string 15 },
  .addColumn "loan_applications" { name := "vendor_gstin", type := .string 15 },
  .createIndex "loan_applications" { name := "ix_loan_app_anchor", columns := ["anchor_gstin"] },
  .createIndex "loan_applications" { name := "ix_loan_app_vendor", columns := ["vendor_gstin"] },
  .dropIndex "ix_vendor_udyam_idx",
  .dropIndex "ix_vendor_gstin_idx",
  .alterColumn "vendors" "udyam_idx" (some "udyam_number_idx") none,
  .alterColumn "vendors" "udyam_encrypted" (some "udyam_number_enc") none,
  .alterColumn "vendors" "gstin_idx" none (some true),
  .alterColumn "vendors" "gstin_encrypted" (some "gstin_enc") none,
  .alterColumn "vendors" "name_encrypted" (some "name_enc") none,
  .addColumn "vendors" { name := "udyam_number", type := .string 30 },
  .addColumn "vendors" { name := "gstin", type := .string 15, unique := true },
  .addColumn "vendors" { name := "name", type := .string 255 },
  .dropIndex "ix_anchor_gstin_idx",
  .alterColumn "anchors" "gstin_idx" none (some true),
  .alterColumn "anchors" "gstin_encrypted" (some "gstin_enc") none,
  .alterColumn "anchors" "name_encrypted" (some "name_enc") none,
  .addColumn "anchors" { name := "gstin", type := .string 15, unique := true },
  .addColumn "anchors" { name := "name", type := .string 255 }]

/-! ## What 004 needs -/

/-- The columns that 004 makes NOT NULL. -/
def madeNotNull : String → List String
  | "anchors" | "vendors" => ["name_enc", "gstin_enc", "gstin_idx"]
  | "loan_applications" =>
    ["vendor_gstin_enc", "anchor_gstin_enc", "vendor_gstin_idx", "anchor_gstin_idx"]
  | _ => []

def tables : List String := ["anchors", "vendors", "loan_applications"]

def NoNulls (rows : String → List Row) : Prop :=
  ∀ table ∈ tables, ∀ c ∈ madeNotNull table, ∀ r ∈ rows table, (r.cells c).isSome = true

instance (rows : String → List Row) : Decidable (NoNulls rows) :=
  inferInstanceAs (Decidable (∀ table ∈ tables, _))

/-- 004 creates unique indexes over these columns. -/
def DistinctIndexes (rows : String → List Row) : Prop :=
  ∀ table ∈ ["anchors", "vendors"],
    (rows table).Pairwise fun r r' => r.cells "gstin_idx" ≠ r'.cells "gstin_idx"

instance (rows : String → List Row) : Decidable (DistinctIndexes rows) :=
  inferInstanceAs (Decidable (∀ table ∈ ["anchors", "vendors"], _))

theorem demands_upgrade004 {rows : String → List Row} :
    (∀ d ∈ demandsAfter upgrade004, d.Holds rows) ↔ NoNulls rows ∧ DistinctIndexes rows := by
  have hdistinct : ∀ table ∈ ["anchors", "vendors"],
      ((∀ r ∈ rows table, (r.cells "gstin_idx").isSome = true) ∧
        (Demand.distinct table [some "gstin_idx"]).Holds rows ↔
      (∀ r ∈ rows table, (r.cells "gstin_idx").isSome = true) ∧
        (rows table).Pairwise fun r r' => r.cells "gstin_idx" ≠ r'.cells "gstin_idx") := by
    intro table _
    refine and_congr_right fun hsome => ⟨fun h => ?_, fun h => ?_⟩
    · refine List.Pairwise.imp_of_mem (fun {r r'} hr _ hne => ?_) h
      obtain ⟨c, hc, hne⟩ := hne
      obtain rfl := List.mem_singleton.mp hc
      exact hne (hsome r hr)
    · exact h.imp fun hne => ⟨some "gstin_idx", .head _, fun _ => hne⟩
  have hanchors := hdistinct "anchors" (.head _)
  have hvendors := hdistinct "vendors" (.tail _ (.head _))
  rw [show demandsAfter upgrade004 = [
    .present "anchors" (some "name_enc"), .present "anchors" (some "gstin_enc"),
    .present "anchors" (some "gstin_idx"), .distinct "anchors" [some "gstin_idx"],
    .present "vendors" (some "name_enc"), .present "vendors" (some "gstin_enc"),
    .present "vendors" (some "gstin_idx"), .distinct "vendors" [some "gstin_idx"],
    .present "loan_applications" (some "vendor_gstin_enc"),
    .present "loan_applications" (some "anchor_gstin_enc"),
    .present "loan_applications" (some "vendor_gstin_idx"),
    .present "loan_applications" (some "anchor_gstin_idx")] from rfl]
  simp only [NoNulls, DistinctIndexes, tables, madeNotNull, List.forall_mem_cons,
    Demand.Holds, Option.bind_some] at hanchors hvendors ⊢
  tauto

/-- 004 succeeds on exactly these rows. -/
theorem upgrade004_ok_iff {addsUnique : Bool} {rows : String → List Row} :
    (∃ upgraded, migrate addsUnique upgrade004 (atRevision003 addsUnique rows) = .ok upgraded) ↔
      NoNulls rows ∧ DistinctIndexes rows := by
  have hschema : ∃ schema upgraded, revision002 addsUnique = .ok schema ∧
      schemaAfter addsUnique upgrade004 schema = .ok upgraded := by
    cases addsUnique <;> exact ⟨_, _, rfl, rfl⟩
  rw [← demands_upgrade004]
  constructor
  · rintro ⟨upgraded, h⟩
    exact (migrate_ok_iff.mp h).2.1
  · intro hdemands
    obtain ⟨schema, upgraded, hstart, hschema⟩ := hschema
    rw [revision002_atRevision003 addsUnique rows] at hstart
    obtain rfl := Except.ok.inj hstart
    exact ⟨_, migrate_of_holds hschema hdemands⟩

end OcenPlatform.Db.Migrations
