import OcenPlatform.Db.ConcurrentInserts
import OcenPlatform.Db.Commits
import OcenPlatform.Gateway.LegalHold

/-! Migration 004 after a completed backfill. The application goes on writing rows, and what
it writes has no `_enc` and no `_idx` columns. -/

namespace OcenPlatform.Db

open Migrations (Row Cell)

/-! ## The tables as 003 leaves them -/

def AnchorRecord.row (a : AnchorRecord) : Row where
  id := a.id
  cells
    | "name" => some (.text a.name)
    | "gstin" => some (.text a.gstin)
    | "name_enc" => a.nameEnc.map .bytes
    | "gstin_enc" => a.gstinEnc.map .bytes
    | "gstin_idx" => a.gstinIdx.map .text
    | _ => none

def VendorRecord.row (v : VendorRecord) : Row where
  id := v.id
  cells
    | "name" => some (.text v.name)
    | "gstin" => some (.text v.gstin)
    | "udyam_number" => v.udyamNumber.map .text
    | "name_enc" => v.nameEnc.map .bytes
    | "gstin_enc" => v.gstinEnc.map .bytes
    | "gstin_idx" => v.gstinIdx.map .text
    | "udyam_number_enc" => v.udyamNumberEnc.map .bytes
    | "udyam_number_idx" => v.udyamNumberIdx.map .text
    | _ => none

def LoanApplicationRecord.row (la : LoanApplicationRecord) : Row where
  id := la.id
  cells
    | "vendor_gstin" => some (.text la.vendorGstin)
    | "anchor_gstin" => some (.text la.anchorGstin)
    | "vendor_gstin_enc" => la.vendorGstinEnc.map .bytes
    | "vendor_gstin_idx" => la.vendorGstinIdx.map .text
    | "anchor_gstin_enc" => la.anchorGstinEnc.map .bytes
    | "anchor_gstin_idx" => la.anchorGstinIdx.map .text
    | _ => none

abbrev Anchors := Table AnchorRecord AnchorsValid

def tableRows (anchors : Anchors) (db : Database) : String → List Row
  | "anchors" => anchors.rows.map AnchorRecord.row
  | "vendors" => db.vendors.rows.map VendorRecord.row
  | "loan_applications" => db.loanApplications.rows.map LoanApplicationRecord.row
  | _ => []

/-- 004 succeeds on the database. -/
def Upgradable (addsUnique : Bool) (anchors : Anchors) (db : Database) : Prop :=
  ∃ upgraded, Schema.migrate addsUnique Migrations.upgrade004
    (Migrations.atRevision003 addsUnique (tableRows anchors db)) = .ok upgraded

/-! ## What 004 needs of the records -/

def AnchorRecord.Encrypted (a : AnchorRecord) : Prop :=
  a.nameEnc.isSome = true ∧ a.gstinEnc.isSome = true ∧ a.gstinIdx.isSome = true

def VendorRecord.Encrypted (v : VendorRecord) : Prop :=
  v.nameEnc.isSome = true ∧ v.gstinEnc.isSome = true ∧ v.gstinIdx.isSome = true

def LoanApplicationRecord.Encrypted (la : LoanApplicationRecord) : Prop :=
  la.vendorGstinEnc.isSome = true ∧ la.anchorGstinEnc.isSome = true ∧
    la.vendorGstinIdx.isSome = true ∧ la.anchorGstinIdx.isSome = true

/-- What the application can break. -/
structure Database.Encrypted (db : Database) : Prop where
  vendors : ∀ v ∈ db.vendors.rows, v.Encrypted
  loanApplications : ∀ la ∈ db.loanApplications.rows, la.Encrypted

theorem AnchorRecord.encrypted_of_filled {a : AnchorRecord}
    (h : Backfill.Filled Backfill.anchors a.row) : a.Encrypted := by
  have hname := (h _ (.head _) rfl).1
  have hgstin := h _ (.tail _ (.head _)) rfl
  exact ⟨by simpa [row, Backfill.PlaintextColumn.enc] using hname,
    by simpa [row, Backfill.PlaintextColumn.enc, Backfill.PlaintextColumn.idx] using hgstin⟩

theorem VendorRecord.encrypted_of_filled {v : VendorRecord}
    (h : Backfill.Filled Backfill.vendors v.row) : v.Encrypted := by
  have hname := (h _ (.head _) rfl).1
  have hgstin := h _ (.tail _ (.head _)) rfl
  exact ⟨by simpa [row, Backfill.PlaintextColumn.enc] using hname,
    by simpa [row, Backfill.PlaintextColumn.enc, Backfill.PlaintextColumn.idx] using hgstin⟩

theorem LoanApplicationRecord.encrypted_of_filled {la : LoanApplicationRecord}
    (h : Backfill.Filled Backfill.loanApplications la.row) : la.Encrypted := by
  have hvendor := h _ (.head _) rfl
  have hanchor := h _ (.tail _ (.head _)) rfl
  exact ⟨by simpa [row, Backfill.PlaintextColumn.enc] using hvendor.1,
    by simpa [row, Backfill.PlaintextColumn.enc] using hanchor.1,
    by simpa [row, Backfill.PlaintextColumn.idx] using hvendor.2,
    by simpa [row, Backfill.PlaintextColumn.idx] using hanchor.2⟩

theorem upgradable_iff {addsUnique : Bool} {anchors : Anchors} {db : Database} :
    Upgradable addsUnique anchors db ↔
      ((∀ a ∈ anchors.rows, a.Encrypted) ∧
        anchors.rows.Pairwise fun a a' => a.gstinIdx ≠ a'.gstinIdx) ∧
      (db.vendors.rows.Pairwise fun v v' => v.gstinIdx ≠ v'.gstinIdx) ∧ db.Encrypted := by
  have htext : ∀ s s' : Option String, s.map Cell.text ≠ s'.map Cell.text ↔ s ≠ s' := by
    intro s s'
    rw [Ne, (Option.map_injective fun _ _ h => Cell.text.inj h).eq_iff]
  have hdb : db.Encrypted ↔ (∀ v ∈ db.vendors.rows, v.Encrypted) ∧
      ∀ la ∈ db.loanApplications.rows, la.Encrypted := ⟨fun h => ⟨h.1, h.2⟩, fun h => ⟨h.1, h.2⟩⟩
  rw [Upgradable, Migrations.upgrade004_ok_iff, hdb]
  simp only [Migrations.NoNulls, Migrations.DistinctIndexes, Migrations.tables,
    Migrations.madeNotNull, List.forall_mem_cons, List.not_mem_nil, false_imp_iff, implies_true,
    tableRows, List.forall_mem_map, List.pairwise_map, AnchorRecord.row, VendorRecord.row,
    LoanApplicationRecord.row, Option.isSome_map, htext, AnchorRecord.Encrypted,
    VendorRecord.Encrypted, LoanApplicationRecord.Encrypted, forall₂_and, and_true]
  tauto

end OcenPlatform.Db

namespace OcenPlatform.Gateway

open Db
open Db.PlatformDataSource (erase hasLegalHold)

/-! ## The operations of the application -/

inductive ApplicationOp where
  | initiateApplication (request : LoanApplicationRequest) (appId : Uuid) (now : Time)
  | updateGate (applicationId : Uuid) (gate status : String) (extra : Extra) (changed : Bool)
      (now : Time)
  | erase (dataPrincipalId : String) (now : Time)
  | enforceLoanApplications (retentionDays : Int) (now : Time)
  | enforceVendors (retentionDays : Int) (now : Time)

def applied (driver : Driver) (db : Database) : ApplicationOp → Database
  | .initiateApplication request appId now =>
    committed db (AsyncDBGatewayService.initiateApplication db request appId now)
  | .updateGate applicationId gate status extra changed now =>
    committed db (((), ·) <$> AsyncDBGatewayService.updateGate driver db applicationId gate status
      extra changed now)
  | .erase dataPrincipalId now => committed db (erase db dataPrincipalId now)
  | .enforceLoanApplications retentionDays now =>
    committed db (LoanApplicationRetentionHandler.enforce db retentionDays now)
  | .enforceVendors retentionDays now =>
    committed db (VendorContactRetentionHandler.enforce db retentionDays now)

/-- The request stands for no row yet, and the table takes its own. -/
def AddsRow (db : Database) (request : LoanApplicationRequest) (appId : Uuid) (now : Time) : Prop :=
  AsyncDBGatewayService.existing? db request = .ok none ∧
    ∃ record, AsyncDBGatewayService.newRecord request appId now = .ok record ∧
      LoanApplicationsValid (db.loanApplications.rows ++ [record])

/-- The operation adds no loan application and pseudonymizes no row: it finds none, or it is
refused as a whole. -/
def Harmless (db : Database) : ApplicationOp → Prop
  | .initiateApplication request appId now => ¬ AddsRow db request appId now
  | .updateGate .. => True
  | .erase dataPrincipalId now => hasLegalHold db dataPrincipalId now = true ∨
      Reonboarded db.vendors.rows dataPrincipalId ∨
      (∀ v ∈ db.vendors.rows, v.gstin ≠ dataPrincipalId) ∧
        ∀ la ∈ db.loanApplications.rows, la.vendorGstin ≠ dataPrincipalId
  | .enforceLoanApplications retentionDays now => ∀ la ∈ db.loanApplications.rows,
      LoanApplicationRetentionHandler.selects (now - days retentionDays) la = false
  | .enforceVendors retentionDays now =>
      (∀ v ∈ db.vendors.rows, VendorContactRetentionHandler.rewrites (now - days retentionDays)
        db.loanApplications.rows v = false) ∨
      ¬ VendorsValid (VendorContactRetentionHandler.rewritten (now - days retentionDays)
        db.loanApplications.rows db.vendors.rows)

/-! ## What they do to the encrypted columns -/

section Columns

variable {driver : Driver} {db db' : Database} {op : ApplicationOp}

/-- The columns that 004 makes NOT NULL. -/
def encryptedColumns (la : LoanApplicationRecord) :
    Option (List UInt8) × Option (List UInt8) × Option String × Option String :=
  (la.vendorGstinEnc, la.anchorGstinEnc, la.vendorGstinIdx, la.anchorGstinIdx)

/-- Nothing has changed as far as 004 is concerned. -/
structure SameColumns (db db' : Database) : Prop where
  vendors : db'.vendors.rows = db.vendors.rows
  loanApplications :
    db'.loanApplications.rows.map encryptedColumns = db.loanApplications.rows.map encryptedColumns

theorem SameColumns.refl : SameColumns db db := ⟨rfl, rfl⟩

theorem SameColumns.encrypted_iff (h : SameColumns db db') : db'.Encrypted ↔ db.Encrypted := by
  have hloans : ∀ rows : List LoanApplicationRecord, (∀ la ∈ rows, la.Encrypted) ↔
      ∀ c ∈ rows.map encryptedColumns,
        c.1.isSome = true ∧ c.2.1.isSome = true ∧ c.2.2.1.isSome = true ∧ c.2.2.2.isSome = true := by
    intro rows
    rw [List.forall_mem_map]
    rfl
  constructor
  · rintro ⟨hvendors, hla⟩
    refine ⟨h.vendors ▸ hvendors, ?_⟩
    rwa [hloans, ← h.loanApplications, ← hloans]
  · rintro ⟨hvendors, hla⟩
    refine ⟨h.vendors ▸ hvendors, ?_⟩
    rwa [hloans, h.loanApplications, ← hloans]

theorem mem_updateWhere_self {ρ : Type} {p : ρ → Bool} {f : ρ → ρ} {rows : List ρ} {r : ρ}
    (hr : r ∈ rows) (hp : p r = true) : f r ∈ updateWhere p f rows :=
  mem_updateWhere.mpr ⟨r, hr, .inl ⟨hp, rfl⟩⟩

/-! ### `initiate_application` -/

/-- The row of a new application is one that the backfill may meet. -/
theorem row_newRecord {request : LoanApplicationRequest} {appId : Uuid} {now : Time}
    {record : LoanApplicationRecord}
    (h : AsyncDBGatewayService.newRecord request appId now = .ok record) :
    record.row = Backfill.newRow appId record.vendorGstin record.anchorGstin := by
  obtain ⟨vendorGstin, anchorGstin, amount, key, rfl⟩ := AsyncDBGatewayService.newRecord_inv h
  unfold LoanApplicationRecord.row Backfill.newRow
  congr 1
  funext c
  split <;> simp_all [AsyncDBGatewayService.freshRecord]

theorem newRecord_empty {request : LoanApplicationRequest} {appId : Uuid} {now : Time}
    {record : LoanApplicationRecord}
    (h : AsyncDBGatewayService.newRecord request appId now = .ok record) :
    ¬ record.Encrypted := by
  intro hencrypted
  have henc : (record.row.cells "vendor_gstin_enc").isSome = true := by
    simpa [LoanApplicationRecord.row] using hencrypted.1
  rw [row_newRecord h] at henc
  cases henc

/-- A call adds its row, or leaves the tables alone. -/
theorem initiateApplication_cases (db : Database) (request : LoanApplicationRequest) (appId : Uuid)
    (now : Time) :
    (AddsRow db request appId now ∧ ∃ record table, ¬ record.Encrypted ∧
      table.rows = db.loanApplications.rows ++ [record] ∧
      committed db (AsyncDBGatewayService.initiateApplication db request appId now) =
        { db with loanApplications := table }) ∨
    (¬ AddsRow db request appId now ∧
      committed db (AsyncDBGatewayService.initiateApplication db request appId now) = db) := by
  cases hexisting : AsyncDBGatewayService.existing? db request with
  | error e =>
    refine .inr ⟨fun h => ?_, ?_⟩
    · cases hexisting.symm.trans h.1
    · simp only [AsyncDBGatewayService.initiateApplication, hexisting, bind, Except.bind, committed]
  | ok existing =>
    cases existing with
    | some existing =>
      refine .inr ⟨fun h => ?_, ?_⟩
      · cases hexisting.symm.trans h.1
      · simp only [AsyncDBGatewayService.initiateApplication, hexisting, bind, Except.bind, pure,
          Except.pure, committed]
    | none =>
      cases hrecord : AsyncDBGatewayService.newRecord request appId now with
      | error e =>
        refine .inr ⟨fun h => ?_, ?_⟩
        · obtain ⟨-, record, hok, -⟩ := h
          cases hrecord.symm.trans hok
        · simp only [AsyncDBGatewayService.initiateApplication, hexisting, hrecord, bind, Except.bind,
            committed]
      | ok record =>
        by_cases hvalid : LoanApplicationsValid (db.loanApplications.rows ++ [record])
        · obtain ⟨table, hwrite⟩ := write_of_valid hvalid
          refine .inl ⟨⟨hexisting, record, hrecord, hvalid⟩, record, table, newRecord_empty hrecord,
            write_ok.mp hwrite, ?_⟩
          simp only [AsyncDBGatewayService.initiateApplication, hexisting, hrecord, hwrite, bind,
            Except.bind, pure, Except.pure, committed]
        · refine .inr ⟨fun h => ?_, ?_⟩
          · obtain ⟨-, record', hok, hvalid'⟩ := h
            obtain rfl := Except.ok.inj (hrecord.symm.trans hok)
            exact hvalid hvalid'
          · simp only [AsyncDBGatewayService.initiateApplication, hexisting, hrecord,
              write_of_not_valid hvalid, bind, Except.bind, committed]

/-! ### `update_gate` -/

theorem sameColumns_updateGate (driver : Driver) (db : Database) (applicationId : Uuid)
    (gate status : String) (extra : Extra) (changed : Bool) (now : Time) :
    SameColumns db
      (applied driver db (.updateGate applicationId gate status extra changed now)) := by
  rw [applied]
  cases hcall : AsyncDBGatewayService.updateGate driver db applicationId gate status extra changed now with
  | error e => exact .refl
  | ok db' =>
    obtain ⟨record, record', hrow, hrecord, hrows⟩ := AsyncDBGatewayService.updateGate_ok hcall
    have hmem := AsyncDBGatewayService.rowOf_iff.mp hrow
    have hcolumns : encryptedColumns record' = encryptedColumns record := by
      obtain ⟨gate', status', amount, lender, offer, -, rfl⟩ :=
        AsyncDBGatewayService.updateRecord_inv hrecord
      rfl
    refine ⟨congrArg Table.rows (AsyncDBGatewayService.updateGate_vendors hcall), ?_⟩
    change db'.loanApplications.rows.map encryptedColumns = _
    rw [hrows]
    refine map_updateWhere fun la hla hid => ?_
    have hsame := AsyncDBGatewayService.rowOf_iff.mpr ⟨hla, of_decide_eq_true hid⟩
    rw [hmem.2] at hsame
    rw [Option.some.inj (hsame.symm.trans hrow)]
    exact hcolumns

/-! ### Erasure and retention -/

theorem not_encrypted_pseudonymize (value : String) (v : VendorRecord) :
    ¬ (v.pseudonymize value).Encrypted := fun h => Bool.noConfusion h.1

theorem not_encrypted_pseudonymizeVendor (value : String) (now : Time) (la : LoanApplicationRecord) :
    ¬ (la.pseudonymizeVendor value now).Encrypted := fun h => Bool.noConfusion h.1

theorem erase_cases (db : Database) (dataPrincipalId : String) (now : Time) :
    (Harmless db (.erase dataPrincipalId now) ∧ SameColumns db
      (committed db (erase db dataPrincipalId now))) ∨
    (¬ Harmless db (.erase dataPrincipalId now) ∧
      ¬ (committed db (erase db dataPrincipalId now)).Encrypted) := by
  rcases erase_outcomes db dataPrincipalId now with
    ⟨hhold, hcall⟩ | ⟨hhold, ⟨hagain, e, hcall⟩ | ⟨hagain, db', hcall, herased⟩⟩
  · rw [hcall]
    exact .inl ⟨.inl hhold, .refl⟩
  · rw [hcall]
    exact .inl ⟨.inr (.inl hagain), .refl⟩
  · rw [hcall, committed]
    by_cases hnone : (∀ v ∈ db.vendors.rows, v.gstin ≠ dataPrincipalId) ∧
        ∀ la ∈ db.loanApplications.rows, la.vendorGstin ≠ dataPrincipalId
    · refine .inl ⟨.inr (.inr hnone), ?_, ?_⟩
      · rw [herased.vendors]
        exact updateWhere_eq_self (List.filter_eq_nil_iff.mpr fun v hv => by simp [hnone.1 v hv])
      · rw [herased.loanApplications, updateWhere_eq_self]
        exact List.filter_eq_nil_iff.mpr fun la hla => by simp [hnone.2 la hla]
    · refine .inr ⟨?_, fun h => hnone ⟨fun v hv hgstin => ?_, fun la hla hgstin => ?_⟩⟩
      · rintro (hheld | hreonboarded | hempty)
        · rw [hhold] at hheld
          cases hheld
        · exact hagain hreonboarded
        · exact hnone hempty
      · refine not_encrypted_pseudonymize dataPrincipalId v (h.vendors _ ?_)
        rw [herased.vendors]
        exact mem_updateWhere_self hv (decide_eq_true hgstin)
      · refine not_encrypted_pseudonymizeVendor dataPrincipalId now la (h.loanApplications _ ?_)
        rw [herased.loanApplications]
        exact mem_updateWhere_self hla (decide_eq_true hgstin)

theorem enforceLoanApplications_cases (db : Database) (retentionDays : Int) (now : Time) :
    (Harmless db (.enforceLoanApplications retentionDays now) ∧ SameColumns db
      (committed db (LoanApplicationRetentionHandler.enforce db retentionDays now))) ∨
    (¬ Harmless db (.enforceLoanApplications retentionDays now) ∧
      ¬ (committed db (LoanApplicationRetentionHandler.enforce db retentionDays now)).Encrypted) := by
  obtain ⟨count, db', hcall, hvendors, -, hrows⟩ :=
    LoanApplicationRetentionHandler.enforce_ok db retentionDays now
  rw [hcall, committed]
  by_cases hnone : Harmless db (.enforceLoanApplications retentionDays now)
  · refine .inl ⟨hnone, congrArg Table.rows hvendors, ?_⟩
    rw [hrows, updateWhere_eq_self]
    exact List.filter_eq_nil_iff.mpr fun la hla => by simp [hnone la hla]
  · refine .inr ⟨hnone, fun h => hnone fun la hla => Bool.not_eq_true _ ▸ fun hselects => ?_⟩
    have hempty : ¬ (LoanApplicationRetentionHandler.pseudonymize now la).Encrypted :=
      fun h => Bool.noConfusion h.1
    refine hempty (h.loanApplications _ ?_)
    rw [hrows]
    exact mem_updateWhere_self hla hselects

theorem enforceVendors_cases (db : Database) (retentionDays : Int) (now : Time) :
    (Harmless db (.enforceVendors retentionDays now) ∧ SameColumns db
      (committed db (VendorContactRetentionHandler.enforce db retentionDays now))) ∨
    (¬ Harmless db (.enforceVendors retentionDays now) ∧
      ¬ (committed db (VendorContactRetentionHandler.enforce db retentionDays now)).Encrypted) := by
  rcases VendorContactRetentionHandler.enforce_cases db retentionDays now with
    ⟨count, db', hcall, hloans, hrows⟩ | ⟨⟨e, hcall⟩, hinvalid⟩
  · rw [hcall, committed]
    by_cases hnone : ∀ v ∈ db.vendors.rows, VendorContactRetentionHandler.rewrites
        (now - days retentionDays) db.loanApplications.rows v = false
    · refine .inl ⟨.inl hnone, ?_, congrArg (fun t => t.rows.map encryptedColumns) hloans⟩
      rw [hrows]
      exact updateWhere_eq_self (List.filter_eq_nil_iff.mpr fun v hv => by simp [hnone v hv])
    · refine .inr ⟨fun h => h.elim hnone fun hinvalid => hinvalid (hrows ▸ db'.vendors.valid),
        fun h => hnone fun v hv => Bool.not_eq_true _ ▸ fun hrewrites => ?_⟩
      refine not_encrypted_pseudonymize v.gstin v (h.vendors _ ?_)
      rw [hrows]
      exact mem_updateWhere_self hv hrewrites
  · rw [hcall]
    exact .inl ⟨.inr hinvalid, .refl⟩

/-- **What an operation can do.** -/
theorem applied_cases (driver : Driver) (db : Database) (op : ApplicationOp) :
    (Harmless db op ∧ SameColumns db (applied driver db op)) ∨
      (¬ Harmless db op ∧ ¬ (applied driver db op).Encrypted) := by
  cases op with
  | initiateApplication request appId now =>
    rw [applied]
    rcases initiateApplication_cases db request appId now with
      ⟨hadds, record, table, hempty, hrows, hcall⟩ | ⟨hnone, hcall⟩
    · refine .inr ⟨fun h => h hadds, fun h => hempty (h.loanApplications record ?_)⟩
      rw [hcall, hrows]
      exact List.mem_append_right _ (.head _)
    · rw [hcall]
      exact .inl ⟨hnone, .refl⟩
  | updateGate applicationId gate status extra changed now =>
    exact .inl ⟨trivial, sameColumns_updateGate ..⟩
  | erase dataPrincipalId now => exact erase_cases db dataPrincipalId now
  | enforceLoanApplications retentionDays now => exact enforceLoanApplications_cases ..
  | enforceVendors retentionDays now => exact enforceVendors_cases ..

end Columns

/-! ## Whole runs -/

theorem upgradable_applied (addsUnique : Bool) (anchors : Anchors) (driver : Driver) (db : Database)
    (op : ApplicationOp) :
    Upgradable addsUnique anchors (applied driver db op) ↔
      Upgradable addsUnique anchors db ∧ Harmless db op := by
  rw [upgradable_iff, upgradable_iff]
  rcases applied_cases driver db op with ⟨hharmless, hsame⟩ | ⟨hharmful, hempty⟩
  · rw [hsame.vendors, hsame.encrypted_iff, and_iff_left hharmless]
  · exact iff_of_false (fun h => hempty h.2.2) fun h => hharmful h.2

/-- No two different GSTINs have the same blind index. -/
def CollisionFree (env : Backfill.Environment) (fieldName : String) (gstins : List String) : Prop :=
  ∀ g ∈ gstins, ∀ g' ∈ gstins, Backfill.computeBlindIndex env g fieldName =
    Backfill.computeBlindIndex env g' fieldName → g = g'

/-- What a completed backfill leaves. -/
structure Backfilled (env : Backfill.Environment) (anchors : Anchors) (db : Database) : Prop where
  anchors : ∀ a ∈ anchors.rows, Backfill.Filled Backfill.anchors a.row ∧
    ∃ idx, Backfill.computeBlindIndex env a.gstin "anchor_gstin" = .ok idx ∧ a.gstinIdx = some idx
  vendors : ∀ v ∈ db.vendors.rows, Backfill.Filled Backfill.vendors v.row ∧
    ∃ idx, Backfill.computeBlindIndex env v.gstin "vendor_gstin" = .ok idx ∧ v.gstinIdx = some idx
  loanApplications : ∀ la ∈ db.loanApplications.rows, Backfill.Filled Backfill.loanApplications la.row

/-- Unique GSTINs have different indexes. -/
theorem pairwise_gstinIdx {ρ : Type} {rows : List ρ} {gstin : ρ → String} {gstinIdx : ρ → Option String}
    {env : Backfill.Environment} {fieldName : String} (hunique : (rows.map gstin).Nodup)
    (hfree : CollisionFree env fieldName (rows.map gstin))
    (hidx : ∀ r ∈ rows, ∃ idx, Backfill.computeBlindIndex env (gstin r) fieldName = .ok idx ∧
      gstinIdx r = some idx) : rows.Pairwise fun r r' => gstinIdx r ≠ gstinIdx r' := by
  refine (List.pairwise_map.mp hunique).imp_of_mem fun {r r'} hr hr' hne heq => hne ?_
  obtain ⟨idx, hcompute, hr₀⟩ := hidx r hr
  obtain ⟨idx', hcompute', hr₀'⟩ := hidx r' hr'
  obtain rfl := Option.some.inj (hr₀.symm.trans (heq.trans hr₀'))
  exact hfree _ (List.mem_map_of_mem hr) _ (List.mem_map_of_mem hr') (hcompute.trans hcompute'.symm)

theorem Backfilled.upgradable {env : Backfill.Environment} {anchors : Anchors} {db : Database}
    {addsUnique : Bool} (h : Backfilled env anchors db)
    (hanchors : CollisionFree env "anchor_gstin" (anchors.rows.map AnchorRecord.gstin))
    (hvendors : CollisionFree env "vendor_gstin" (db.vendors.rows.map VendorRecord.gstin)) :
    Upgradable addsUnique anchors db := by
  refine upgradable_iff.mpr ⟨⟨fun a ha => ?_, ?_⟩, ?_, fun v hv => ?_, fun la hla => ?_⟩
  · exact AnchorRecord.encrypted_of_filled (h.anchors a ha).1
  · exact pairwise_gstinIdx anchors.valid.2 hanchors fun a ha => (h.anchors a ha).2
  · exact pairwise_gstinIdx db.vendors.valid.2 hvendors fun v hv => (h.vendors v hv).2
  · exact VendorRecord.encrypted_of_filled (h.vendors v hv).1
  · exact LoanApplicationRecord.encrypted_of_filled (h.loanApplications la hla)

/-- After a completed backfill, 004 succeeds exactly if no operation since has added a loan
application or pseudonymized a row. -/
theorem upgradable_iff_harmless (driver : Driver) (addsUnique : Bool) (env : Backfill.Environment)
    (anchors : Anchors) (db : Database) (hbackfilled : Backfilled env anchors db)
    (hanchors : CollisionFree env "anchor_gstin" (anchors.rows.map AnchorRecord.gstin))
    (hvendors : CollisionFree env "vendor_gstin" (db.vendors.rows.map VendorRecord.gstin))
    (ops : List ApplicationOp) :
    Upgradable addsUnique anchors (ops.foldl (applied driver) db) ↔
      Durable.Guarded.Admitted (applied driver) Harmless db ops := by
  have hstep := upgradable_applied addsUnique anchors driver
  rw [Durable.Guarded.inv_foldl_iff hstep, and_iff_right (hbackfilled.upgradable hanchors hvendors)]

def noAnchors : Anchors := ⟨[], anchorsValid_nil⟩

/-- A vendor, with the columns that a backfill fills. -/
def backfilledVendor : VendorRecord where
  id := ⟨1⟩
  name := "Sample Traders"
  gstin := "29ABCDE1234F1Z5"
  onboardedAt := 0
  nameEnc := some [1]
  gstinEnc := some [2]
  gstinIdx := (Backfill.computeBlindIndex Backfill.plainEnvironment "29ABCDE1234F1Z5"
    "vendor_gstin").toOption

def backfilledDatabase : Database where
  vendors := ⟨[backfilledVendor], by decide⟩

theorem backfilled_backfilledDatabase :
    Backfilled Backfill.plainEnvironment noAnchors backfilledDatabase where
  anchors _ ha := absurd ha List.not_mem_nil
  vendors v hv := by
    obtain rfl := List.mem_singleton.mp hv
    obtain ⟨idx, hidx⟩ := Backfill.computeBlindIndex_plain "29ABCDE1234F1Z5" "vendor_gstin"
    refine ⟨by decide +kernel, idx, hidx, ?_⟩
    rw [backfilledVendor, hidx, Except.toOption]
  loanApplications _ hla := absurd hla List.not_mem_nil

theorem collisionFree_backfilledVendor : CollisionFree Backfill.plainEnvironment "vendor_gstin"
    (backfilledDatabase.vendors.rows.map VendorRecord.gstin) :=
  fun _ hg _ hg' _ => (List.mem_singleton.mp hg).trans (List.mem_singleton.mp hg').symm

/-- A status update, which finds no row, and the erasure of the vendor. -/
theorem upgradable_iff_harmless_erased :
    Upgradable true noAnchors ([.updateGate ⟨7⟩ "d6_disbursement" "disbursed" {} false 0,
        .erase "29ABCDE1234F1Z5" 1].foldl (applied sampleDriver) backfilledDatabase) ↔
      Durable.Guarded.Admitted (applied sampleDriver) Harmless backfilledDatabase
        [.updateGate ⟨7⟩ "d6_disbursement" "disbursed" {} false 0, .erase "29ABCDE1234F1Z5" 1] :=
  upgradable_iff_harmless sampleDriver true Backfill.plainEnvironment noAnchors backfilledDatabase
    backfilled_backfilledDatabase (fun _ h => absurd h List.not_mem_nil)
    collisionFree_backfilledVendor _

theorem addsRow_backfilledDatabase : AddsRow backfilledDatabase (keyedRequest "key-1") ⟨1⟩ 0 := by
  have hparameter : AsyncDBGatewayService.parameter "key-1" = .ok "key-1" := by decide +kernel
  have hvalid : LoanApplicationsValid [AsyncDBGatewayService.freshRecord (keyedRequest "key-1") ⟨1⟩ 0] := by
    decide +kernel
  refine ⟨?_, _, newRecord_eq keyedRequest_fits 0, hvalid⟩
  exact AsyncDBGatewayService.existing?_eq (by decide) hparameter

/-- One new loan application, and 004 fails. -/
theorem newApplication_not_upgradable :
    Backfilled Backfill.plainEnvironment noAnchors backfilledDatabase ∧
      Upgradable true noAnchors backfilledDatabase ∧
      ¬ Upgradable true noAnchors ([.initiateApplication (keyedRequest "key-1") ⟨1⟩ 0].foldl
        (applied sampleDriver) backfilledDatabase) := by
  refine ⟨backfilled_backfilledDatabase, backfilled_backfilledDatabase.upgradable
    (fun _ h => absurd h List.not_mem_nil) collisionFree_backfilledVendor, fun h => ?_⟩
  rw [List.foldl_cons, List.foldl_nil, upgradable_applied] at h
  exact h.2 addsRow_backfilledDatabase

end OcenPlatform.Gateway
