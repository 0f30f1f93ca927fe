import OcenPlatform.Db.Models
import OcenPlatform.Encoding.Hashlib

/-! `PlatformDataSource`: access to and erasure of what the platform holds about a data
principal. Erasure rewrites identifiers to pseudonyms and deletes nothing. -/

namespace OcenPlatform.Db

/-! ## Pseudonyms -/

/-- `s[:n]`. -/
def upTo (n : Nat) (s : String) : String := String.ofList (s.toList.take n)

/-- `_pseudonymize_token`. -/
def pseudonymizeToken (value : String) : String := Hashlib.sha256Hex (Hashlib.encode value)

def pseudonym (tag : String) (n : Nat) (value : String) : String :=
  tag ++ upTo n (pseudonymizeToken value)

def vendorName : String → String := pseudonym "Vendor-" 8

def vendorPseudonym : String → String := pseudonym "V-" 13

def anchorPseudonym : String → String := pseudonym "A-" 13

def principalPseudonym : String → String := pseudonym "P-" 12

theorem toList_pseudonym (tag : String) (n : Nat) (value : String) :
    (pseudonym tag n value).toList = tag.toList ++ (pseudonymizeToken value).toList.take n := by
  simp [pseudonym, upTo]

/-- `not_like("V-%")` leaves these out. -/
def isPseudonymized (gstin : String) : Bool := "V-".toList.isPrefixOf gstin.toList

theorem isPseudonymized_vendorPseudonym (value : String) :
    isPseudonymized (vendorPseudonym value) = true := by
  rw [isPseudonymized, vendorPseudonym, toList_pseudonym, List.isPrefixOf_iff_prefix]
  exact List.prefix_append _ _

/-! ## Rewritten rows -/

def VendorRecord.pseudonymize (value : String) (row : VendorRecord) : VendorRecord :=
  { row with
    name := vendorName value
    gstin := vendorPseudonym value
    udyamNumber := none
    nameEnc := none
    gstinEnc := none
    gstinIdx := none
    udyamNumberEnc := none
    udyamNumberIdx := none }

def LoanApplicationRecord.pseudonymizeVendor (value : String) (now : Time)
    (row : LoanApplicationRecord) : LoanApplicationRecord :=
  { row with
    vendorGstin := vendorPseudonym value
    vendorGstinEnc := none
    vendorGstinIdx := none
    updatedAt := now }

def ConsentRecord.pseudonymize (value : String) (row : ConsentRecord) : ConsentRecord :=
  { row with dataPrincipalId := principalPseudonym value }

namespace PlatformDataSource

/-! ## `collect` -/

structure VendorData where
  name : String
  gstin : String
  udyamNumber : Option String

/-- Numbers and times stand for their texts. -/
structure LoanApplicationData where
  id : String
  status : String
  amountRequested : Rat
  createdAt : Time

structure ConsentData where
  purpose : String
  granted : Bool
  grantedAt : Option Time

structure Collected where
  source : String := "ocen_platform_db"
  vendor : Option VendorData
  loanApplications : List LoanApplicationData
  consents : List ConsentData

def collect (db : Database) (dataPrincipalId : String) : Except String Collected := do
  let vendorRow ← scalarOneOrNone (db.vendors.rows.filter fun v => v.gstin = dataPrincipalId)
  let loanRows := db.loanApplications.rows.filter fun la => la.vendorGstin = dataPrincipalId
  let consentRows := db.consents.rows.filter fun c => c.dataPrincipalId = dataPrincipalId
  return {
    vendor := vendorRow.map fun v => ⟨v.name, v.gstin, v.udyamNumber⟩
    loanApplications := loanRows.map fun la =>
      ⟨la.id.str, la.status, la.amountRequested, la.createdAt⟩
    consents := consentRows.map fun c => ⟨c.purpose, c.granted, c.grantedAt⟩ }

/-! ## `erase` -/

def heldStatuses : List String := ["disbursed", "repaying", "closed"]

def hasLegalHold (db : Database) (dataPrincipalId : String) (now : Time) : Bool :=
  db.loanApplications.rows.any fun la => la.vendorGstin = dataPrincipalId &&
    la.status ∈ heldStatuses && now - days 2555 < la.createdAt

structure ErasureResult where
  source : String := "ocen_platform_db"
  erased : Bool
  skippedReason : Option String := none
  pseudonymizedFields : List String := []
  deriving DecidableEq

def skipped : ErasureResult :=
  { erased := false, skippedReason := some "legal_hold_active" }

def done : ErasureResult where
  erased := true
  pseudonymizedFields := ["name", "gstin", "udyam_number", "vendor_gstin"]

/-- The attributes of the vendor row, if there is one. -/
def eraseVendor (vendors : Table VendorRecord VendorsValid) (dataPrincipalId : String) :
    Except String (Table VendorRecord VendorsValid) := do
  match ← scalarOneOrNone (vendors.rows.filter fun v => v.gstin = dataPrincipalId) with
  | some row => Table.write (updateWhere (fun v => v.id = row.id)
      (·.pseudonymize dataPrincipalId) vendors.rows)
  | none => return vendors

/-- The vendor row, the two updates and the commit. -/
def erase (db : Database) (dataPrincipalId : String) (now : Time) :
    Except String (ErasureResult × Database) := do
  if hasLegalHold db dataPrincipalId now then
    return (skipped, db)
  let vendors ← eraseVendor db.vendors dataPrincipalId
  let loanApplications ← Table.write (updateWhere (fun la => la.vendorGstin = dataPrincipalId)
    (·.pseudonymizeVendor dataPrincipalId now) db.loanApplications.rows)
  let consents ← Table.write (updateWhere (fun c => c.dataPrincipalId = dataPrincipalId)
    (·.pseudonymize dataPrincipalId) db.consents.rows)
  return (done, { vendors, loanApplications, consents })

/-- What a committed erasure leaves in the tables. -/
structure Erased (db : Database) (dataPrincipalId : String) (now : Time) (db' : Database) : Prop where
  vendors : db'.vendors.rows = updateWhere (fun v => v.gstin = dataPrincipalId)
    (·.pseudonymize dataPrincipalId) db.vendors.rows
  loanApplications : db'.loanApplications.rows =
    updateWhere (fun la => la.vendorGstin = dataPrincipalId)
      (·.pseudonymizeVendor dataPrincipalId now) db.loanApplications.rows
  consents : db'.consents.rows = updateWhere (fun c => c.dataPrincipalId = dataPrincipalId)
    (·.pseudonymize dataPrincipalId) db.consents.rows

section Erase

variable {db db' : Database} {dataPrincipalId : String} {now : Time} {result : ErasureResult}

/-- The row that the lookup finds is the one with this GSTIN. -/
theorem eraseVendor_eq (vendors : Table VendorRecord VendorsValid) (dataPrincipalId : String) :
    eraseVendor vendors dataPrincipalId = Table.write
      (updateWhere (fun v => v.gstin = dataPrincipalId) (·.pseudonymize dataPrincipalId)
        vendors.rows) := by
  obtain ⟨hids, hgstins⟩ := vendors.valid
  unfold eraseVendor
  rw [scalarOneOrNone_filter hgstins]
  cases hfound : vendors.rows.find? fun v => v.gstin = dataPrincipalId with
  | none =>
    rw [updateWhere_eq_self]
    · exact (write_ok.mpr rfl).symm
    · exact List.filter_eq_nil_iff.mpr (List.find?_eq_none.mp hfound)
  | some row =>
    obtain ⟨hmem, hgstin⟩ := (find?_unique_iff hgstins).mp hfound
    refine congrArg Table.write (updateWhere_congr fun v hv => ?_)
    rw [decide_eq_decide, ← hgstin]
    constructor
    · exact fun h => congrArg VendorRecord.gstin (List.inj_on_of_nodup_map hids hv hmem h)
    · exact fun h => congrArg VendorRecord.id (List.inj_on_of_nodup_map hgstins hv hmem h)

section Commit

variable (db : Database) (dataPrincipalId : String) (now : Time)

/-- The two updates break no constraint. -/
theorem erase_loanApplications : LoanApplicationsValid
    (updateWhere (fun la => la.vendorGstin = dataPrincipalId)
      (·.pseudonymizeVendor dataPrincipalId now) db.loanApplications.rows) := by
  apply loanApplicationsValid_updateWhere db.loanApplications.valid
  · exact fun la _ _ => rfl
  · exact fun la _ _ => rfl

theorem erase_consents : ConsentsValid (updateWhere (fun c => c.dataPrincipalId = dataPrincipalId)
    (·.pseudonymize dataPrincipalId) db.consents.rows) := by
  apply consentsValid_updateWhere db.consents.valid
  exact fun c _ _ => rfl

end Commit

/-- **What `erase` can do.** -/
theorem erase_ok_iff : erase db dataPrincipalId now = .ok (result, db') ↔
    (hasLegalHold db dataPrincipalId now = true ∧ result = skipped ∧ db' = db) ∨
    (hasLegalHold db dataPrincipalId now = false ∧ result = done ∧
      Erased db dataPrincipalId now db') := by
  unfold erase
  cases hhold : hasLegalHold db dataPrincipalId now with
  | true => simp [pure, Except.pure, eq_comm]
  | false =>
    obtain ⟨loanApplications, hloans⟩ := write_of_valid (erase_loanApplications db dataPrincipalId now)
    obtain ⟨consents, hconsents⟩ := write_of_valid (erase_consents db dataPrincipalId)
    rw [eraseVendor_eq, hloans, hconsents]
    simp only [Bool.false_eq_true, if_false, false_and, true_and, false_or]
    constructor
    · intro h
      obtain ⟨vendors, hvendors, h⟩ := exists_of_bind_ok h
      obtain ⟨rfl, rfl⟩ := Prod.mk.inj (Except.ok.inj h)
      exact ⟨rfl, write_ok.mp hvendors, write_ok.mp hloans, write_ok.mp hconsents⟩
    · rintro ⟨rfl, herased⟩
      rw [write_ok.mpr herased.vendors]
      have hdb : ({ loanApplications, vendors := db'.vendors, consents } : Database) = db' := by
        obtain ⟨l, v, c⟩ := db'
        congr
        · exact Table.ext ((write_ok.mp hloans).trans herased.loanApplications.symm)
        · exact Table.ext ((write_ok.mp hconsents).trans herased.consents.symm)
      exact congrArg (fun d => Except.ok (done, d)) hdb

/-- Only the vendors table can refuse an erasure. -/
theorem erase_commits_iff (hhold : hasLegalHold db dataPrincipalId now = false) :
    (∃ db', erase db dataPrincipalId now = .ok (done, db')) ↔
      VendorsValid (updateWhere (fun v => v.gstin = dataPrincipalId)
        (·.pseudonymize dataPrincipalId) db.vendors.rows) := by
  constructor
  · rintro ⟨db', h⟩
    rcases erase_ok_iff.mp h with ⟨hheld, -, -⟩ | ⟨-, -, herased⟩
    · rw [hhold] at hheld
      cases hheld
    · rw [← herased.vendors]
      exact db'.vendors.valid
  · intro hvalid
    refine ⟨{
      loanApplications := ⟨_, erase_loanApplications db dataPrincipalId now⟩
      vendors := ⟨_, hvalid⟩
      consents := ⟨_, erase_consents db dataPrincipalId⟩ }, ?_⟩
    exact erase_ok_iff.mpr (.inr ⟨hhold, rfl, rfl, rfl, rfl⟩)

end Erase

end PlatformDataSource

end OcenPlatform.Db
