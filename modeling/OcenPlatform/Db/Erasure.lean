import OcenPlatform.Db.DataSource

/-! Erasure is complete and precise: nothing is left under the principal's id, and
nobody else's rows are touched. -/

namespace OcenPlatform.Db

open PlatformDataSource

/-- The encrypted and index columns of a vendor are null. -/
structure VendorRecord.Cleared (v : VendorRecord) : Prop where
  nameEnc : v.nameEnc = none
  gstinEnc : v.gstinEnc = none
  gstinIdx : v.gstinIdx = none
  udyamNumberEnc : v.udyamNumberEnc = none
  udyamNumberIdx : v.udyamNumberIdx = none

/-- Those of a loan application's vendor GSTIN. -/
structure LoanApplicationRecord.Cleared (la : LoanApplicationRecord) : Prop where
  vendorGstinEnc : la.vendorGstinEnc = none
  vendorGstinIdx : la.vendorGstinIdx = none

/-- Row by row, those of the principal are still there and cleared, and all others are
unchanged. -/
structure Precise (db : Database) (dataPrincipalId : String) (db' : Database) : Prop where
  vendors : List.Forall₂ (fun v v' => if v.gstin = dataPrincipalId then
    v'.id = v.id ∧ v'.Cleared else v' = v) db.vendors.rows db'.vendors.rows
  loanApplications : List.Forall₂ (fun la la' => if la.vendorGstin = dataPrincipalId then
    la'.id = la.id ∧ la'.Cleared else la' = la) db.loanApplications.rows db'.loanApplications.rows
  consents : List.Forall₂ (fun c c' => if c.dataPrincipalId = dataPrincipalId then
    c'.id = c.id else c' = c) db.consents.rows db'.consents.rows

section Erasure

variable {db db' : Database} {dataPrincipalId : String} {now : Time}

theorem PlatformDataSource.Erased.precise (h : Erased db dataPrincipalId now db') :
    Precise db dataPrincipalId db' where
  vendors := by
    rw [h.vendors]
    refine (forall₂_updateWhere _ _ _).imp fun v v' hv => ?_
    by_cases hgstin : v.gstin = dataPrincipalId
    · simp only [hgstin, decide_true, if_true] at hv ⊢
      rw [hv]
      exact ⟨rfl, ⟨rfl, rfl, rfl, rfl, rfl⟩⟩
    · simpa [hgstin] using hv
  loanApplications := by
    rw [h.loanApplications]
    refine (forall₂_updateWhere _ _ _).imp fun la la' hla => ?_
    by_cases hgstin : la.vendorGstin = dataPrincipalId
    · simp only [hgstin, decide_true, if_true] at hla ⊢
      rw [hla]
      exact ⟨rfl, ⟨rfl, rfl⟩⟩
    · simpa [hgstin] using hla
  consents := by
    rw [h.consents]
    refine (forall₂_updateWhere _ _ _).imp fun c c' hc => ?_
    by_cases hid : c.dataPrincipalId = dataPrincipalId
    · simp only [hid, decide_true, if_true] at hc ⊢
      rw [hc]
      rfl
    · simpa [hid] using hc

/-- What is rewritten is not found under the old id again. -/
theorem PlatformDataSource.Erased.collect (h : Erased db dataPrincipalId now db')
    (hvendor : dataPrincipalId ≠ vendorPseudonym dataPrincipalId)
    (hprincipal : dataPrincipalId ≠ principalPseudonym dataPrincipalId) :
    collect db' dataPrincipalId = .ok { vendor := none, loanApplications := [], consents := [] } := by
  have hvendors : db'.vendors.rows.filter (fun v => v.gstin = dataPrincipalId) = [] := by
    rw [h.vendors]
    exact filter_updateWhere fun v _ _ => decide_eq_false hvendor.symm
  have hloans : db'.loanApplications.rows.filter
      (fun la => la.vendorGstin = dataPrincipalId) = [] := by
    rw [h.loanApplications]
    exact filter_updateWhere fun la _ _ => decide_eq_false hvendor.symm
  have hconsents : db'.consents.rows.filter
      (fun c => c.dataPrincipalId = dataPrincipalId) = [] := by
    rw [h.consents]
    exact filter_updateWhere fun c _ _ => decide_eq_false hprincipal.symm
  unfold PlatformDataSource.collect
  rw [hvendors, hloans, hconsents]
  rfl

end Erasure

/-- An erasure that commits is complete and precise. -/
theorem erase_complete (db db' : Database) (dataPrincipalId : String) (now : Time)
    (result : ErasureResult) (hhold : hasLegalHold db dataPrincipalId now = false)
    (hcommit : erase db dataPrincipalId now = .ok (result, db'))
    (hvendor : dataPrincipalId ≠ vendorPseudonym dataPrincipalId)
    (hprincipal : dataPrincipalId ≠ principalPseudonym dataPrincipalId) :
    collect db' dataPrincipalId = .ok { vendor := none, loanApplications := [], consents := [] } ∧
      Precise db dataPrincipalId db' := by
  rcases erase_ok_iff.mp hcommit with ⟨hheld, -, -⟩ | ⟨-, -, herased⟩
  · rw [hhold] at hheld
    cases hheld
  · exact ⟨herased.collect hvendor hprincipal, herased.precise⟩

/-! Two vendors, each with a loan application and a consent. -/

def sampleVendor (n : Nat) (gstin : String) : VendorRecord where
  id := ⟨.ofNat 128 n⟩
  name := "Sample Traders"
  gstin := gstin
  udyamNumber := some "UDYAM-MH-00-0000001"
  onboardedAt := 0
  nameEnc := some [1]
  gstinEnc := some [2]
  gstinIdx := some "0a"

def sampleLoan (n : Nat) (gstin : String) : LoanApplicationRecord where
  id := ⟨.ofNat 128 n⟩
  invoiceId := ⟨0⟩
  vendorGstin := gstin
  anchorGstin := "27AAACT2727Q1ZW"
  amountRequested := 100000
  status := "rejected"
  createdAt := 0
  updatedAt := 0
  vendorGstinEnc := some [2]
  vendorGstinIdx := some "0a"

def sampleConsent (n : Nat) (gstin : String) : ConsentRecord where
  id := ⟨.ofNat 128 n⟩
  dataPrincipalId := gstin
  purpose := "loan_origination"
  granted := true

def sampleDatabase : Database where
  vendors := ⟨[sampleVendor 1 "29ABCDE1234F1Z5", sampleVendor 2 "27AABCU9603R1ZM"], by decide⟩
  loanApplications := ⟨[sampleLoan 1 "29ABCDE1234F1Z5", sampleLoan 2 "27AABCU9603R1ZM"], by decide⟩
  consents := ⟨[sampleConsent 1 "29ABCDE1234F1Z5", sampleConsent 2 "27AABCU9603R1ZM"], by decide⟩

theorem erase_complete_sample : ∃ db', erase sampleDatabase "29ABCDE1234F1Z5" 0 = .ok (done, db') ∧
    collect db' "29ABCDE1234F1Z5" = .ok { vendor := none, loanApplications := [], consents := [] } ∧
      Precise sampleDatabase "29ABCDE1234F1Z5" db' := by
  have hhold : hasLegalHold sampleDatabase "29ABCDE1234F1Z5" 0 = false := by decide +kernel
  obtain ⟨db', hcommit⟩ := (erase_commits_iff hhold).mpr (by decide +kernel)
  exact ⟨db', hcommit, erase_complete sampleDatabase db' "29ABCDE1234F1Z5" 0 done hhold hcommit
    (by decide +kernel) (by decide +kernel)⟩

end OcenPlatform.Db
