import OcenPlatform.Db.Commits
import OcenPlatform.Db.RetentionOrder
import OcenPlatform.Gateway.LegalHold
import OcenPlatform.Gateway.OpsView

/-! Vendors with open loans. Vendor retention looks for three statuses, and the gateway writes
others. -/

namespace OcenPlatform.Gateway

open Db
open Db.VendorContactRetentionHandler (enforce selects hasActiveLoan rewrites rewritten)

/-- The vendor has a loan application that is not closed, rejected or expired. -/
def HasOpenLoan (loanRows : List LoanApplicationRecord) (gstin : String) : Prop :=
  ∃ la ∈ loanRows, la.vendorGstin = gstin ∧ la.status ∉ terminal

instance (loanRows : List LoanApplicationRecord) (gstin : String) :
    Decidable (HasOpenLoan loanRows gstin) := inferInstanceAs (Decidable (∃ la ∈ loanRows, _))

/-- A vendor keeps its row exactly if a run does not rewrite it. -/
theorem mem_rewritten_iff {cutoff : Time} {loanRows : List LoanApplicationRecord}
    {vendors : Table VendorRecord VendorsValid} {v : VendorRecord} (hv : v ∈ vendors.rows) :
    v ∈ rewritten cutoff loanRows vendors.rows ↔ rewrites cutoff loanRows v = false := by
  constructor
  · intro hmem
    rcases mem_updateWhere.mp hmem with ⟨v₀, hv₀, ⟨hrewrites, hv'⟩ | ⟨hleft, rfl⟩⟩
    · have hid : v.id = v₀.id := by rw [hv', VendorRecord.pseudonymize]
      obtain rfl := List.inj_on_of_nodup_map vendors.valid.1 hv hv₀ hid
      simp only [rewrites, selects, Bool.and_eq_true, Bool.not_eq_true'] at hrewrites
      exact absurd (congrArg VendorRecord.gstin hv') (ne_vendorPseudonym hrewrites.1.2)
    · exact hleft
  · exact fun hleft => mem_updateWhere.mpr ⟨v, hv, .inr ⟨hleft, rfl⟩⟩

/-- **No vendor with an open loan is anonymized exactly if** each one that is past the cutoff has
a loan in one of the three statuses. -/
theorem keepsOpen_iff (db : Database) (retentionDays : Int) (now : Time) (count : Nat)
    (db' : Database) (hcommit : enforce db retentionDays now = .ok (count, db')) :
    (∀ v ∈ db.vendors.rows, HasOpenLoan db.loanApplications.rows v.gstin → v ∈ db'.vendors.rows) ↔
      ∀ v ∈ db.vendors.rows, selects (now - days retentionDays) v = true →
        HasOpenLoan db.loanApplications.rows v.gstin →
        hasActiveLoan db.loanApplications.rows v.gstin = true := by
  rw [(VendorContactRetentionHandler.enforce_vendors hcommit).2]
  refine forall₂_congr fun v hv => ?_
  rw [mem_rewritten_iff hv]
  unfold rewrites
  cases selects (now - days retentionDays) v <;>
    cases hasActiveLoan db.loanApplications.rows v.gstin <;> simp

/-! A vendor with a loan that is being repaid, and one with its first application. -/

def vendorDatabase : Database where
  vendors := ⟨[sampleVendor 1 "29ABCDE1234F1Z5"], by decide⟩

def repayingDatabase : Database where
  vendors := vendorDatabase.vendors
  loanApplications := ⟨[{ sampleLoan 1 "29ABCDE1234F1Z5" with status := "repaying" }], by decide⟩

theorem exists_commit (db : Database) (hvendors : db.vendors.rows = vendorDatabase.vendors.rows) :
    ∃ count db', enforce db 0 1 = .ok (count, db') := by
  apply VendorContactRetentionHandler.exists_enforce_ok <;> rw [hvendors]
  · decide +kernel
  · unfold Free
    decide +kernel

theorem keepsOpen_repaying : ∃ count db', enforce repayingDatabase 0 1 = .ok (count, db') ∧
    sampleVendor 1 "29ABCDE1234F1Z5" ∈ db'.vendors.rows := by
  obtain ⟨count, db', hcommit⟩ := exists_commit repayingDatabase rfl
  refine ⟨count, db', hcommit, ?_⟩
  exact (keepsOpen_iff _ 0 1 count db' hcommit).mpr (by decide +kernel) _ (.head _) (by decide +kernel)

def appliedDatabase : Database :=
  committed vendorDatabase
    (AsyncDBGatewayService.initiateApplication vendorDatabase sampleRequest ⟨1⟩ 0)

/-- The application is `initiated`, and its vendor is anonymized. -/
theorem appliedDatabase_anonymized :
    (∃ response, AsyncDBGatewayService.initiateApplication vendorDatabase sampleRequest ⟨1⟩ 0 =
      .ok (response, appliedDatabase)) ∧
    HasOpenLoan appliedDatabase.loanApplications.rows "29ABCDE1234F1Z5" ∧
    ∃ count db', enforce appliedDatabase 0 1 = .ok (count, db') ∧
      sampleVendor 1 "29ABCDE1234F1Z5" ∉ db'.vendors.rows := by
  have happlied : ∃ response, AsyncDBGatewayService.initiateApplication vendorDatabase sampleRequest
      ⟨1⟩ 0 = .ok (response, appliedDatabase) := by
    have hok : (AsyncDBGatewayService.initiateApplication vendorDatabase sampleRequest ⟨1⟩ 0).isOk := by
      decide +kernel
    unfold appliedDatabase
    cases hcall : AsyncDBGatewayService.initiateApplication vendorDatabase sampleRequest ⟨1⟩ 0 with
    | error e =>
      rw [hcall] at hok
      cases hok
    | ok result => exact ⟨result.1, rfl⟩
  obtain ⟨count, db', hcommit⟩ := exists_commit appliedDatabase (by decide +kernel)
  have hvendor : sampleVendor 1 "29ABCDE1234F1Z5" ∈ appliedDatabase.vendors.rows := by decide +kernel
  refine ⟨happlied, by decide +kernel, count, db', hcommit, fun hmem => ?_⟩
  rw [(VendorContactRetentionHandler.enforce_vendors hcommit).2, mem_rewritten_iff hvendor] at hmem
  revert hmem
  decide +kernel

end OcenPlatform.Gateway
