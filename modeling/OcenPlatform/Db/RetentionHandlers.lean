import OcenPlatform.Db.DataSource

/-! The retention handlers: what is past its retention period gets the pseudonyms that
erasure would give it. -/

namespace OcenPlatform.Db

/-! ## Loan applications -/

namespace LoanApplicationRetentionHandler

/-- Closed, not written since the cutoff and not pseudonymized yet. -/
def selects (cutoff : Time) (la : LoanApplicationRecord) : Bool :=
  la.status = "closed" && la.updatedAt < cutoff && !isPseudonymized la.vendorGstin

/-- The loop's body, and `updated_at` as the flush sets it. -/
def pseudonymize (now : Time) (la : LoanApplicationRecord) : LoanApplicationRecord :=
  { la with
    vendorGstin := vendorPseudonym la.vendorGstin
    vendorGstinEnc := none
    vendorGstinIdx := none
    anchorGstin := anchorPseudonym la.anchorGstin
    anchorGstinEnc := none
    anchorGstinIdx := none
    updatedAt := now }

def enforce (db : Database) (retentionDays : Int) (now : Time) : Except String (Nat × Database) := do
  let cutoff := now - days retentionDays
  let count := db.loanApplications.rows.countP (selects cutoff)
  if count = 0 then
    return (0, db)
  let loanApplications ← Table.write
    (updateWhere (selects cutoff) (pseudonymize now) db.loanApplications.rows)
  return (count, { db with loanApplications })

/-- **What `enforce` can do.** It always commits. -/
theorem enforce_ok (db : Database) (retentionDays : Int) (now : Time) :
    ∃ count db', enforce db retentionDays now = .ok (count, db') ∧
      db'.vendors = db.vendors ∧ db'.consents = db.consents ∧ db'.loanApplications.rows =
        updateWhere (selects (now - days retentionDays)) (pseudonymize now)
          db.loanApplications.rows := by
  unfold enforce
  by_cases hcount : db.loanApplications.rows.countP (selects (now - days retentionDays)) = 0
  · refine ⟨0, db, by rw [if_pos hcount]; rfl, rfl, rfl, (updateWhere_eq_self ?_).symm⟩
    rw [← List.length_eq_zero_iff, ← List.countP_eq_length_filter]
    exact hcount
  · have hvalid : LoanApplicationsValid (updateWhere (selects (now - days retentionDays))
        (pseudonymize now) db.loanApplications.rows) := by
      apply loanApplicationsValid_updateWhere db.loanApplications.valid
      · exact fun la _ _ => rfl
      · exact fun la _ _ => rfl
    obtain ⟨loanApplications, hwrite⟩ := write_of_valid hvalid
    refine ⟨db.loanApplications.rows.countP (selects (now - days retentionDays)),
      { db with loanApplications }, ?_, rfl, rfl, write_ok.mp hwrite⟩
    rw [if_neg hcount, hwrite]
    rfl

end LoanApplicationRetentionHandler

/-! ## Vendors -/

namespace VendorContactRetentionHandler

def activeStatuses : List String := ["created", "disbursed", "repaying"]

def hasActiveLoan (loanRows : List LoanApplicationRecord) (gstin : String) : Bool :=
  loanRows.any fun la => la.vendorGstin = gstin && la.status ∈ activeStatuses

/-- Onboarded before the cutoff and not pseudonymized yet. -/
def selects (cutoff : Time) (v : VendorRecord) : Bool :=
  v.onboardedAt < cutoff && !isPseudonymized v.gstin

/-- The loop over the selected rows. Each rewritten row is flushed before the next query,
or at the commit. -/
def anonymize (loanRows : List LoanApplicationRecord) (vendors : Table VendorRecord VendorsValid) :
    List VendorRecord → Except String (Nat × Table VendorRecord VendorsValid)
  | [] => .ok (0, vendors)
  | row :: rows =>
    if hasActiveLoan loanRows row.gstin then anonymize loanRows vendors rows
    else do
      let vendors ← Table.write (updateWhere (fun v => v.id = row.id)
        (·.pseudonymize row.gstin) vendors.rows)
      let (count, vendors) ← anonymize loanRows vendors rows
      return (count + 1, vendors)

def enforce (db : Database) (retentionDays : Int) (now : Time) : Except String (Nat × Database) := do
  let cutoff := now - days retentionDays
  let (count, vendors) ← anonymize db.loanApplications.rows db.vendors
    (db.vendors.rows.filter (selects cutoff))
  return (count, { db with vendors })

end VendorContactRetentionHandler

end OcenPlatform.Db
