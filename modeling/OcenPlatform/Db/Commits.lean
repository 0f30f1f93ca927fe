import OcenPlatform.Db.Erasure
import OcenPlatform.Db.VendorBatch

/-! When erasure and vendor retention commit. A pseudonym is a function of the GSTIN and
lands in a unique column: it is free once, and not again after the GSTIN is onboarded anew. -/

namespace OcenPlatform.Db

/-- A vendor carries the GSTIN, and another one its pseudonym. -/
def Reonboarded (rows : List VendorRecord) (gstin : String) : Prop :=
  ∃ v ∈ rows, ∃ w ∈ rows, v.gstin = gstin ∧ w.gstin = vendorPseudonym gstin ∧ w.gstin ≠ v.gstin

instance (rows : List VendorRecord) (gstin : String) : Decidable (Reonboarded rows gstin) :=
  inferInstanceAs (Decidable (∃ v ∈ rows, ∃ w ∈ rows, _))

section Commits

variable {rows : List VendorRecord} {gstin : String}

theorem free_iff {v : VendorRecord} (hv : v ∈ rows) (hnew : isPseudonymized v.gstin = false) :
    Free rows v.gstin ↔ ¬ Reonboarded rows v.gstin := by
  constructor
  · rintro hfree ⟨-, -, w, hw, -, hpseudonym, -⟩
    exact hfree w hw hpseudonym
  · intro hnot w hw hpseudonym
    refine hnot ⟨v, hv, w, hw, rfl, hpseudonym, fun heq => ?_⟩
    exact ne_vendorPseudonym hnew (heq ▸ hpseudonym)

/-- The vendor row of an erasure finds its pseudonym free. -/
theorem vendorsValid_erase_iff (hrows : VendorsValid rows) :
    VendorsValid (updateWhere (fun v => v.gstin = gstin) (·.pseudonymize gstin) rows) ↔
      ¬ Reonboarded rows gstin := by
  rw [vendorsValid_updateWhere_iff hrows]
  · constructor
    · rintro hfree ⟨v, hv, w, hw, rfl, hpseudonym, hne⟩
      exact hfree v hv (by simp) w hw (by simpa using hne) hpseudonym
    · intro hnot v hv hpv w hw hpw hpseudonym
      obtain rfl := of_decide_eq_true hpv
      exact hnot ⟨v, hv, w, hw, rfl, hpseudonym, by simpa using hpw⟩
  · intro v _ w _ hpv hpw _
    rw [of_decide_eq_true hpv, of_decide_eq_true hpw]

end Commits

namespace VendorContactRetentionHandler

theorem enforce_commits_iff (db : Database) (retentionDays : Int) (now : Time)
    (hhash : ∀ v ∈ db.vendors.rows, ∀ w ∈ db.vendors.rows,
      vendorPseudonym v.gstin = vendorPseudonym w.gstin → v.gstin = w.gstin) :
    (∃ count db', enforce db retentionDays now = .ok (count, db')) ↔
      ∀ v ∈ db.vendors.rows, selects (now - days retentionDays) v = true →
        hasActiveLoan db.loanApplications.rows v.gstin = false →
        ¬ Reonboarded db.vendors.rows v.gstin := by
  have hnew : ∀ v, selects (now - days retentionDays) v = true → isPseudonymized v.gstin = false := by
    intro v hselects
    simp only [selects, Bool.and_eq_true, Bool.not_eq_true'] at hselects
    exact hselects.2
  have hrewrites : ∀ v, rewrites (now - days retentionDays) db.loanApplications.rows v = true ↔
      selects (now - days retentionDays) v = true ∧
        hasActiveLoan db.loanApplications.rows v.gstin = false := by
    intro v
    rw [rewrites, Bool.and_eq_true, Bool.not_eq_true']
  have hvalid : (∃ count db', enforce db retentionDays now = .ok (count, db')) ↔ VendorsValid
      (rewritten (now - days retentionDays) db.loanApplications.rows db.vendors.rows) := by
    rcases enforce_cases db retentionDays now with ⟨count, db', hcall, -, hrows⟩ | ⟨⟨e, hcall⟩, hinvalid⟩
    · exact iff_of_true ⟨count, db', hcall⟩ (hrows ▸ db'.vendors.valid)
    · refine iff_of_false ?_ hinvalid
      rintro ⟨count, db', hok⟩
      cases hcall.symm.trans hok
  rw [hvalid, rewritten,
    vendorsValid_updateWhere_iff db.vendors.valid fun v hv w hw _ _ => hhash v hv w hw]
  constructor
  · intro hfree v hv hselects hactive
    refine (free_iff hv (hnew v hselects)).mp fun w hw => ?_
    cases hw' : rewrites (now - days retentionDays) db.loanApplications.rows w with
    | true => exact ne_vendorPseudonym (hnew w ((hrewrites w).mp hw').1)
    | false => exact hfree v hv ((hrewrites v).mpr ⟨hselects, hactive⟩) w hw hw'
  · intro hnot v hv hv' w hw _
    obtain ⟨hselects, hactive⟩ := (hrewrites v).mp hv'
    exact (free_iff hv (hnew v hselects)).mpr (hnot v hv hselects hactive) w hw

end VendorContactRetentionHandler

open PlatformDataSource

/-- The three outcomes of an erasure. -/
theorem erase_outcomes (db : Database) (dataPrincipalId : String) (now : Time) :
    (hasLegalHold db dataPrincipalId now = true ∧ erase db dataPrincipalId now = .ok (skipped, db)) ∨
    hasLegalHold db dataPrincipalId now = false ∧
      ((Reonboarded db.vendors.rows dataPrincipalId ∧ ∃ e, erase db dataPrincipalId now = .error e) ∨
      (¬ Reonboarded db.vendors.rows dataPrincipalId ∧ ∃ db', erase db dataPrincipalId now =
        .ok (done, db') ∧ Erased db dataPrincipalId now db')) := by
  cases hhold : hasLegalHold db dataPrincipalId now with
  | true => exact .inl ⟨rfl, erase_ok_iff.mpr (.inl ⟨hhold, rfl, rfl⟩)⟩
  | false =>
    have hcommits := erase_commits_iff hhold
    rw [vendorsValid_erase_iff db.vendors.valid] at hcommits
    have herased : ∀ result db', erase db dataPrincipalId now = .ok (result, db') →
        result = done ∧ Erased db dataPrincipalId now db' := by
      intro result db' hcall
      rcases erase_ok_iff.mp hcall with ⟨hheld, -, -⟩ | ⟨-, hdone, herased⟩
      · rw [hhold] at hheld
        cases hheld
      · exact ⟨hdone, herased⟩
    refine .inr ⟨rfl, ?_⟩
    by_cases hagain : Reonboarded db.vendors.rows dataPrincipalId
    · refine .inl ⟨hagain, ?_⟩
      cases hcall : erase db dataPrincipalId now with
      | error e => exact ⟨e, rfl⟩
      | ok result =>
        obtain ⟨result, db'⟩ := result
        obtain ⟨rfl, -⟩ := herased result db' hcall
        exact absurd hagain (hcommits.mp ⟨db', hcall⟩)
    · obtain ⟨db', hcall⟩ := hcommits.mpr hagain
      exact .inr ⟨hagain, db', hcall, (herased done db' hcall).2⟩

/-- Erasure commits exactly if its vendor has not been onboarded again, vendor retention
exactly if no vendor of its batch has. -/
theorem commits_iff_not_reonboarded (db : Database) (now : Time)
    (hhash : ∀ v ∈ db.vendors.rows, ∀ w ∈ db.vendors.rows,
      vendorPseudonym v.gstin = vendorPseudonym w.gstin → v.gstin = w.gstin) :
    (∀ dataPrincipalId, hasLegalHold db dataPrincipalId now = false →
      ((∃ db', erase db dataPrincipalId now = .ok (done, db')) ↔
        ¬ Reonboarded db.vendors.rows dataPrincipalId)) ∧
    (∀ retentionDays,
      (∃ count db', VendorContactRetentionHandler.enforce db retentionDays now = .ok (count, db')) ↔
        ∀ v ∈ db.vendors.rows,
          VendorContactRetentionHandler.selects (now - days retentionDays) v = true →
          VendorContactRetentionHandler.hasActiveLoan db.loanApplications.rows v.gstin = false →
          ¬ Reonboarded db.vendors.rows v.gstin) := by
  constructor
  · intro dataPrincipalId hhold
    rw [erase_commits_iff hhold, vendorsValid_erase_iff db.vendors.valid]
  · intro retentionDays
    exact VendorContactRetentionHandler.enforce_commits_iff db retentionDays now hhash

/-- Both commit on the two vendors. -/
theorem commits_iff_not_reonboarded_sample :
    (∃ db', erase sampleDatabase "29ABCDE1234F1Z5" 1 = .ok (done, db')) ∧
      ∃ count db', VendorContactRetentionHandler.enforce sampleDatabase 0 1 = .ok (count, db') := by
  obtain ⟨herase, henforce⟩ := commits_iff_not_reonboarded sampleDatabase 1 (by decide +kernel)
  exact ⟨(herase _ (by decide +kernel)).mpr (by decide +kernel), (henforce 0).mpr (by decide +kernel)⟩

/-- A vendor that was erased and has been onboarded again, and another vendor. -/
def reonboardedDatabase : Database where
  vendors := ⟨[(sampleVendor 1 "29ABCDE1234F1Z5").pseudonymize "29ABCDE1234F1Z5",
    sampleVendor 2 "29ABCDE1234F1Z5", sampleVendor 3 "27AABCU9603R1ZM"], by decide +kernel⟩

/-- Neither commits, and the batch fails for the other vendor too. -/
theorem reonboardedDatabase_stuck :
    hasLegalHold reonboardedDatabase "29ABCDE1234F1Z5" 1 = false ∧
    (¬ ∃ db', erase reonboardedDatabase "29ABCDE1234F1Z5" 1 = .ok (done, db')) ∧
    ¬ ∃ count db', VendorContactRetentionHandler.enforce reonboardedDatabase 0 1 =
      .ok (count, db') := by
  have hhold : hasLegalHold reonboardedDatabase "29ABCDE1234F1Z5" 1 = false := by decide +kernel
  refine ⟨hhold, ?_, ?_⟩
  · rw [erase_commits_iff hhold]
    decide +kernel
  · rw [VendorContactRetentionHandler.enforce_commits_iff _ _ _ (by decide +kernel)]
    decide +kernel

end OcenPlatform.Db
