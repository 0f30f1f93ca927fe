import Mathlib.Logic.Relation
import OcenPlatform.Db.Erasure
import OcenPlatform.Db.VendorBatch

/-! Retention runs in any order and again: the two handlers commute, a second run finds nothing to
do, and with erasure they write one pseudonym for a GSTIN. -/

namespace OcenPlatform.Db

/-! ## The loan handler -/

namespace LoanApplicationRetentionHandler

variable {db db' : Database} {retentionDays : Int} {now : Time} {count : Nat}

theorem not_selects_pseudonymize (cutoff : Time) (la : LoanApplicationRecord) :
    selects cutoff (pseudonymize now la) = false := by
  simp [selects, pseudonymize, isPseudonymized_vendorPseudonym]

theorem enforce_of_none (h : db.loanApplications.rows.filter (selects (now - days retentionDays)) = []) :
    enforce db retentionDays now = .ok (0, db) := by
  unfold enforce
  rw [if_pos (by rw [List.countP_eq_length_filter, h]; rfl)]
  rfl

theorem enforce_count (h : enforce db retentionDays now = .ok (count, db')) :
    count = db.loanApplications.rows.countP (selects (now - days retentionDays)) := by
  unfold enforce at h
  by_cases hcount : db.loanApplications.rows.countP (selects (now - days retentionDays)) = 0
  · rw [if_pos hcount] at h
    obtain ⟨rfl, -⟩ := Prod.mk.inj (Except.ok.inj h)
    exact hcount.symm
  · rw [if_neg hcount] at h
    obtain ⟨loanApplications, -, h⟩ := exists_of_bind_ok h
    obtain ⟨rfl, -⟩ := Prod.mk.inj (Except.ok.inj h)
    rfl

/-- A run changes the loan applications only. -/
theorem enforce_loanApplications (h : enforce db retentionDays now = .ok (count, db')) :
    db' = { db with loanApplications := db'.loanApplications } ∧ db'.loanApplications.rows =
      updateWhere (selects (now - days retentionDays)) (pseudonymize now) db.loanApplications.rows := by
  obtain ⟨count', db'', hresult, hvendors, hconsents, hrows⟩ := enforce_ok db retentionDays now
  obtain ⟨-, rfl⟩ := Prod.mk.inj (Except.ok.inj (h.symm.trans hresult))
  refine ⟨?_, hrows⟩
  rw [← hvendors, ← hconsents]

/-- A second run finds nothing. -/
theorem enforce_again (h : enforce db retentionDays now = .ok (count, db')) :
    enforce db' retentionDays now = .ok (0, db') := by
  apply enforce_of_none
  rw [(enforce_loanApplications h).2]
  exact filter_updateWhere fun la _ _ => not_selects_pseudonymize _ la

/-- What the run rewrites is closed, so no vendor becomes active or inactive by it. -/
theorem hasActiveLoan_updateWhere (cutoff : Time) (rows : List LoanApplicationRecord)
    (gstin : String) :
    VendorContactRetentionHandler.hasActiveLoan (updateWhere (selects cutoff) (pseudonymize now) rows)
        gstin = VendorContactRetentionHandler.hasActiveLoan rows gstin := by
  have hclosed : ("closed" : String) ∉ VendorContactRetentionHandler.activeStatuses := by decide
  unfold VendorContactRetentionHandler.hasActiveLoan updateWhere
  rw [List.any_map]
  congr 1
  funext la
  simp only [Function.comp]
  split
  · rename_i hselects
    have hstatus : la.status = "closed" := by
      simp only [selects, Bool.and_eq_true, decide_eq_true_eq] at hselects
      exact hselects.1.1
    simp [pseudonymize, hstatus, hclosed]
  · rfl

end LoanApplicationRetentionHandler

/-! ## The vendor handler -/

namespace VendorContactRetentionHandler

variable {db db' : Database} {retentionDays : Int} {now : Time} {count : Nat}

theorem anonymize_congr {loanRows loanRows' : List LoanApplicationRecord}
    (hactive : ∀ gstin, hasActiveLoan loanRows' gstin = hasActiveLoan loanRows gstin)
    (vendors : Table VendorRecord VendorsValid) (todo : List VendorRecord) :
    anonymize loanRows' vendors todo = anonymize loanRows vendors todo := by
  induction todo generalizing vendors with
  | nil => rfl
  | cons row rows ih =>
    unfold anonymize
    simp only [hactive, ih]

/-- Vendors with active loans are skipped. -/
theorem anonymize_active {loanRows : List LoanApplicationRecord}
    (vendors : Table VendorRecord VendorsValid) {todo : List VendorRecord}
    (h : ∀ v ∈ todo, hasActiveLoan loanRows v.gstin = true) :
    anonymize loanRows vendors todo = .ok (0, vendors) := by
  induction todo with
  | nil => rfl
  | cons row rows ih =>
    obtain ⟨hrow, hrows⟩ := List.forall_mem_cons.mp h
    unfold anonymize
    rw [if_pos hrow]
    exact ih hrows

theorem enforce_eq (db : Database) (retentionDays : Int) (now : Time) :
    enforce db retentionDays now = do
      let r ← anonymize db.loanApplications.rows db.vendors
        (db.vendors.rows.filter (selects (now - days retentionDays)))
      return (r.1, { db with vendors := r.2 }) := rfl

/-- The loans matter to a run only for which vendors are active. -/
theorem enforce_congr (hvendors : db'.vendors = db.vendors)
    (hactive : ∀ gstin, hasActiveLoan db'.loanApplications.rows gstin =
      hasActiveLoan db.loanApplications.rows gstin)
    {vendors : Table VendorRecord VendorsValid}
    (h : enforce db retentionDays now = .ok (count, { db with vendors })) :
    enforce db' retentionDays now = .ok (count, { db' with vendors }) := by
  rw [enforce_eq] at h ⊢
  rw [hvendors, anonymize_congr hactive]
  obtain ⟨⟨count', vendors'⟩, hresult, h⟩ := exists_of_bind_ok h
  obtain ⟨rfl, hdb⟩ := Prod.mk.inj (Except.ok.inj h)
  have hsame : vendors' = vendors := congrArg Database.vendors hdb
  rw [hresult, hsame]
  rfl

/-- A run that commits changes the vendors only. -/
theorem enforce_vendors (h : enforce db retentionDays now = .ok (count, db')) :
    db' = { db with vendors := db'.vendors } ∧ db'.vendors.rows =
      rewritten (now - days retentionDays) db.loanApplications.rows db.vendors.rows := by
  rcases enforce_cases db retentionDays now with ⟨count', db'', hresult, -, hrows⟩ | ⟨⟨e, herror⟩, -⟩
  · obtain ⟨-, rfl⟩ := Prod.mk.inj (Except.ok.inj (h.symm.trans hresult))
    refine ⟨?_, hrows⟩
    rw [enforce_eq] at h
    obtain ⟨r, -, h⟩ := exists_of_bind_ok h
    obtain ⟨-, rfl⟩ := Prod.mk.inj (Except.ok.inj h)
    rfl
  · cases h.symm.trans herror

/-- A second run finds only vendors with active loans. -/
theorem enforce_again (h : enforce db retentionDays now = .ok (count, db')) {db'' : Database}
    (hvendors : db''.vendors = db'.vendors)
    (hactive : ∀ gstin, hasActiveLoan db''.loanApplications.rows gstin =
      hasActiveLoan db.loanApplications.rows gstin) :
    enforce db'' retentionDays now = .ok (0, db'') := by
  obtain ⟨-, hrows⟩ := enforce_vendors h
  rw [enforce_eq, anonymize_active]
  · rfl
  intro v hv
  obtain ⟨hmem, hselects⟩ := List.mem_filter.mp hv
  rw [hvendors, hrows] at hmem
  rw [hactive]
  rcases mem_updateWhere.mp hmem with ⟨v₀, -, ⟨-, rfl⟩ | ⟨hleft, rfl⟩⟩
  · simp [selects, VendorRecord.pseudonymize, isPseudonymized_vendorPseudonym] at hselects
  · simpa [rewrites, hselects] using hleft

/-- The run commits if no pseudonym is taken and different GSTINs have different ones. -/
theorem exists_enforce_ok (retentionDays : Int) (now : Time)
    (hhash : ∀ v ∈ db.vendors.rows, ∀ w ∈ db.vendors.rows,
      vendorPseudonym v.gstin = vendorPseudonym w.gstin → v.gstin = w.gstin)
    (hfree : ∀ v ∈ db.vendors.rows, isPseudonymized v.gstin = false → Free db.vendors.rows v.gstin) :
    ∃ count db', enforce db retentionDays now = .ok (count, db') := by
  rcases enforce_cases db retentionDays now with ⟨count, db', hresult, -⟩ | ⟨-, hinvalid⟩
  · exact ⟨count, db', hresult⟩
  · refine absurd ((vendorsValid_updateWhere_iff db.vendors.valid ?_).mpr ?_) hinvalid
    · exact fun v hv w hw _ _ => hhash v hv w hw
    · intro v hv hrewrites w hw _
      simp only [rewrites, selects, Bool.and_eq_true, Bool.not_eq_true'] at hrewrites
      exact hfree v hv hrewrites.1.2 w hw

end VendorContactRetentionHandler

/-! ## One pseudonym for a GSTIN -/

/-- The GSTIN as it was, or its pseudonym. -/
def HashedOnce (gstin gstin' : String) : Prop :=
  gstin' = gstin ∨ isPseudonymized gstin = false ∧ gstin' = vendorPseudonym gstin

/-- Row by row, what was rewritten got the pseudonym of what was there first. -/
structure Traces (db db' : Database) : Prop where
  loanApplications : List.Forall₂
    (fun la la' => la'.id = la.id ∧ HashedOnce la.vendorGstin la'.vendorGstin)
    db.loanApplications.rows db'.loanApplications.rows
  vendors : List.Forall₂ (fun v v' => v'.id = v.id ∧ HashedOnce v.gstin v'.gstin)
    db.vendors.rows db'.vendors.rows

/-- A loan application that carried a vendor's GSTIN still does, when both are pseudonymized and
when both are not. -/
def Joins (db db' : Database) : Prop :=
  ∀ v ∈ db.vendors.rows, ∀ la ∈ db.loanApplications.rows, la.vendorGstin = v.gstin →
    ∀ v' ∈ db'.vendors.rows, v'.id = v.id → ∀ la' ∈ db'.loanApplications.rows, la'.id = la.id →
      isPseudonymized la'.vendorGstin = isPseudonymized v'.gstin → la'.vendorGstin = v'.gstin

/-- A run of a handler, or the erasure of a principal whose GSTIN is no pseudonym. -/
inductive Pass (db db' : Database) : Prop where
  | loanApplications {retentionDays : Int} {now : Time} {count : Nat}
      (h : LoanApplicationRetentionHandler.enforce db retentionDays now = .ok (count, db'))
  | vendors {retentionDays : Int} {now : Time} {count : Nat}
      (h : VendorContactRetentionHandler.enforce db retentionDays now = .ok (count, db'))
  | erase {gstin : String} {now : Time} {result : PlatformDataSource.ErasureResult}
      (hgstin : isPseudonymized gstin = false)
      (h : PlatformDataSource.erase db gstin now = .ok (result, db'))

section Traces

variable {db db' db'' : Database}

theorem HashedOnce.trans {gstin gstin' gstin'' : String} (h : HashedOnce gstin gstin')
    (h' : HashedOnce gstin' gstin'') : HashedOnce gstin gstin'' := by
  rcases h with rfl | ⟨hnew, rfl⟩
  · exact h'
  · rcases h' with rfl | ⟨hagain, -⟩
    · exact .inr ⟨hnew, rfl⟩
    · rw [isPseudonymized_vendorPseudonym] at hagain
      cases hagain

theorem forall₂_trans {ρ : Type} {R : ρ → ρ → Prop} (htrans : ∀ a b c, R a b → R b c → R a c)
    {as bs cs : List ρ} (h : List.Forall₂ R as bs) (h' : List.Forall₂ R bs cs) :
    List.Forall₂ R as cs := by
  induction h generalizing cs with
  | nil => exact h'
  | cons hab _ ih =>
    cases h' with
    | cons hbc hrest => exact .cons (htrans _ _ _ hab hbc) (ih hrest)

theorem Traces.refl (db : Database) : Traces db db :=
  ⟨List.forall₂_same.mpr fun _ _ => ⟨rfl, .inl rfl⟩, List.forall₂_same.mpr fun _ _ => ⟨rfl, .inl rfl⟩⟩

theorem Traces.trans (h : Traces db db') (h' : Traces db' db'') : Traces db db'' :=
  ⟨forall₂_trans (fun _ _ _ h h' => ⟨h'.1.trans h.1, h.2.trans h'.2⟩) h.loanApplications
    h'.loanApplications,
    forall₂_trans (fun _ _ _ h h' => ⟨h'.1.trans h.1, h.2.trans h'.2⟩) h.vendors h'.vendors⟩

/-- An update that gives plain GSTINs their pseudonyms. -/
theorem forall₂_hashedOnce {ρ : Type} {id : ρ → Uuid} {gstin : ρ → String} {p : ρ → Bool} {f : ρ → ρ}
    {rows : List ρ} (hf : ∀ r, p r = true → id (f r) = id r ∧ isPseudonymized (gstin r) = false ∧
      gstin (f r) = vendorPseudonym (gstin r)) :
    List.Forall₂ (fun r r' => id r' = id r ∧ HashedOnce (gstin r) (gstin r')) rows
      (updateWhere p f rows) := by
  refine (forall₂_updateWhere p f rows).imp fun r r' hr => ?_
  cases hp : p r with
  | true =>
    rw [if_pos hp] at hr
    obtain ⟨hid, hplain, hgstin⟩ := hf r hp
    exact hr ▸ ⟨hid, .inr ⟨hplain, hgstin⟩⟩
  | false =>
    rw [if_neg (by simp [hp])] at hr
    exact hr ▸ ⟨rfl, .inl rfl⟩

/-- **Step lemma.** -/
theorem Pass.traces (h : Pass db db') : Traces db db' := by
  cases h with
  | loanApplications h =>
    obtain ⟨hdb, hrows⟩ := LoanApplicationRetentionHandler.enforce_loanApplications h
    refine ⟨?_, ?_⟩
    · rw [hrows]
      refine forall₂_hashedOnce fun la hselects => ⟨rfl, ?_, rfl⟩
      simp only [LoanApplicationRetentionHandler.selects, Bool.and_eq_true, Bool.not_eq_true'] at hselects
      exact hselects.2
    · rw [hdb]
      exact (Traces.refl db).vendors
  | vendors h =>
    obtain ⟨hdb, hrows⟩ := VendorContactRetentionHandler.enforce_vendors h
    refine ⟨?_, ?_⟩
    · rw [hdb]
      exact (Traces.refl db).loanApplications
    · rw [hrows]
      refine forall₂_hashedOnce fun v hrewrites => ⟨rfl, ?_, rfl⟩
      simp only [VendorContactRetentionHandler.rewrites, VendorContactRetentionHandler.selects,
        Bool.and_eq_true, Bool.not_eq_true'] at hrewrites
      exact hrewrites.1.2
  | erase hgstin h =>
    rcases PlatformDataSource.erase_ok_iff.mp h with ⟨-, -, rfl⟩ | ⟨-, -, herased⟩
    · exact Traces.refl _
    · refine ⟨?_, ?_⟩
      · rw [herased.loanApplications]
        refine forall₂_hashedOnce fun la hla => ?_
        obtain rfl := of_decide_eq_true hla
        exact ⟨rfl, hgstin, rfl⟩
      · rw [herased.vendors]
        refine forall₂_hashedOnce fun v hv => ?_
        obtain rfl := of_decide_eq_true hv
        exact ⟨rfl, hgstin, rfl⟩

/-- **Run lemma.** -/
theorem traces_of_passes (h : Relation.ReflTransGen Pass db db') : Traces db db' := by
  induction h with
  | refl => exact Traces.refl db
  | tail _ hpass ih => exact ih.trans hpass.traces

theorem ids_of_forall₂ {ρ : Type} {id : ρ → Uuid} {R : ρ → ρ → Prop} {rows rows' : List ρ}
    (h : List.Forall₂ (fun r r' => id r' = id r ∧ R r r') rows rows') : rows'.map id = rows.map id := by
  induction h with
  | nil => rfl
  | cons hfirst _ ih => rw [List.map_cons, List.map_cons, hfirst.1, ih]

/-- Rows with unique ids are paired by their ids. -/
theorem forall₂_of_id {ρ : Type} {id : ρ → Uuid} {R : ρ → ρ → Prop} {rows rows' : List ρ}
    (h : List.Forall₂ (fun r r' => id r' = id r ∧ R r r') rows rows')
    (hnodup : (rows.map id).Nodup) {r r' : ρ} (hr : r ∈ rows) (hr' : r' ∈ rows') (hid : id r' = id r) :
    R r r' := by
  induction h with
  | nil => cases hr
  | cons hfirst hrest ih =>
    obtain ⟨hnew, hnodup⟩ := List.nodup_cons.mp hnodup
    rcases List.mem_cons.mp hr with rfl | hr <;> rcases List.mem_cons.mp hr' with rfl | hr'
    · exact hfirst.2
    · refine absurd ?_ hnew
      rw [← hid, ← ids_of_forall₂ hrest]
      exact List.mem_map_of_mem hr'
    · refine absurd ?_ hnew
      rw [← hfirst.1, hid]
      exact List.mem_map_of_mem hr
    · exact ih hnodup hr hr'

theorem Traces.joins (h : Traces db db') : Joins db db' := by
  intro v hv la hla hgstin v' hv' hid la' hla' hid' hboth
  have hvendor := forall₂_of_id h.vendors db.vendors.valid.1 hv hv' hid
  have hloan := forall₂_of_id h.loanApplications db.loanApplications.valid.1 hla hla' hid'
  rw [hgstin] at hloan
  rcases hvendor with hv | ⟨hplain, hv⟩ <;> rcases hloan with hla | ⟨hplain', hla⟩
  · rw [hv, hla]
  · rw [hv, hla, hplain', isPseudonymized_vendorPseudonym] at hboth
    cases hboth
  · rw [hv, hla, hplain, isPseudonymized_vendorPseudonym] at hboth
    cases hboth
  · rw [hv, hla]

end Traces

/-! ## Both handlers -/

/-- What the two handlers do to a database in either order, and again. -/
structure OrderFree (db : Database) (loanDays vendorDays : Int) (now : Time)
    (loanCount vendorCount : Nat) (db' : Database) : Prop where
  loansFirst : ∃ db₁,
    LoanApplicationRetentionHandler.enforce db loanDays now = .ok (loanCount, db₁) ∧
      LoanApplicationRetentionHandler.enforce db₁ loanDays now = .ok (0, db₁) ∧
      VendorContactRetentionHandler.enforce db₁ vendorDays now = .ok (vendorCount, db')
  vendorsFirst : ∃ db₁,
    VendorContactRetentionHandler.enforce db vendorDays now = .ok (vendorCount, db₁) ∧
      VendorContactRetentionHandler.enforce db₁ vendorDays now = .ok (0, db₁) ∧
      LoanApplicationRetentionHandler.enforce db₁ loanDays now = .ok (loanCount, db')
  loansAgain : LoanApplicationRetentionHandler.enforce db' loanDays now = .ok (0, db')
  vendorsAgain : VendorContactRetentionHandler.enforce db' vendorDays now = .ok (0, db')

/-- The handlers write different tables, and the loans that one of them rewrites make no vendor
active or inactive. -/
theorem exists_orderFree {db : Database} (loanDays vendorDays : Int) (now : Time)
    (hvendors : ∃ count db', VendorContactRetentionHandler.enforce db vendorDays now =
      .ok (count, db')) :
    ∃ loanCount vendorCount db', OrderFree db loanDays vendorDays now loanCount vendorCount db' := by
  obtain ⟨vendorCount, dbVendors, hvendors⟩ := hvendors
  obtain ⟨loanCount, dbLoans, hloans, -⟩ := LoanApplicationRetentionHandler.enforce_ok db loanDays now
  obtain ⟨loanCount', db', hloans', -⟩ :=
    LoanApplicationRetentionHandler.enforce_ok dbVendors loanDays now
  obtain ⟨hdbVendors, -⟩ := VendorContactRetentionHandler.enforce_vendors hvendors
  obtain ⟨hdbLoans, hrows⟩ := LoanApplicationRetentionHandler.enforce_loanApplications hloans
  obtain ⟨hdb', hrows'⟩ := LoanApplicationRetentionHandler.enforce_loanApplications hloans'
  have hcount : loanCount' = loanCount := by
    rw [LoanApplicationRetentionHandler.enforce_count hloans',
      LoanApplicationRetentionHandler.enforce_count hloans, hdbVendors]
  have hsameLoans : db'.loanApplications = dbLoans.loanApplications := by
    refine Table.ext ?_
    rw [hrows', hrows, hdbVendors]
  have hsame : db' = { dbLoans with vendors := dbVendors.vendors } := by
    rw [hdb', hdbVendors, hdbLoans, hsameLoans]
  have hactive : ∀ gstin, VendorContactRetentionHandler.hasActiveLoan dbLoans.loanApplications.rows
      gstin = VendorContactRetentionHandler.hasActiveLoan db.loanApplications.rows gstin := by
    rw [hrows]
    exact LoanApplicationRetentionHandler.hasActiveLoan_updateWhere _ _
  subst hcount
  refine ⟨loanCount', vendorCount, db', ⟨dbLoans, hloans, ?_, ?_⟩, ⟨dbVendors, hvendors, ?_, hloans'⟩,
    LoanApplicationRetentionHandler.enforce_again hloans', ?_⟩
  · exact LoanApplicationRetentionHandler.enforce_again hloans
  · rw [hsame]
    refine VendorContactRetentionHandler.enforce_congr ?_ hactive ?_
    · rw [hdbLoans]
    · rw [← hdbVendors]
      exact hvendors
  · refine VendorContactRetentionHandler.enforce_again hvendors rfl fun gstin => ?_
    rw [hdbVendors]
  · refine VendorContactRetentionHandler.enforce_again hvendors ?_ fun gstin => ?_
    · rw [hsame]
    · rw [hsameLoans]
      exact hactive gstin

/-- **Retention is order-free and repeatable**, and with erasure it gives a GSTIN one pseudonym. -/
theorem retention_orderFree (db : Database) (loanDays vendorDays : Int) (now : Time)
    (hhash : ∀ v ∈ db.vendors.rows, ∀ w ∈ db.vendors.rows,
      vendorPseudonym v.gstin = vendorPseudonym w.gstin → v.gstin = w.gstin)
    (hfree : ∀ v ∈ db.vendors.rows, isPseudonymized v.gstin = false → Free db.vendors.rows v.gstin) :
    (∃ loanCount vendorCount db',
      OrderFree db loanDays vendorDays now loanCount vendorCount db') ∧
    ∀ db', Relation.ReflTransGen Pass db db' → Traces db db' ∧ Joins db db' := by
  refine ⟨exists_orderFree loanDays vendorDays now
    (VendorContactRetentionHandler.exists_enforce_ok vendorDays now hhash hfree), fun db' hpasses => ?_⟩
  exact ⟨traces_of_passes hpasses, (traces_of_passes hpasses).joins⟩

/-- Two vendors without active loans, one of them with a closed loan. -/
def closedDatabase : Database where
  vendors := sampleDatabase.vendors
  loanApplications :=
    ⟨[{ sampleLoan 1 "29ABCDE1234F1Z5" with status := "closed" }, sampleLoan 2 "27AABCU9603R1ZM"],
      by decide⟩

theorem retention_orderFree_closed :
    ∃ loanCount vendorCount db', OrderFree closedDatabase 0 0 1 loanCount vendorCount db' :=
  (retention_orderFree closedDatabase 0 0 1 (by decide +kernel)
    (by unfold Free; decide +kernel)).1

end OcenPlatform.Db
