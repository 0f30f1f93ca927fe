import OcenPlatform.Db.RetentionHandlers

/-! A run of vendor retention as one update: its rounds commit if the update they amount to
breaks no constraint. -/

namespace OcenPlatform.Db

/-- No vendor carries the pseudonym of the GSTIN. -/
def Free (rows : List VendorRecord) (gstin : String) : Prop :=
  ∀ w ∈ rows, w.gstin ≠ vendorPseudonym gstin

/-- What is not pseudonymized differs from every pseudonym. -/
theorem ne_vendorPseudonym {gstin value : String} (h : isPseudonymized gstin = false) :
    gstin ≠ vendorPseudonym value := by
  rintro rfl
  rw [isPseudonymized_vendorPseudonym] at h
  cases h

/-- Pseudonymizing vendors, each by its value: the rows that are left alone have none of the
new pseudonyms. -/
theorem vendorsValid_updateWhere_iff {rows : List VendorRecord} (hrows : VendorsValid rows)
    {p : VendorRecord → Bool} {value : VendorRecord → String}
    (hone : ∀ v ∈ rows, ∀ w ∈ rows, p v = true → p w = true →
      vendorPseudonym (value v) = vendorPseudonym (value w) → v.gstin = w.gstin) :
    VendorsValid (updateWhere p (fun v => v.pseudonymize (value v)) rows) ↔
      ∀ v ∈ rows, p v = true → ∀ w ∈ rows, p w = false → w.gstin ≠ vendorPseudonym (value v) := by
  obtain ⟨hids, hgstins⟩ := hrows
  have hkeep : (updateWhere p (fun v => v.pseudonymize (value v)) rows).map VendorRecord.id =
      rows.map VendorRecord.id := map_updateWhere fun v _ _ => rfl
  unfold VendorsValid
  rw [hkeep, and_iff_right hids, nodup_updateWhere_iff hgstins hone]
  rfl

namespace VendorContactRetentionHandler

/-- A round of the loop commits if the pseudonym is free. -/
theorem vendorsValid_row_iff {vendors : Table VendorRecord VendorsValid} {row : VendorRecord}
    (hrow : row ∈ vendors.rows) (hnew : isPseudonymized row.gstin = false) :
    VendorsValid (updateWhere (fun v => v.id = row.id) (·.pseudonymize row.gstin) vendors.rows) ↔
      Free vendors.rows row.gstin := by
  have hinj := List.inj_on_of_nodup_map vendors.valid.1
  rw [vendorsValid_updateWhere_iff vendors.valid]
  · constructor
    · intro hfree w hw
      by_cases hid : w.id = row.id
      · rw [hinj hw hrow hid]
        exact ne_vendorPseudonym hnew
      · exact hfree row hrow (by simp) w hw (by simpa using hid)
    · exact fun hfree _ _ _ w hw _ => hfree w hw
  · intro v hv w hw hpv hpw _
    rw [hinj hv hw ((of_decide_eq_true hpv).trans (of_decide_eq_true hpw).symm)]

/-- The vendors of the loop without an active loan, all at once. -/
def batch (loanRows : List LoanApplicationRecord) (ids : List Uuid) (rows : List VendorRecord) :
    List VendorRecord :=
  updateWhere (fun v => decide (v.id ∈ ids) && !hasActiveLoan loanRows v.gstin)
    (fun v => v.pseudonymize v.gstin) rows

section Batch

variable {loanRows : List LoanApplicationRecord} {rows : List VendorRecord} {row : VendorRecord}
  {ids : List Uuid}

theorem batch_cons_active (hinj : ∀ v ∈ rows, v.id = row.id → v = row)
    (hactive : hasActiveLoan loanRows row.gstin = true) :
    batch loanRows (row.id :: ids) rows = batch loanRows ids rows := by
  refine updateWhere_congr fun v hv => ?_
  by_cases hid : v.id = row.id
  · rw [hinj v hv hid, hactive, Bool.not_true, Bool.and_false, Bool.and_false]
  · simp [hid]

theorem batch_cons_inactive (hinj : ∀ v ∈ rows, v.id = row.id → v = row) (hnew : row.id ∉ ids)
    (hactive : hasActiveLoan loanRows row.gstin = false) :
    batch loanRows (row.id :: ids) rows = batch loanRows ids
      (updateWhere (fun v => v.id = row.id) (·.pseudonymize row.gstin) rows) := by
  unfold batch updateWhere
  rw [List.map_map]
  refine List.map_congr_left fun v hv => ?_
  by_cases hid : v.id = row.id
  · obtain rfl := hinj v hv hid
    simp [hactive, VendorRecord.pseudonymize, hnew]
  · simp [hid]

/-- A round that breaks a constraint breaks it in the whole batch. -/
theorem vendorsValid_of_batch {vendors : Table VendorRecord VendorsValid} (hrow : row ∈ vendors.rows)
    (hpseudonyms : ∀ v ∈ vendors.rows, v.id ∈ row.id :: ids → isPseudonymized v.gstin = false)
    (hactive : hasActiveLoan loanRows row.gstin = false)
    (h : VendorsValid (batch loanRows (row.id :: ids) vendors.rows)) :
    VendorsValid (updateWhere (fun v => v.id = row.id) (·.pseudonymize row.gstin) vendors.rows) := by
  refine (vendorsValid_row_iff hrow (hpseudonyms row hrow (.head _))).mpr fun w hw heq => ?_
  -- A row with the pseudonym is not in the batch and keeps it.
  have hother : w.id ∉ row.id :: ids := fun hmem => ne_vendorPseudonym (hpseudonyms w hw hmem) heq
  have hgstins := h.2
  rw [batch, updateWhere, List.map_map] at hgstins
  have hsame := List.inj_on_of_nodup_map hgstins hw hrow (by
    simp only [Function.comp]
    rw [if_neg (by simp [hother]), if_pos (by simp [hactive])]
    exact heq)
  exact hother (hsame ▸ .head _)

/-- **Loop lemma.** -/
theorem anonymize_batch (loanRows : List LoanApplicationRecord)
    {vendors : Table VendorRecord VendorsValid} {todo : List VendorRecord}
    (hmem : ∀ v ∈ todo, v ∈ vendors.rows) (hnew : ∀ v ∈ todo, isPseudonymized v.gstin = false)
    (hnodup : (todo.map VendorRecord.id).Nodup) :
    (∃ count vendors', anonymize loanRows vendors todo = .ok (count, vendors') ∧
      vendors'.rows = batch loanRows (todo.map VendorRecord.id) vendors.rows) ∨
    ((∃ e, anonymize loanRows vendors todo = .error e) ∧
      ¬ VendorsValid (batch loanRows (todo.map VendorRecord.id) vendors.rows)) := by
  induction todo generalizing vendors with
  | nil =>
    refine .inl ⟨0, vendors, rfl, (updateWhere_eq_self ?_).symm⟩
    simp
  | cons row rows ih =>
    obtain ⟨hrow, hmem⟩ := List.forall_mem_cons.mp hmem
    obtain ⟨hid, hnodup⟩ := List.nodup_cons.mp hnodup
    have hinj : ∀ v ∈ vendors.rows, v.id = row.id → v = row := fun v hv heq =>
      List.inj_on_of_nodup_map vendors.valid.1 hv hrow heq
    have hpseudonyms : ∀ v ∈ vendors.rows, v.id ∈ (row :: rows).map VendorRecord.id →
        isPseudonymized v.gstin = false := by
      intro v hv hvid
      obtain ⟨w, hw, heq⟩ := List.mem_map.mp hvid
      have hwmem : w ∈ vendors.rows := (List.mem_cons.mp hw).elim (fun h => h ▸ hrow) (hmem w)
      exact List.inj_on_of_nodup_map vendors.valid.1 hwmem hv heq ▸ hnew w hw
    have hnew := (List.forall_mem_cons.mp hnew).2
    rw [List.map_cons] at hpseudonyms ⊢
    unfold anonymize
    cases hactive : hasActiveLoan loanRows row.gstin with
    | true =>
      rw [batch_cons_active hinj hactive]
      exact ih hmem hnew hnodup
    | false =>
      simp only [Bool.false_eq_true, if_false]
      by_cases hvalid : VendorsValid
          (updateWhere (fun v => v.id = row.id) (·.pseudonymize row.gstin) vendors.rows)
      · obtain ⟨vendors', hwrite⟩ := write_of_valid hvalid
        have hrows := write_ok.mp hwrite
        rw [hwrite, batch_cons_inactive hinj hid hactive, ← hrows]
        have hstays : ∀ v ∈ rows, v ∈ vendors'.rows := by
          intro v hv
          have hne : v.id ≠ row.id := fun heq => hid (List.mem_map.mpr ⟨v, hv, heq⟩)
          rw [hrows]
          exact mem_updateWhere.mpr ⟨v, hmem v hv, .inr ⟨decide_eq_false hne, rfl⟩⟩
        rcases ih hstays hnew hnodup with ⟨count, vendors'', hrest, hresult⟩ | ⟨⟨e, hrest⟩, hinvalid⟩
        · exact .inl ⟨count + 1, vendors'', by simp [hrest, bind, Except.bind, pure, Except.pure],
            hresult⟩
        · exact .inr ⟨⟨e, by simp [hrest, bind, Except.bind]⟩, hinvalid⟩
      · rw [write_of_not_valid hvalid]
        exact .inr ⟨⟨"IntegrityError", rfl⟩,
          fun h => hvalid (vendorsValid_of_batch hrow hpseudonyms hactive h)⟩

end Batch

/-- A vendor that a run rewrites. -/
def rewrites (cutoff : Time) (loanRows : List LoanApplicationRecord) (v : VendorRecord) : Bool :=
  selects cutoff v && !hasActiveLoan loanRows v.gstin

def rewritten (cutoff : Time) (loanRows : List LoanApplicationRecord) (rows : List VendorRecord) :
    List VendorRecord :=
  updateWhere (rewrites cutoff loanRows) (fun v => v.pseudonymize v.gstin) rows

/-- **What `enforce` can do.** It rewrites all of its vendors, or raises. -/
theorem enforce_cases (db : Database) (retentionDays : Int) (now : Time) :
    (∃ count db', enforce db retentionDays now = .ok (count, db') ∧
      db'.loanApplications = db.loanApplications ∧ db'.vendors.rows =
        rewritten (now - days retentionDays) db.loanApplications.rows db.vendors.rows) ∨
    ((∃ e, enforce db retentionDays now = .error e) ∧ ¬ VendorsValid
      (rewritten (now - days retentionDays) db.loanApplications.rows db.vendors.rows)) := by
  have hselected : ∀ v ∈ db.vendors.rows.filter (selects (now - days retentionDays)),
      v ∈ db.vendors.rows ∧ isPseudonymized v.gstin = false := by
    intro v hv
    obtain ⟨hmem, hselects⟩ := List.mem_filter.mp hv
    simp only [selects, Bool.and_eq_true, Bool.not_eq_true'] at hselects
    exact ⟨hmem, hselects.2⟩
  have hbatch : batch db.loanApplications.rows
      ((db.vendors.rows.filter (selects (now - days retentionDays))).map VendorRecord.id)
      db.vendors.rows =
        rewritten (now - days retentionDays) db.loanApplications.rows db.vendors.rows := by
    refine updateWhere_congr fun v hv => congrArg (· && _) ?_
    rw [Bool.eq_iff_iff, decide_eq_true_iff]
    constructor
    · intro hmem
      obtain ⟨w, hw, hid⟩ := List.mem_map.mp hmem
      obtain ⟨hwmem, hselects⟩ := List.mem_filter.mp hw
      exact List.inj_on_of_nodup_map db.vendors.valid.1 hwmem hv hid ▸ hselects
    · exact fun hselects => List.mem_map_of_mem (List.mem_filter.mpr ⟨hv, hselects⟩)
  have hloop := anonymize_batch db.loanApplications.rows (fun v hv => (hselected v hv).1)
    (fun v hv => (hselected v hv).2) (db.vendors.valid.1.sublist (List.filter_sublist.map _))
  rw [hbatch] at hloop
  unfold enforce
  rcases hloop with ⟨count, vendors, hresult, hrows⟩ | ⟨⟨e, herror⟩, hinvalid⟩
  · exact .inl ⟨count, { db with vendors }, by simp [hresult, bind, Except.bind, pure, Except.pure],
      rfl, hrows⟩
  · exact .inr ⟨⟨e, by simp [herror, bind, Except.bind]⟩, hinvalid⟩

end VendorContactRetentionHandler

end OcenPlatform.Db
