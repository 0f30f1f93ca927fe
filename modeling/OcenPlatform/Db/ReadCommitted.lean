import Mathlib.Logic.Function.Iterate
import OcenPlatform.Db.Erasure

/-! `collect` and `erase` under read committed: each statement sees what is committed by then, and
other transactions commit in between. -/

namespace OcenPlatform.Db

/-! ## Rows with a key -/

section Keys

variable {ρ κ : Type} [DecidableEq κ] {id : ρ → Uuid} {key : ρ → κ} {k : κ}

/-- The ids of the rows that have the key. -/
def idsWith (id : ρ → Uuid) (key : ρ → κ) (k : κ) (rows : List ρ) : List Uuid :=
  (rows.filter fun r => key r = k).map id

/-- No row is lost, and no row that was there takes the key. -/
structure NoneJoins (id : ρ → Uuid) (key : ρ → κ) (k : κ) (rows rows' : List ρ) : Prop where
  stay : ∀ r ∈ rows, ∃ r' ∈ rows', id r' = id r
  joins : ∀ r ∈ rows, ∀ r' ∈ rows', id r' = id r → key r' = k → key r = k

variable {rows rows' rows'' : List ρ}

theorem mem_idsWith {i : Uuid} : i ∈ idsWith id key k rows ↔ ∃ r ∈ rows, key r = k ∧ id r = i := by
  simp [idsWith, and_assoc]

theorem idsWith_of_scalarOneOrNone {row : Option ρ}
    (h : scalarOneOrNone (rows.filter fun r => key r = k) = .ok row) :
    (row.map id).toList = idsWith id key k rows := by
  unfold idsWith
  generalize rows.filter (fun r => key r = k) = found at h ⊢
  match found with
  | [] => cases h; rfl
  | [r] => cases h; rfl
  | _ :: _ :: _ => cases h

/-- By its id a row is found among those with the key. -/
theorem mem_idsWith_of_nodup (hrows : (rows.map id).Nodup) {r : ρ} (hr : r ∈ rows) :
    decide (id r ∈ idsWith id key k rows) = decide (key r = k) := by
  rw [decide_eq_decide, mem_idsWith]
  constructor
  · rintro ⟨s, hs, hk, hid⟩
    rwa [← List.inj_on_of_nodup_map hrows hs hr hid]
  · exact fun hk => ⟨r, hr, hk, rfl⟩

omit [DecidableEq κ] in
theorem NoneJoins.refl (hrows : (rows.map id).Nodup) : NoneJoins id key k rows rows where
  stay r hr := ⟨r, hr, rfl⟩
  joins r hr r' hr' hid hk := by
    rwa [← List.inj_on_of_nodup_map hrows hr' hr hid]

omit [DecidableEq κ] in
theorem NoneJoins.trans (h : NoneJoins id key k rows rows') (h' : NoneJoins id key k rows' rows'') :
    NoneJoins id key k rows rows'' where
  stay r hr := by
    obtain ⟨r', hr', hid⟩ := h.stay r hr
    obtain ⟨r'', hr'', hid'⟩ := h'.stay r' hr'
    exact ⟨r'', hr'', hid'.trans hid⟩
  joins r hr r'' hr'' hid hk := by
    obtain ⟨r', hr', hid'⟩ := h.stay r hr
    exact h.joins r hr r' hr' hid' (h'.joins r' hr' r'' hr'' (hid.trans hid'.symm) hk)

omit [DecidableEq κ] in
theorem NoneJoins.append (hrows : ((rows ++ rows').map id).Nodup) :
    NoneJoins id key k rows (rows ++ rows') where
  stay r hr := ⟨r, List.mem_append_left _ hr, rfl⟩
  joins r hr r' hr' hid hk := by
    rwa [← List.inj_on_of_nodup_map hrows hr' (List.mem_append_left _ hr) hid]

omit [DecidableEq κ] in
theorem NoneJoins.write {p : ρ → Bool} {f : ρ → ρ} (hrows : (rows.map id).Nodup)
    (hid : ∀ r ∈ rows, p r = true → id (f r) = id r)
    (hkey : ∀ r ∈ rows, p r = true → key (f r) = k → key r = k) :
    NoneJoins id key k rows (updateWhere p f rows) where
  stay r hr := by
    cases hp : p r with
    | true => exact ⟨f r, mem_updateWhere.mpr ⟨r, hr, .inl ⟨hp, rfl⟩⟩, hid r hr hp⟩
    | false => exact ⟨r, mem_updateWhere.mpr ⟨r, hr, .inr ⟨hp, rfl⟩⟩, rfl⟩
  joins r hr r' hr' heq hk := by
    rcases mem_updateWhere.mp hr' with ⟨s, hs, ⟨hp, rfl⟩ | ⟨-, rfl⟩⟩
    · rw [hid s hs hp] at heq
      obtain rfl := List.inj_on_of_nodup_map hrows hs hr heq
      exact hkey s hs hp hk
    · rwa [← List.inj_on_of_nodup_map hrows hs hr heq]

/-- Those that are rewritten by their ids have no longer the key, and no other row of then has. -/
theorem NoneJoins.rewritten {f : ρ → ρ} (h : NoneJoins id key k rows rows')
    (hkey : ∀ r, key (f r) ≠ k) {r : ρ}
    (hr : r ∈ updateWhere (fun r => id r ∈ idsWith id key k rows) f rows') (hk : key r = k) :
    ∀ r₀ ∈ rows, id r₀ ≠ id r := by
  intro r₀ hr₀ heq
  rcases mem_updateWhere.mp hr with ⟨s, hs, ⟨-, rfl⟩ | ⟨hnot, rfl⟩⟩
  · exact hkey s hk
  · have hbefore := h.joins r₀ hr₀ r hs heq.symm hk
    exact of_decide_eq_false hnot (mem_idsWith.mpr ⟨r₀, hr₀, hbefore, heq⟩)

variable (hsame : rows'.map id = rows.map id)
include hsame

omit [DecidableEq κ] in
/-- If no row is new and none has had the key, none has it. -/
theorem NoneJoins.none (h : NoneJoins id key k rows rows') (hnone : ∀ r ∈ rows, key r ≠ k) :
    ∀ r ∈ rows', key r ≠ k := by
  intro r' hr' hk
  have hmem : id r' ∈ rows.map id := hsame ▸ List.mem_map_of_mem hr'
  obtain ⟨r, hr, hid⟩ := List.mem_map.mp hmem
  exact hnone r hr (h.joins r hr r' hr' hid.symm hk)

theorem NoneJoins.rewritten_none {f : ρ → ρ} (h : NoneJoins id key k rows rows')
    (hid : ∀ r, id (f r) = id r) (hkey : ∀ r, key (f r) ≠ k) :
    ∀ r ∈ updateWhere (fun r => id r ∈ idsWith id key k rows) f rows', key r ≠ k := by
  intro r hr hk
  have hmem : id r ∈ rows.map id := by
    rw [← hsame, ← map_updateWhere (p := fun r => decide (id r ∈ idsWith id key k rows))
      fun r _ _ => hid r]
    exact List.mem_map_of_mem hr
  obtain ⟨r₀, hr₀, heq⟩ := List.mem_map.mp hmem
  exact h.rewritten hkey hr hk r₀ hr₀ heq

end Keys

namespace PlatformDataSource

/-! ## The statements of `collect` -/

/-- What a call does next, with what it has read. -/
inductive CollectPhase where
  | vendor
  | loanApplications (vendor : Option VendorData)
  | consents (vendor : Option VendorData) (loanApplications : List LoanApplicationData)
  | done (result : Except String Collected)

namespace CollectPhase

def vendorOf (db : Database) (dataPrincipalId : String) : Except String (Option VendorData) := do
  let vendorRow ← scalarOneOrNone (db.vendors.rows.filter fun v => v.gstin = dataPrincipalId)
  return vendorRow.map fun v => ⟨v.name, v.gstin, v.udyamNumber⟩

def loanApplicationsOf (db : Database) (dataPrincipalId : String) : List LoanApplicationData :=
  (db.loanApplications.rows.filter fun la => la.vendorGstin = dataPrincipalId).map fun la =>
    ⟨la.id.str, la.status, la.amountRequested, la.createdAt⟩

def consentsOf (db : Database) (dataPrincipalId : String) : List ConsentData :=
  (db.consents.rows.filter fun c => c.dataPrincipalId = dataPrincipalId).map fun c =>
    ⟨c.purpose, c.granted, c.grantedAt⟩

/-- A turn of the call. -/
def act (dataPrincipalId : String) : CollectPhase → Database → CollectPhase
  | .vendor, db =>
    match vendorOf db dataPrincipalId with
    | .error e => .done (.error e)
    | .ok found => .loanApplications found
  | .loanApplications found, db => .consents found (loanApplicationsOf db dataPrincipalId)
  | .consents found loans, db =>
    .done (.ok {
      vendor := found
      loanApplications := loans
      consents := consentsOf db dataPrincipalId })
  | .done result, _ => .done result

/-- Alone, the turns are the call. -/
theorem act_alone (dataPrincipalId : String) (db : Database) :
    Nat.iterate (act dataPrincipalId · db) 3 .vendor = .done (collect db dataPrincipalId) := by
  have hcollect : collect db dataPrincipalId = (do
      let found ← vendorOf db dataPrincipalId
      return {
        vendor := found
        loanApplications := loanApplicationsOf db dataPrincipalId
        consents := consentsOf db dataPrincipalId }) := by
    unfold collect vendorOf
    cases scalarOneOrNone (db.vendors.rows.filter fun v => v.gstin = dataPrincipalId) <;> rfl
  rw [hcollect]
  simp only [Function.iterate_succ, Function.iterate_zero, Function.comp_apply, id_eq, act]
  cases vendorOf db dataPrincipalId <;> rfl

/-- What is known of the tables that the turns of a call have found. -/
def Knows (dataPrincipalId : String) (seen : (Database → Prop) → Prop) : CollectPhase → Prop
  | .vendor => True
  | .loanApplications found => seen fun c => vendorOf c dataPrincipalId = .ok found
  | .consents found loans =>
    (seen fun c => vendorOf c dataPrincipalId = .ok found) ∧
    seen fun c => loans = loanApplicationsOf c dataPrincipalId
  | .done (.ok data) =>
    (seen fun c => vendorOf c dataPrincipalId = .ok data.vendor) ∧
    (seen fun c => data.loanApplications = loanApplicationsOf c dataPrincipalId) ∧
    seen fun c => data.consents = consentsOf c dataPrincipalId
  | .done (.error _) => True

variable {dataPrincipalId : String} {phase : CollectPhase} {db : Database}
  {seen seen' : (Database → Prop) → Prop}

theorem Knows.imp (h : phase.Knows dataPrincipalId seen) (hseen : ∀ P, seen P → seen' P) :
    phase.Knows dataPrincipalId seen' := by
  cases phase with
  | vendor => trivial
  | loanApplications found => exact hseen _ h
  | consents found loans => exact ⟨hseen _ h.1, hseen _ h.2⟩
  | done result =>
    cases result with
    | error e => trivial
    | ok data => exact ⟨hseen _ h.1, hseen _ h.2.1, hseen _ h.2.2⟩

theorem Knows.act (h : phase.Knows dataPrincipalId seen) (hseen : ∀ P, seen P → seen' P)
    (hnow : ∀ P : Database → Prop, P db → seen' P) :
    (phase.act dataPrincipalId db).Knows dataPrincipalId seen' := by
  cases phase with
  | vendor =>
    simp only [CollectPhase.act]
    split
    · trivial
    · rename_i found hfound
      exact hnow _ hfound
  | loanApplications found => exact ⟨hseen _ h, hnow _ rfl⟩
  | consents found loans => exact ⟨hseen _ h.1, hseen _ h.2, hnow _ rfl⟩
  | done result => exact h.imp hseen

end CollectPhase

/-! ## The statements of `erase` -/

/-- A call, with the time of its transaction. -/
structure EraseCall where
  dataPrincipalId : String
  now : Time

/-- What a call does next, with the ids of the rows that it has selected and locked. -/
inductive ErasePhase where
  | hold
  | vendor
  | loanApplications (vendor : Option Uuid)
  | consents (vendor : Option Uuid) (loanApplications : List Uuid)
  | commit (vendor : Option Uuid) (loanApplications consents : List Uuid)
  | done (result : Except String ErasureResult)

namespace EraseCall

/-- The tables with the rows that the transaction has written. -/
def commit (call : EraseCall) (db : Database) (vendor : Option Uuid)
    (loanIds consentIds : List Uuid) : Except String Database := do
  let vendors ← Table.write (updateWhere (fun v => some v.id = vendor)
    (·.pseudonymize call.dataPrincipalId) db.vendors.rows)
  let loanApplications ← Table.write (updateWhere (fun la => la.id ∈ loanIds)
    (·.pseudonymizeVendor call.dataPrincipalId call.now) db.loanApplications.rows)
  let consents ← Table.write (updateWhere (fun c => c.id ∈ consentIds)
    (·.pseudonymize call.dataPrincipalId) db.consents.rows)
  return { vendors, loanApplications, consents }

/-- A turn of the call. Its rows are locked, so that they are written at the commit as they were
selected, and the constraints are checked there. -/
def act (call : EraseCall) : ErasePhase → Database → ErasePhase × Database
  | .hold, db =>
    if hasLegalHold db call.dataPrincipalId call.now then (.done (.ok skipped), db) else (.vendor, db)
  | .vendor, db =>
    match scalarOneOrNone (db.vendors.rows.filter fun v => v.gstin = call.dataPrincipalId) with
    | .error e => (.done (.error e), db)
    | .ok row => (.loanApplications (row.map VendorRecord.id), db)
  | .loanApplications vendor, db =>
    (.consents vendor (idsWith LoanApplicationRecord.id LoanApplicationRecord.vendorGstin
      call.dataPrincipalId db.loanApplications.rows), db)
  | .consents vendor loanIds, db =>
    (.commit vendor loanIds (idsWith ConsentRecord.id ConsentRecord.dataPrincipalId
      call.dataPrincipalId db.consents.rows), db)
  | .commit vendor loanIds consentIds, db =>
    match call.commit db vendor loanIds consentIds with
    | .error e => (.done (.error e), db)
    | .ok db' => (.done (.ok PlatformDataSource.done), db')
  | .done result, db => (.done result, db)

section Alone

variable {call : EraseCall} {db : Database}

/-- What was selected by ids in the same state is what `erase` selects. -/
theorem erase_eq_commit (hhold : hasLegalHold db call.dataPrincipalId call.now = false) :
    erase db call.dataPrincipalId call.now = (fun db' => (PlatformDataSource.done, db')) <$>
      call.commit db ((db.vendors.rows.find? fun v => v.gstin = call.dataPrincipalId).map VendorRecord.id)
        (idsWith LoanApplicationRecord.id LoanApplicationRecord.vendorGstin call.dataPrincipalId
          db.loanApplications.rows)
        (idsWith ConsentRecord.id ConsentRecord.dataPrincipalId call.dataPrincipalId
          db.consents.rows) := by
  have hvendors : eraseVendor db.vendors call.dataPrincipalId =
      Table.write (updateWhere (fun v => some v.id =
        (db.vendors.rows.find? fun v => v.gstin = call.dataPrincipalId).map VendorRecord.id)
        (·.pseudonymize call.dataPrincipalId) db.vendors.rows) := by
    unfold eraseVendor
    rw [scalarOneOrNone_filter db.vendors.valid.2]
    cases db.vendors.rows.find? fun v => v.gstin = call.dataPrincipalId with
    | none =>
      rw [updateWhere_eq_self (List.filter_eq_nil_iff.mpr (by simp))]
      exact (write_ok.mpr rfl).symm
    | some row => simp [bind, Except.bind]
  have hloans : updateWhere (fun la => la.id ∈ idsWith LoanApplicationRecord.id
      LoanApplicationRecord.vendorGstin call.dataPrincipalId db.loanApplications.rows)
      (·.pseudonymizeVendor call.dataPrincipalId call.now) db.loanApplications.rows =
      updateWhere (fun la => la.vendorGstin = call.dataPrincipalId)
        (·.pseudonymizeVendor call.dataPrincipalId call.now) db.loanApplications.rows :=
    updateWhere_congr fun la hla => mem_idsWith_of_nodup db.loanApplications.valid.1 hla
  have hconsents : updateWhere (fun c => c.id ∈ idsWith ConsentRecord.id
      ConsentRecord.dataPrincipalId call.dataPrincipalId db.consents.rows)
      (·.pseudonymize call.dataPrincipalId) db.consents.rows =
      updateWhere (fun c => c.dataPrincipalId = call.dataPrincipalId)
        (·.pseudonymize call.dataPrincipalId) db.consents.rows :=
    updateWhere_congr fun c hc => mem_idsWith_of_nodup db.consents.valid hc
  unfold erase commit
  rw [if_neg (by simp [hhold]), hvendors, hloans, hconsents]
  simp only [map_bind, bind_pure_comp, Functor.map_map]

/-- Alone, the turns are the call. -/
theorem act_alone (call : EraseCall) (db : Database) :
    (fun s : ErasePhase × Database => call.act s.1 s.2)^[5] (.hold, db) =
      match erase db call.dataPrincipalId call.now with
      | .ok (result, db') => (.done (.ok result), db')
      | .error e => (.done (.error e), db) := by
  cases hhold : hasLegalHold db call.dataPrincipalId call.now with
  | true => simp [act, erase, hhold, pure, Except.pure]
  | false =>
    rw [erase_eq_commit hhold]
    simp only [Function.iterate_succ, Function.iterate_zero, Function.comp_apply, id_eq, act, hhold,
      scalarOneOrNone_filter db.vendors.valid.2, Bool.false_eq_true, if_false]
    generalize call.commit db _ _ _ = committed
    cases committed <;> rfl

end Alone

/-! ## What a turn does -/

/-- What a commit leaves in the tables. -/
structure Written (call : EraseCall) (db : Database) (vendor : Option Uuid)
    (loanIds consentIds : List Uuid) (db' : Database) : Prop where
  vendors : db'.vendors.rows = updateWhere (fun v => some v.id = vendor)
    (·.pseudonymize call.dataPrincipalId) db.vendors.rows
  loanApplications : db'.loanApplications.rows = updateWhere (fun la => la.id ∈ loanIds)
    (·.pseudonymizeVendor call.dataPrincipalId call.now) db.loanApplications.rows
  consents : db'.consents.rows = updateWhere (fun c => c.id ∈ consentIds)
    (·.pseudonymize call.dataPrincipalId) db.consents.rows

section Turn

variable {call : EraseCall} {db db' : Database} {vendor : Option Uuid} {loanIds consentIds : List Uuid}
  {phase : ErasePhase} {result : ErasureResult}

theorem commit_ok (h : call.commit db vendor loanIds consentIds = .ok db') :
    call.Written db vendor loanIds consentIds db' := by
  obtain ⟨vendors, hvendors, h⟩ := exists_of_bind_ok h
  obtain ⟨loanApplications, hloans, h⟩ := exists_of_bind_ok h
  obtain ⟨consents, hconsents, h⟩ := exists_of_bind_ok h
  obtain rfl := Except.ok.inj h
  exact ⟨write_ok.mp hvendors, write_ok.mp hloans, write_ok.mp hconsents⟩

/-- Only a commit changes the tables, and then the call has erased. -/
theorem act_cases (call : EraseCall) (phase : ErasePhase) (db : Database) :
    (call.act phase db).2 = db ∨ ∃ vendor loanIds consentIds, phase = .commit vendor loanIds consentIds ∧
      (call.act phase db).1 = .done (.ok PlatformDataSource.done) ∧
      call.Written db vendor loanIds consentIds (call.act phase db).2 := by
  cases phase with
  | hold =>
    simp only [act]
    split <;> exact .inl rfl
  | vendor =>
    simp only [act]
    split <;> exact .inl rfl
  | loanApplications vendor => exact .inl rfl
  | consents vendor loanIds => exact .inl rfl
  | commit vendor loanIds consentIds =>
    simp only [act]
    split
    · exact .inl rfl
    · rename_i db' hcommit
      exact .inr ⟨vendor, loanIds, consentIds, rfl, rfl, commit_ok hcommit⟩
  | done result => exact .inl rfl

end Turn

/-! ## What a call has found -/

/-- The id is not one that erasure writes. -/
structure NoPseudonym (dataPrincipalId : String) : Prop where
  vendor : ∀ value, vendorPseudonym value ≠ dataPrincipalId
  principal : ∀ value, principalPseudonym value ≠ dataPrincipalId

theorem noPseudonym_of_head {s : String} (h : s.toList.head? ≠ some 'V' ∧ s.toList.head? ≠ some 'P') :
    NoPseudonym s where
  vendor value heq := h.1 (by rw [← heq, vendorPseudonym, toList_pseudonym]; rfl)
  principal value heq := h.2 (by rw [← heq, principalPseudonym, toList_pseudonym]; rfl)

/-- What other transactions leave of the tables: no row is lost, no vendor and no consent is new,
and no row takes the id. -/
structure Later (dataPrincipalId : String) (db db' : Database) : Prop where
  loanApplications : NoneJoins LoanApplicationRecord.id LoanApplicationRecord.vendorGstin
    dataPrincipalId db.loanApplications.rows db'.loanApplications.rows
  vendors : NoneJoins VendorRecord.id VendorRecord.gstin dataPrincipalId db.vendors.rows
    db'.vendors.rows
  consents : NoneJoins ConsentRecord.id ConsentRecord.dataPrincipalId dataPrincipalId
    db.consents.rows db'.consents.rows
  sameVendors : db'.vendors.rows.map VendorRecord.id = db.vendors.rows.map VendorRecord.id
  sameConsents : db'.consents.rows.map ConsentRecord.id = db.consents.rows.map ConsentRecord.id

/-- What is found under the id after an erasure: of the applications that were there when it
updated them, none. -/
structure Cleared (dataPrincipalId : String) (db db' : Database) : Prop where
  stay : ∀ la₀ ∈ db.loanApplications.rows, ∃ la ∈ db'.loanApplications.rows, la.id = la₀.id
  loanApplications : ∀ la ∈ db'.loanApplications.rows, la.vendorGstin = dataPrincipalId →
    ∀ la₀ ∈ db.loanApplications.rows, la₀.id ≠ la.id
  vendors : ∀ v ∈ db'.vendors.rows, v.gstin ≠ dataPrincipalId
  consents : ∀ c ∈ db'.consents.rows, c.dataPrincipalId ≠ dataPrincipalId

/-- What is known of the tables that the turns of a call have found. -/
def Knows (call : EraseCall) (seen : (Database → Prop) → Prop) (db : Database) : ErasePhase → Prop
  | .hold => True
  | .vendor => seen fun c => hasLegalHold c call.dataPrincipalId call.now = false
  | .loanApplications vendor =>
    (seen fun c => hasLegalHold c call.dataPrincipalId call.now = false) ∧
    seen fun c => vendor.toList = idsWith VendorRecord.id VendorRecord.gstin call.dataPrincipalId
      c.vendors.rows
  | .consents vendor loanIds =>
    (seen fun c => hasLegalHold c call.dataPrincipalId call.now = false) ∧
    (seen fun c => vendor.toList = idsWith VendorRecord.id VendorRecord.gstin call.dataPrincipalId
      c.vendors.rows) ∧
    seen fun c => loanIds = idsWith LoanApplicationRecord.id LoanApplicationRecord.vendorGstin
      call.dataPrincipalId c.loanApplications.rows
  | .commit vendor loanIds consentIds =>
    (seen fun c => hasLegalHold c call.dataPrincipalId call.now = false) ∧
    (seen fun c => vendor.toList = idsWith VendorRecord.id VendorRecord.gstin call.dataPrincipalId
      c.vendors.rows) ∧
    (seen fun c => loanIds = idsWith LoanApplicationRecord.id LoanApplicationRecord.vendorGstin
      call.dataPrincipalId c.loanApplications.rows) ∧
    seen fun c => consentIds = idsWith ConsentRecord.id ConsentRecord.dataPrincipalId
      call.dataPrincipalId c.consents.rows
  | .done (.ok result) =>
    if result.erased then
      (seen fun c => hasLegalHold c call.dataPrincipalId call.now = false) ∧
      seen fun c => Cleared call.dataPrincipalId c db
    else seen fun c => hasLegalHold c call.dataPrincipalId call.now = true
  | .done (.error _) => True

section Later

variable {p : String} {db db' db'' : Database}

theorem Later.refl (p : String) (db : Database) : Later p db db where
  loanApplications := .refl db.loanApplications.valid.1
  vendors := .refl db.vendors.valid.1
  consents := .refl db.consents.valid
  sameVendors := rfl
  sameConsents := rfl

theorem Later.trans (h : Later p db db') (h' : Later p db' db'') : Later p db db'' where
  loanApplications := h.loanApplications.trans h'.loanApplications
  vendors := h.vendors.trans h'.vendors
  consents := h.consents.trans h'.consents
  sameVendors := h'.sameVendors.trans h.sameVendors
  sameConsents := h'.sameConsents.trans h.sameConsents

/-- A transaction that writes no vendor and no consent. -/
theorem later_of_loanApplications (hvendors : db'.vendors = db.vendors)
    (hconsents : db'.consents = db.consents)
    (hloans : NoneJoins LoanApplicationRecord.id LoanApplicationRecord.vendorGstin p
      db.loanApplications.rows db'.loanApplications.rows) : Later p db db' where
  loanApplications := hloans
  vendors := by
    rw [hvendors]
    exact .refl db.vendors.valid.1
  consents := by
    rw [hconsents]
    exact .refl db.consents.valid
  sameVendors := by rw [hvendors]
  sameConsents := by rw [hconsents]

theorem Cleared.later (h : Cleared p db db') (hlater : Later p db' db'') : Cleared p db db'' where
  stay la₀ hla₀ := by
    obtain ⟨la, hla, hid⟩ := h.stay la₀ hla₀
    obtain ⟨la', hla', hid'⟩ := hlater.loanApplications.stay la hla
    exact ⟨la', hla', hid'.trans hid⟩
  loanApplications la'' hla'' hp la₀ hla₀ hid := by
    obtain ⟨la, hla, hid'⟩ := h.stay la₀ hla₀
    have hbefore := hlater.loanApplications.joins la hla la'' hla'' (hid.symm.trans hid'.symm) hp
    exact h.loanApplications la hla hbefore la₀ hla₀ hid'.symm
  vendors := hlater.vendors.none hlater.sameVendors h.vendors
  consents := hlater.consents.none hlater.sameConsents h.consents

variable {call : EraseCall} {phase : ErasePhase}

/-- A turn of any call. -/
theorem act_later (hp : NoPseudonym p) (call : EraseCall) (phase : ErasePhase) (db : Database) :
    Later p db (call.act phase db).2 := by
  rcases call.act_cases phase db with heq | ⟨vendor, loanIds, consentIds, -, -, hwritten⟩
  · rw [heq]
    exact .refl p db
  · refine ⟨?_, ?_, ?_, ?_, ?_⟩
    · rw [hwritten.loanApplications]
      exact .write db.loanApplications.valid.1 (fun _ _ _ => rfl)
        fun _ _ _ heq => absurd heq (hp.vendor _)
    · rw [hwritten.vendors]
      exact .write db.vendors.valid.1 (fun _ _ _ => rfl) fun _ _ _ heq => absurd heq (hp.vendor _)
    · rw [hwritten.consents]
      exact .write db.consents.valid (fun _ _ _ => rfl)
        fun _ _ _ heq => absurd heq (hp.principal _)
    · rw [hwritten.vendors]
      exact map_updateWhere fun _ _ _ => rfl
    · rw [hwritten.consents]
      exact map_updateWhere fun _ _ _ => rfl

/-- The rows that a commit writes by ids that were selected before. -/
theorem Written.cleared {vendor : Option Uuid} {loanIds consentIds : List Uuid}
    (hp : NoPseudonym call.dataPrincipalId)
    (h : call.Written db vendor loanIds consentIds db') {c₁ c₂ c₃ : Database}
    (hvendor : vendor.toList = idsWith VendorRecord.id VendorRecord.gstin call.dataPrincipalId
      c₁.vendors.rows) (hlater₁ : Later call.dataPrincipalId c₁ db)
    (hloans : loanIds = idsWith LoanApplicationRecord.id LoanApplicationRecord.vendorGstin
      call.dataPrincipalId c₂.loanApplications.rows) (hlater₂ : Later call.dataPrincipalId c₂ db)
    (hconsents : consentIds = idsWith ConsentRecord.id ConsentRecord.dataPrincipalId
      call.dataPrincipalId c₃.consents.rows) (hlater₃ : Later call.dataPrincipalId c₃ db) :
    Cleared call.dataPrincipalId c₂ db' := by
  refine ⟨fun la₀ hla₀ => ?_, fun la hla hgstin => ?_, fun v hv hgstin => ?_, fun c hc hid => ?_⟩
  · obtain ⟨la, hla, hid⟩ := hlater₂.loanApplications.stay la₀ hla₀
    have hids : db'.loanApplications.rows.map LoanApplicationRecord.id =
        db.loanApplications.rows.map LoanApplicationRecord.id := by
      rw [h.loanApplications]
      exact map_updateWhere fun _ _ _ => rfl
    have hmem : la₀.id ∈ db'.loanApplications.rows.map LoanApplicationRecord.id := by
      rw [hids, ← hid]
      exact List.mem_map_of_mem hla
    exact List.mem_map.mp hmem
  · rw [h.loanApplications, hloans] at hla
    exact hlater₂.loanApplications.rewritten (fun _ => hp.vendor _) hla hgstin
  · have hselected : ∀ v ∈ db.vendors.rows, decide (some v.id = vendor) =
        decide (v.id ∈ idsWith VendorRecord.id VendorRecord.gstin call.dataPrincipalId
          c₁.vendors.rows) := by
      intro v _
      rw [← hvendor, decide_eq_decide]
      exact eq_comm.trans Option.mem_toList.symm
    rw [h.vendors, updateWhere_congr hselected] at hv
    exact hlater₁.vendors.rewritten_none (f := (·.pseudonymize call.dataPrincipalId))
      hlater₁.sameVendors (fun _ => rfl) (fun _ => hp.vendor _) v hv hgstin
  · rw [h.consents, hconsents] at hc
    exact hlater₃.consents.rewritten_none (f := (·.pseudonymize call.dataPrincipalId))
      hlater₃.sameConsents (fun _ => rfl) (fun _ => hp.principal _) c hc hid

end Later

/-! ## Steps -/

section Knowledge

variable {call : EraseCall} {phase : ErasePhase} {db db' : Database}
  {seen seen' : (Database → Prop) → Prop}

/-- Another transaction commits. -/
theorem Knows.later (h : call.Knows seen db phase) (hlater : Later call.dataPrincipalId db db')
    (hseen : ∀ P Q : Database → Prop, (∀ c, P c → Q c) → seen P → seen' Q) :
    call.Knows seen' db' phase := by
  have hsame : ∀ P, seen P → seen' P := fun P => hseen P P fun _ hP => hP
  cases phase with
  | hold => trivial
  | vendor => exact hsame _ h
  | loanApplications vendor => exact ⟨hsame _ h.1, hsame _ h.2⟩
  | consents vendor loanIds => exact ⟨hsame _ h.1, hsame _ h.2.1, hsame _ h.2.2⟩
  | commit vendor loanIds consentIds =>
    exact ⟨hsame _ h.1, hsame _ h.2.1, hsame _ h.2.2.1, hsame _ h.2.2.2⟩
  | done result =>
    cases result with
    | error e => trivial
    | ok result =>
      simp only [Knows] at h ⊢
      split
      · rename_i herased
        rw [if_pos herased] at h
        exact ⟨hsame _ h.1, hseen _ _ (fun c hc => hc.later hlater) h.2⟩
      · rename_i hskipped
        rw [if_neg hskipped] at h
        exact hsame _ h

/-- The call's own turn: what it has found is in the past, and it finds what is there now. -/
theorem Knows.act (h : call.Knows seen db phase) (hp : NoPseudonym call.dataPrincipalId)
    (hseen : ∀ P, seen P → seen' P) (hnow : ∀ P : Database → Prop, P db → seen' P)
    (hpast : ∀ P, seen P → ∃ c, P c ∧ Later call.dataPrincipalId c db)
    (hpast' : ∀ P Q : Database → Prop, (∀ c, P c → Later call.dataPrincipalId c db → Q c) →
      seen P → seen' Q) : call.Knows seen' (call.act phase db).2 (call.act phase db).1 := by
  cases phase with
  | hold =>
    simp only [EraseCall.act]
    split
    · rename_i hhold
      exact hnow _ hhold
    · rename_i hhold
      exact hnow _ (Bool.eq_false_iff.mpr hhold)
  | vendor =>
    simp only [EraseCall.act]
    split
    · trivial
    · rename_i row hrow
      exact ⟨hseen _ h, hnow _ (idsWith_of_scalarOneOrNone hrow)⟩
  | loanApplications vendor => exact ⟨hseen _ h.1, hseen _ h.2, hnow _ rfl⟩
  | consents vendor loanIds => exact ⟨hseen _ h.1, hseen _ h.2.1, hseen _ h.2.2, hnow _ rfl⟩
  | commit vendor loanIds consentIds =>
    obtain ⟨hhold, hvendor, hloans, hconsents⟩ := h
    simp only [EraseCall.act]
    split
    · trivial
    · rename_i db' hcommit
      obtain ⟨c₁, hvendor, hlater₁⟩ := hpast _ hvendor
      obtain ⟨c₃, hconsents, hlater₃⟩ := hpast _ hconsents
      refine ⟨hseen _ hhold, hpast' _ _ (fun c hloans hlater₂ => ?_) hloans⟩
      exact (commit_ok hcommit).cleared hp hvendor hlater₁ hloans hlater₂ hconsents hlater₃
  | done result => exact h.later (Later.refl _ _) fun P Q hPQ hP => hpast' P Q (fun c hc _ => hPQ c hc) hP

end Knowledge

end EraseCall

end PlatformDataSource

end OcenPlatform.Db
