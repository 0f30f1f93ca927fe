import OcenPlatform.Gateway.ConcurrentUpdate
import OcenPlatform.Gateway.Cutover

/-! Which closed loan applications retention reaches. It takes a vendor GSTIN that starts with
"V-" for one that it has rewritten, and erasure and borrowers write such texts too. -/

namespace OcenPlatform.Gateway

open Db
open Db.PlatformDataSource (erase hasLegalHold Erased)

/-! ## What becomes of a row -/

/-- How a row stands to retention. A missed row looks as if it had been rewritten. -/
inductive Reach where
  | plain
  | rewritten
  | missed
  deriving DecidableEq

/-- The GSTINs that a row was created with, and what has happened to it since. -/
structure Trail where
  vendorGstin : String
  anchorGstin : String
  reach : Reach

/-- A row that was created with a vendor GSTIN like a pseudonym is missed from the start. -/
def Trail.created (la : LoanApplicationRecord) : Trail where
  vendorGstin := la.vendorGstin
  anchorGstin := la.anchorGstin
  reach := if isPseudonymized la.vendorGstin then .missed else .plain

/-- The call erases. -/
def erases (db : Database) (dataPrincipalId : String) (now : Time) : Bool :=
  match erase db dataPrincipalId now with
  | .ok (result, _) => result.erased
  | .error _ => false

/-- The reach of a row after an operation. An erasure before retention leaves it missed. -/
def reachAfter (db : Database) (la : LoanApplicationRecord) (reach : Reach) : ApplicationOp → Reach
  | .enforceLoanApplications retentionDays now =>
    if LoanApplicationRetentionHandler.selects (now - days retentionDays) la then .rewritten else reach
  | .erase dataPrincipalId now =>
    if erases db dataPrincipalId now && la.vendorGstin = dataPrincipalId && reach = .plain then .missed
    else reach
  | _ => reach

structure TrackedLoans where
  db : Database
  trails : Uuid → Option Trail

namespace TrackedLoans

def trailsAfter (driver : Driver) (s : TrackedLoans) (op : ApplicationOp) (id : Uuid) : Option Trail :=
  match AsyncDBGatewayService.rowOf (applied driver s.db op) id with
  | none => s.trails id
  | some la' =>
    match AsyncDBGatewayService.rowOf s.db id with
    | none => some (.created la')
    | some la => (s.trails id).map fun t => { t with reach := reachAfter s.db la t.reach op }

def step (driver : Driver) (s : TrackedLoans) (op : ApplicationOp) : TrackedLoans where
  db := applied driver s.db op
  trails := s.trailsAfter driver op

/-- Before the first application. -/
def start (vendors : Table VendorRecord VendorsValid) (consents : Table ConsentRecord ConsentsValid) :
    TrackedLoans where
  db := { vendors, consents }
  trails _ := none

def run (driver : Driver) (vendors : Table VendorRecord VendorsValid)
    (consents : Table ConsentRecord ConsentsValid) (ops : List ApplicationOp) : TrackedLoans :=
  ops.foldl (step driver) (start vendors consents)

end TrackedLoans

/-! ## Complete retention -/

/-- A pseudonym of the GSTIN, of its pseudonym, and so on. -/
inductive Hashed (gstin : String) : String → Prop
  | once : Hashed gstin (vendorPseudonym gstin)
  | again {s : String} (h : Hashed gstin s) : Hashed gstin (vendorPseudonym s)

/-- Both GSTINs are pseudonymized, and the four encrypted and index columns are null. -/
structure Trail.Pseudonymized (t : Trail) (la : LoanApplicationRecord) : Prop where
  vendorGstin : Hashed t.vendorGstin la.vendorGstin
  anchorGstin : la.anchorGstin = anchorPseudonym t.anchorGstin
  vendorGstinEnc : la.vendorGstinEnc = none
  vendorGstinIdx : la.vendorGstinIdx = none
  anchorGstinEnc : la.anchorGstinEnc = none
  anchorGstinIdx : la.anchorGstinIdx = none

/-- Closed, and not written since the cutoff. -/
def Due (cutoff : Time) (la : LoanApplicationRecord) : Prop :=
  la.status = "closed" ∧ la.updatedAt < cutoff

instance (cutoff : Time) (la : LoanApplicationRecord) : Decidable (Due cutoff la) :=
  inferInstanceAs (Decidable (_ ∧ _))

/-- The row was created with a vendor GSTIN like a pseudonym, or erased too early. -/
def TrackedLoans.Missed (s : TrackedLoans) (la : LoanApplicationRecord) : Prop :=
  (s.trails la.id).map Trail.reach = some .missed

instance (s : TrackedLoans) (la : LoanApplicationRecord) : Decidable (s.Missed la) :=
  inferInstanceAs (Decidable (_ = _))

/-- Retention at this time pseudonymizes everything that is due. -/
def TrackedLoans.Complete (driver : Driver) (s : TrackedLoans) (retentionDays : Int) (now : Time) :
    Prop :=
  ∀ la ∈ s.db.loanApplications.rows, Due (now - days retentionDays) la →
    ∃ t, s.trails la.id = some t ∧
      ∃ la' ∈ (applied driver s.db (.enforceLoanApplications retentionDays now)).loanApplications.rows,
        la'.id = la.id ∧ t.Pseudonymized la'

/-! ## The invariant -/

/-- What a trail says of its row. -/
def Trail.Follows (t : Trail) (la : LoanApplicationRecord) : Prop :=
  match t.reach with
  | .plain => la.vendorGstin = t.vendorGstin ∧ la.anchorGstin = t.anchorGstin ∧
      isPseudonymized la.vendorGstin = false
  | .rewritten => t.Pseudonymized la
  | .missed => la.anchorGstin = t.anchorGstin ∧ isPseudonymized la.vendorGstin = true

section Row

variable {t : Trail} {la : LoanApplicationRecord} {db : Database}

theorem Hashed.isPseudonymized {gstin s : String} (h : Hashed gstin s) : isPseudonymized s = true := by
  cases h <;> exact isPseudonymized_vendorPseudonym _

theorem follows_created (la : LoanApplicationRecord) : (Trail.created la).Follows la := by
  unfold Trail.created Trail.Follows
  cases h : Db.isPseudonymized la.vendorGstin with
  | true => exact ⟨rfl, rfl⟩
  | false => exact ⟨rfl, rfl, rfl⟩

/-- The columns that the trail is about. -/
structure SameGstins (la la' : LoanApplicationRecord) : Prop where
  vendorGstin : la'.vendorGstin = la.vendorGstin
  anchorGstin : la'.anchorGstin = la.anchorGstin
  vendorGstinEnc : la'.vendorGstinEnc = la.vendorGstinEnc
  vendorGstinIdx : la'.vendorGstinIdx = la.vendorGstinIdx
  anchorGstinEnc : la'.anchorGstinEnc = la.anchorGstinEnc
  anchorGstinIdx : la'.anchorGstinIdx = la.anchorGstinIdx

theorem Trail.Follows.same (h : t.Follows la) {la' : LoanApplicationRecord} (hsame : SameGstins la la') :
    t.Follows la' := by
  obtain ⟨hvendor, hanchor, hvendorEnc, hvendorIdx, hanchorEnc, hanchorIdx⟩ := hsame
  unfold Trail.Follows at h ⊢
  cases hreach : t.reach <;> rw [hreach] at h
  · exact ⟨hvendor.trans h.1, hanchor.trans h.2.1, hvendor ▸ h.2.2⟩
  · exact ⟨hvendor ▸ h.vendorGstin, hanchor.trans h.anchorGstin, hvendorEnc.trans h.vendorGstinEnc,
      hvendorIdx.trans h.vendorGstinIdx, hanchorEnc.trans h.anchorGstinEnc,
      hanchorIdx.trans h.anchorGstinIdx⟩
  · exact ⟨hanchor.trans h.1, hvendor ▸ h.2⟩

/-- Retention rewrites what it selects, which is plain. -/
theorem Trail.Follows.pseudonymize (h : t.Follows la) (now : Time)
    (hplain : Db.isPseudonymized la.vendorGstin = false) :
    t.Pseudonymized (LoanApplicationRetentionHandler.pseudonymize now la) := by
  unfold Trail.Follows at h
  cases hreach : t.reach <;> rw [hreach] at h
  · obtain ⟨hvendor, hanchor, -⟩ := h
    refine ⟨?_, congrArg anchorPseudonym hanchor, rfl, rfl, rfl, rfl⟩
    rw [← hvendor]
    exact .once
  · rw [h.vendorGstin.isPseudonymized] at hplain
    cases hplain
  · rw [h.2] at hplain
    cases hplain

/-- Erasure rewrites the vendor only. -/
theorem Trail.Follows.pseudonymizeVendor (h : t.Follows la) (now : Time) :
    ({ t with reach := if t.reach = .plain then .missed else t.reach } : Trail).Follows
      (la.pseudonymizeVendor la.vendorGstin now) := by
  unfold Trail.Follows at h ⊢
  cases hreach : t.reach <;> rw [hreach] at h
  · exact ⟨h.2.1, isPseudonymized_vendorPseudonym _⟩
  · exact ⟨.again h.vendorGstin, h.anchorGstin, rfl, rfl, h.anchorGstinEnc, h.anchorGstinIdx⟩
  · exact ⟨h.1, isPseudonymized_vendorPseudonym _⟩

end Row

namespace TrackedLoans

def Inv (s : TrackedLoans) : Prop :=
  ∀ la ∈ s.db.loanApplications.rows, ∃ t, s.trails la.id = some t ∧ t.Follows la

section Step

variable {driver : Driver} {s : TrackedLoans}

/-- The row of an operation is a new one, or its trail goes on from the row before. -/
def GoesOn (driver : Driver) (db : Database) (op : ApplicationOp) : Prop :=
  ∀ la' ∈ (applied driver db op).loanApplications.rows,
    (∀ la ∈ db.loanApplications.rows, la.id ≠ la'.id) ∨
    ∃ la ∈ db.loanApplications.rows, la.id = la'.id ∧ ∀ t : Trail, t.Follows la →
      ({ t with reach := reachAfter db la t.reach op } : Trail).Follows la'

theorem Inv.step (h : s.Inv) {op : ApplicationOp} (hgoes : GoesOn driver s.db op) :
    (s.step driver op).Inv := by
  intro la' hla'
  have hrow : AsyncDBGatewayService.rowOf (applied driver s.db op) la'.id = some la' :=
    AsyncDBGatewayService.rowOf_iff.mpr ⟨hla', rfl⟩
  rcases hgoes la' hla' with hnew | ⟨la, hla, hid, hfollows⟩
  · have hnone : AsyncDBGatewayService.rowOf s.db la'.id = none :=
      List.find?_eq_none.mpr fun la hla => by simpa using hnew la hla
    refine ⟨.created la', ?_, follows_created la'⟩
    simp only [TrackedLoans.step, trailsAfter, hrow, hnone]
  · have hold : AsyncDBGatewayService.rowOf s.db la'.id = some la :=
      AsyncDBGatewayService.rowOf_iff.mpr ⟨hla, hid⟩
    obtain ⟨t, htrail, ht⟩ := h la hla
    rw [hid] at htrail
    refine ⟨_, ?_, hfollows t ht⟩
    simp only [TrackedLoans.step, trailsAfter, hrow, hold, htrail, Option.map_some]

/-! ### The operations -/

section Operations

variable (db : Database)

theorem goesOn_unchanged {op : ApplicationOp}
    (hrows : (applied driver db op).loanApplications.rows = db.loanApplications.rows)
    (hreach : ∀ la reach, reachAfter db la reach op = reach) : GoesOn driver db op := by
  intro la hla
  rw [hrows] at hla
  refine .inr ⟨la, hla, rfl, fun t ht => ?_⟩
  rw [hreach]
  exact ht

theorem goesOn_initiateApplication (request : LoanApplicationRequest) (appId : Uuid) (now : Time) :
    GoesOn driver db (.initiateApplication request appId now) := by
  rcases initiateApplication_cases db request appId now with
    ⟨-, record, table, -, hrows, hcall⟩ | ⟨-, hcall⟩
  · intro la' hla'
    have hids := table.valid.1
    rw [applied, hcall] at hla'
    rw [hrows] at hla' hids
    rcases List.mem_append.mp hla' with hold | hnew
    · exact .inr ⟨la', hold, rfl, fun t ht => ht⟩
    · obtain rfl := List.mem_singleton.mp hnew
      refine .inl fun la hla hid => ?_
      rw [List.map_append, List.nodup_append'] at hids
      exact hids.2.2 (List.mem_map_of_mem hla) (by simp [hid])
  · refine goesOn_unchanged db ?_ fun _ _ => rfl
    rw [applied, hcall]

theorem goesOn_updateGate (applicationId : Uuid) (gate status : String) (extra : Extra) (changed : Bool)
    (now : Time) : GoesOn driver db (.updateGate applicationId gate status extra changed now) := by
  cases hcall : AsyncDBGatewayService.updateGate driver db applicationId gate status extra changed now with
  | error e =>
    refine goesOn_unchanged db ?_ fun _ _ => rfl
    rw [applied, hcall]
    rfl
  | ok db' =>
    obtain ⟨record, record', hrow, hrecord, hrows⟩ := AsyncDBGatewayService.updateGate_ok hcall
    have hmem := AsyncDBGatewayService.rowOf_iff.mp hrow
    intro la' hla'
    rw [applied, hcall] at hla'
    change la' ∈ db'.loanApplications.rows at hla'
    rw [hrows] at hla'
    rcases mem_updateWhere.mp hla' with ⟨la, hla, ⟨hid, rfl⟩ | ⟨-, rfl⟩⟩
    · obtain rfl := List.inj_on_of_nodup_map db.loanApplications.valid.1 hla hmem.1
        (of_decide_eq_true hid)
      obtain ⟨gate', status', amount, lender, offer, -, rfl⟩ :=
        AsyncDBGatewayService.updateRecord_inv hrecord
      exact .inr ⟨la, hla, rfl, fun t ht => ht.same ⟨rfl, rfl, rfl, rfl, rfl, rfl⟩⟩
    · exact .inr ⟨la', hla, rfl, fun t ht => ht⟩

theorem goesOn_erase (dataPrincipalId : String) (now : Time) :
    GoesOn driver db (.erase dataPrincipalId now) := by
  rcases erase_outcomes db dataPrincipalId now with
    ⟨-, hcall⟩ | ⟨-, ⟨-, e, hcall⟩ | ⟨-, db', hcall, herased⟩⟩
  · refine goesOn_unchanged db ?_ fun la reach => ?_
    · rw [applied, hcall]
      rfl
    · simp [reachAfter, erases, hcall, PlatformDataSource.skipped]
  · refine goesOn_unchanged db ?_ fun la reach => ?_
    · rw [applied, hcall]
      rfl
    · simp [reachAfter, erases, hcall]
  · have herases : erases db dataPrincipalId now = true := by
      simp [erases, hcall, PlatformDataSource.done]
    intro la' hla'
    rw [applied, hcall] at hla'
    change la' ∈ db'.loanApplications.rows at hla'
    rw [herased.loanApplications] at hla'
    rcases mem_updateWhere.mp hla' with ⟨la, hla, ⟨hvendor, rfl⟩ | ⟨hvendor, rfl⟩⟩
    · obtain rfl := of_decide_eq_true hvendor
      refine .inr ⟨la, hla, rfl, fun t ht => ?_⟩
      simpa [reachAfter, herases] using ht.pseudonymizeVendor now
    · refine .inr ⟨la', hla, rfl, fun t ht => ?_⟩
      simpa [reachAfter, hvendor] using ht

theorem goesOn_enforceLoanApplications (retentionDays : Int) (now : Time) :
    GoesOn driver db (.enforceLoanApplications retentionDays now) := by
  obtain ⟨count, db', hcall, -, -, hrows⟩ :=
    LoanApplicationRetentionHandler.enforce_ok db retentionDays now
  intro la' hla'
  rw [applied, hcall] at hla'
  change la' ∈ db'.loanApplications.rows at hla'
  rw [hrows] at hla'
  rcases mem_updateWhere.mp hla' with ⟨la, hla, ⟨hselects, rfl⟩ | ⟨hselects, rfl⟩⟩
  · refine .inr ⟨la, hla, rfl, fun t ht => ?_⟩
    have hplain : Db.isPseudonymized la.vendorGstin = false := by
      simp only [LoanApplicationRetentionHandler.selects, Bool.and_eq_true, Bool.not_eq_true'] at hselects
      exact hselects.2
    obtain ⟨hvendor, hanchor, hvendorEnc, hvendorIdx, hanchorEnc, hanchorIdx⟩ :=
      ht.pseudonymize now hplain
    simp only [reachAfter, hselects, if_true]
    exact ⟨hvendor, hanchor, hvendorEnc, hvendorIdx, hanchorEnc, hanchorIdx⟩
  · refine .inr ⟨la', hla, rfl, fun t ht => ?_⟩
    simpa [reachAfter, hselects] using ht

theorem goesOn_enforceVendors (retentionDays : Int) (now : Time) :
    GoesOn driver db (.enforceVendors retentionDays now) := by
  refine goesOn_unchanged db ?_ fun _ _ => rfl
  rcases VendorContactRetentionHandler.enforce_cases db retentionDays now with
    ⟨count, db', hcall, hloans, -⟩ | ⟨⟨e, hcall⟩, -⟩
  · rw [applied, hcall]
    exact congrArg Table.rows hloans
  · rw [applied, hcall]
    rfl

end Operations

/-- **Step lemma.** -/
theorem inv_step (driver : Driver) (s : TrackedLoans) (op : ApplicationOp) (h : s.Inv) :
    (s.step driver op).Inv := by
  cases op with
  | initiateApplication request appId now =>
    exact h.step (goesOn_initiateApplication s.db request appId now)
  | updateGate applicationId gate status extra changed now =>
    exact h.step (goesOn_updateGate s.db applicationId gate status extra changed now)
  | erase dataPrincipalId now => exact h.step (goesOn_erase s.db dataPrincipalId now)
  | enforceLoanApplications retentionDays now =>
    exact h.step (goesOn_enforceLoanApplications s.db retentionDays now)
  | enforceVendors retentionDays now => exact h.step (goesOn_enforceVendors s.db retentionDays now)

/-- **Run lemma.** -/
theorem inv_run (driver : Driver) (vendors : Table VendorRecord VendorsValid)
    (consents : Table ConsentRecord ConsentsValid) (ops : List ApplicationOp) :
    (run driver vendors consents ops).Inv := by
  unfold run
  have hstart : (start vendors consents).Inv := fun la hla => absurd hla List.not_mem_nil
  exact List.foldlRecOn ops (step driver) hstart fun s hs op _ => inv_step driver s op hs

/-! ## Complete retention without missed rows -/

theorem selects_eq {cutoff : Time} {la : LoanApplicationRecord} (hdue : Due cutoff la) :
    LoanApplicationRetentionHandler.selects cutoff la = !Db.isPseudonymized la.vendorGstin := by
  simp [LoanApplicationRetentionHandler.selects, hdue.1, hdue.2]

/-- A run of retention rewrites the plain rows among those that are due. -/
theorem enforced_of_due (db : Database) {retentionDays : Int} {now : Time} {la : LoanApplicationRecord}
    (hla : la ∈ db.loanApplications.rows) (hdue : Due (now - days retentionDays) la) :
    (if Db.isPseudonymized la.vendorGstin then la
      else LoanApplicationRetentionHandler.pseudonymize now la) ∈
      (applied driver db (.enforceLoanApplications retentionDays now)).loanApplications.rows := by
  obtain ⟨count, db', hcall, -, -, hrows⟩ :=
    LoanApplicationRetentionHandler.enforce_ok db retentionDays now
  rw [applied, hcall]
  change _ ∈ db'.loanApplications.rows
  rw [hrows]
  have hselects := selects_eq hdue
  cases hlike : Db.isPseudonymized la.vendorGstin with
  | true =>
    rw [hlike] at hselects
    exact mem_updateWhere.mpr ⟨la, hla, .inr ⟨hselects, rfl⟩⟩
  | false =>
    rw [hlike] at hselects
    exact mem_updateWhere_self hla hselects

/-- **Retention is complete** unless a row that is due was missed. -/
theorem Inv.complete (h : s.Inv) {retentionDays : Int} {now : Time}
    (hmissed : ∀ la ∈ s.db.loanApplications.rows, Due (now - days retentionDays) la → ¬ s.Missed la) :
    s.Complete driver retentionDays now := by
  intro la hla hdue
  obtain ⟨t, htrail, ht⟩ := h la hla
  refine ⟨t, htrail, _, enforced_of_due s.db hla hdue, ?_⟩
  have hreach : t.reach ≠ .missed := by simpa [Missed, htrail] using hmissed la hla hdue
  cases hlike : Db.isPseudonymized la.vendorGstin with
  | true =>
    refine ⟨rfl, ?_⟩
    unfold Trail.Follows at ht
    cases hcase : t.reach <;> rw [hcase] at ht
    · rw [ht.2.2] at hlike
      cases hlike
    · exact ht
    · exact absurd hcase hreach
  | false => exact ⟨rfl, ht.pseudonymize now hlike⟩

/-- Retention leaves a missed row with the anchor GSTIN that it was created with. -/
theorem Inv.missed_stays (h : s.Inv) {retentionDays : Int} {now : Time} {la : LoanApplicationRecord}
    (hla : la ∈ s.db.loanApplications.rows) (hdue : Due (now - days retentionDays) la)
    (hmissed : s.Missed la) :
    la ∈ (applied driver s.db (.enforceLoanApplications retentionDays now)).loanApplications.rows ∧
      ∃ t, s.trails la.id = some t ∧ la.anchorGstin = t.anchorGstin := by
  obtain ⟨t, htrail, ht⟩ := h la hla
  have hreach : t.reach = .missed := by simpa [Missed, htrail] using hmissed
  unfold Trail.Follows at ht
  rw [hreach] at ht
  refine ⟨?_, t, htrail, ht.1⟩
  have henforced := @enforced_of_due driver s.db _ _ _ hla hdue
  rwa [ht.2, if_pos rfl] at henforced

end Step

/-- **Retention is complete after every run** unless a row that is due was missed. A missed row
keeps its anchor GSTIN. -/
theorem complete_unless_missed (driver : Driver) (vendors : Table VendorRecord VendorsValid)
    (consents : Table ConsentRecord ConsentsValid) (ops : List ApplicationOp) (retentionDays : Int)
    (now : Time) :
    let s := run driver vendors consents ops
    ((∀ la ∈ s.db.loanApplications.rows, Due (now - days retentionDays) la → ¬ s.Missed la) →
      s.Complete driver retentionDays now) ∧
    ∀ la ∈ s.db.loanApplications.rows, Due (now - days retentionDays) la → s.Missed la →
      la ∈ (applied driver s.db (.enforceLoanApplications retentionDays now)).loanApplications.rows ∧
        ∃ t, s.trails la.id = some t ∧ la.anchorGstin = t.anchorGstin :=
  ⟨(inv_run driver vendors consents ops).complete,
    fun _ hla hdue => (inv_run driver vendors consents ops).missed_stays hla hdue⟩

/-! A loan that is closed, and erased seven years after its application. -/

def fromEmpty (ops : List ApplicationOp) : TrackedLoans :=
  run sampleDriver ⟨[], vendorsValid_nil⟩ ⟨[], consentsValid_nil⟩ ops

def closedRun : List ApplicationOp :=
  [.initiateApplication (keyedRequest "key-1") ⟨1⟩ 0,
    .updateGate ⟨1⟩ "d4_lender_underwriting" "closed" AsyncDBGatewayService.noExtra true 1]

theorem complete_closedRun : (fromEmpty closedRun).Complete sampleDriver 2555 (days 2556) :=
  (complete_unless_missed sampleDriver _ _ closedRun 2555 (days 2556)).1 (by decide +kernel)

def erasedRun : List ApplicationOp := closedRun ++ [.erase "29ABCDE1234F1Z5" (days 2556)]

theorem anchorPseudonym_ne (value : String) : anchorPseudonym value ≠ "27AABCU9603R1ZM" := by
  intro h
  have hlist := congrArg String.toList h
  rw [anchorPseudonym, toList_pseudonym] at hlist
  simp at hlist

/-- Seven years later retention leaves the anchor GSTIN as it is. -/
theorem erasedRun_incomplete : ¬ (fromEmpty erasedRun).Complete sampleDriver 2555 (days 5112) := by
  intro h
  have hdue : ∀ la ∈ (fromEmpty erasedRun).db.loanApplications.rows, Due (days 5112 - days 2555) la := by
    decide +kernel
  have hstays : ∀ la ∈ (applied sampleDriver (fromEmpty erasedRun).db
      (.enforceLoanApplications 2555 (days 5112))).loanApplications.rows,
      la.anchorGstin = "27AABCU9603R1ZM" := by
    decide +kernel
  obtain ⟨la, hla⟩ : ∃ la, la ∈ (fromEmpty erasedRun).db.loanApplications.rows :=
    List.exists_mem_of_ne_nil _ (by decide +kernel)
  obtain ⟨t, -, la', hla', -, hpseudonymized⟩ := h la hla (hdue la hla)
  exact anchorPseudonym_ne t.anchorGstin (hpseudonymized.anchorGstin ▸ hstays la' hla')

end TrackedLoans

end OcenPlatform.Gateway
