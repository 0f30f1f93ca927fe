import OcenPlatform.Db.RetentionHandlers
import OcenPlatform.Gateway.Backends

/-! Loans under legal hold. From its disbursement until 2555 days after its closure a loan
application is to keep the vendor it was created for, whatever erasures and retention
runs fall in between. -/

namespace OcenPlatform.Gateway

open Db
open Db.PlatformDataSource (erase hasLegalHold heldStatuses)

/-! ## The history of an application -/

/-- What was seen of an application: the vendor at its creation, and since when it is closed. -/
structure Origin where
  vendorGstin : String
  closedAt : Option Time := none

def Origin.observe (now : Time) (status : String) (o : Origin) : Origin :=
  { o with closedAt := if status = "closed" then some (o.closedAt.getD now) else none }

/-- Every row of the table is seen, new ones for the first time. -/
def observe (now : Time) (origins : Uuid → Option Origin) (db : Database) : Uuid → Option Origin :=
  fun id => match AsyncDBGatewayService.rowOf db id with
    | none => origins id
    | some la => some (((origins id).getD { vendorGstin := la.vendorGstin }).observe now la.status)

/-- Disbursed, repaying, or closed for less than 2555 days. -/
def Retained (now : Time) (o : Origin) (status : String) : Prop :=
  status ∈ heldStatuses ∧ ∀ closed ∈ o.closedAt, now < closed + days 2555

instance (now : Time) (o : Origin) (status : String) : Decidable (Retained now o status) :=
  inferInstanceAs (Decidable (_ ∧ _))

/-! ## Runs -/

structure LoanBook where
  db : Database
  now : Time
  origins : Uuid → Option Origin

inductive LoanBookOp where
  | create (request : LoanApplicationRequest) (appId : Uuid)
  | updateGate (applicationId : Uuid) (gate status : String) (extra : Extra) (changed : Bool)
  | erase (dataPrincipalId : String)
  | enforce
  | tick (duration : Nat)

/-- A call that raises is rolled back. -/
def committed {α : Type} (db : Database) : Except String (α × Database) → Database
  | .ok (_, db') => db'
  | .error _ => db

namespace LoanBook

/-- The tables after an operation. -/
def database (driver : Driver) (r : LoanBook) : LoanBookOp → Database
  | .create request appId =>
    committed r.db (AsyncDBGatewayService.initiateApplication r.db request appId r.now)
  | .updateGate applicationId gate status extra changed =>
    committed r.db ((((), ·)) <$> AsyncDBGatewayService.updateGate driver r.db applicationId gate
      status extra changed r.now)
  | .erase dataPrincipalId => committed r.db (erase r.db dataPrincipalId r.now)
  | .enforce => committed r.db (LoanApplicationRetentionHandler.enforce r.db 2555 r.now)
  | .tick _ => r.db

/-- The time after an operation. -/
def time (r : LoanBook) : LoanBookOp → Time
  | .tick duration => r.now + duration
  | _ => r.now

def step (driver : Driver) (r : LoanBook) (op : LoanBookOp) : LoanBook where
  db := r.database driver op
  now := r.time op
  origins := observe (r.time op) r.origins (r.database driver op)

/-- Every retained application carries the vendor it was created for. -/
def LegalHold (r : LoanBook) : Prop :=
  ∀ la ∈ r.db.loanApplications.rows, ∃ o ∈ r.origins la.id,
    Retained r.now o la.status → la.vendorGstin = o.vendorGstin

instance : DecidablePred LegalHold := fun _ => inferInstanceAs (Decidable (∀ la ∈ _, ∃ o ∈ _, _))

/-- An erasure that `has_legal_hold` lets through finds no retained application, and no
application that has lost its vendor is taken to a status that is held. -/
def Admits (r : LoanBook) : LoanBookOp → Prop
  | .erase dataPrincipalId => hasLegalHold r.db dataPrincipalId r.now = false →
      ∀ la ∈ r.db.loanApplications.rows, la.vendorGstin = dataPrincipalId →
        ∀ o ∈ r.origins la.id, ¬ Retained r.now o la.status
  | .updateGate applicationId _ status _ _ =>
      ∀ la ∈ AsyncDBGatewayService.rowOf r.db applicationId, ∀ o ∈ r.origins la.id,
        la.vendorGstin ≠ o.vendorGstin → status ∈ heldStatuses →
          la.status = "closed" ∧ status = "closed"
  | _ => True

instance (r : LoanBook) : DecidablePred r.Admits
  | .erase _ => inferInstanceAs (Decidable (_ → ∀ la ∈ _, _ → ∀ o ∈ _, ¬ _))
  | .updateGate _ _ _ _ _ => inferInstanceAs (Decidable (∀ la ∈ _, ∀ o ∈ _, _ → _ → _))
  | .create _ _ | .enforce | .tick _ => .isTrue trivial

end LoanBook

/-! ## One row -/

/-- What every step preserves of a row and its history. -/
structure Kept (now : Time) (o : Origin) (la : LoanApplicationRecord) : Prop where
  ongoing : la.status ≠ "closed" → o.closedAt = none
  closed : la.status = "closed" → ∃ closed, o.closedAt = some closed ∧ closed ≤ la.updatedAt
  written : la.updatedAt ≤ now
  held : Retained now o la.status → la.vendorGstin = o.vendorGstin

section Row

variable {now : Time} {o : Origin} {la : LoanApplicationRecord}

/-- Seeing a row again that has the same status adds nothing. -/
theorem Kept.observe_eq (h : Kept now o la) (later : Time) : o.observe later la.status = o := by
  unfold Origin.observe
  by_cases hclosed : la.status = "closed"
  · obtain ⟨closed, hat, -⟩ := h.closed hclosed
    rw [if_pos hclosed, hat, Option.getD_some, ← hat]
  · rw [if_neg hclosed, ← h.ongoing hclosed]

theorem Retained.of_le {later : Time} {status : String} (h : Retained later o status)
    (hle : now ≤ later) : Retained now o status :=
  ⟨h.1, fun closed hat => Int.lt_of_le_of_lt hle (h.2 closed hat)⟩

/-- A row that is left alone. -/
theorem Kept.later (h : Kept now o la) {later : Time} (hle : now ≤ later) :
    Kept later (o.observe later la.status) la := by
  rw [h.observe_eq]
  constructor
  · exact h.ongoing
  · exact h.closed
  · exact Int.le_trans h.written hle
  · exact fun hretained => h.held (hretained.of_le hle)

/-- A row that is pseudonymized while it is not retained. -/
theorem Kept.pseudonymized (h : Kept now o la) (hfree : ¬ Retained now o la.status)
    {la' : LoanApplicationRecord} (hstatus : la'.status = la.status) (hwritten : la'.updatedAt = now) :
    Kept now (o.observe now la'.status) la' := by
  rw [hstatus, h.observe_eq]
  constructor
  · exact fun hopen => h.ongoing (hstatus ▸ hopen)
  · intro hclosed
    obtain ⟨closed, hat, hle⟩ := h.closed (hstatus ▸ hclosed)
    exact ⟨closed, hat, hwritten ▸ Int.le_trans hle h.written⟩
  · exact Int.le_of_eq hwritten
  · exact fun hretained => absurd (hstatus ▸ hretained) hfree

/-- What retention selects has been closed for longer than its period. -/
theorem Kept.not_retained_of_selects (h : Kept now o la)
    (hselects : LoanApplicationRetentionHandler.selects (now - days 2555) la = true) :
    ¬ Retained now o la.status := by
  simp only [LoanApplicationRetentionHandler.selects, Bool.and_eq_true, decide_eq_true_eq] at hselects
  obtain ⟨⟨hclosed, hold⟩, -⟩ := hselects
  obtain ⟨closed, hat, hle⟩ := h.closed hclosed
  intro hretained
  have hpast : closed + days 2555 < now :=
    Int.add_lt_of_lt_sub_right (Int.lt_of_le_of_lt hle hold)
  exact Int.lt_asymm hpast (hretained.2 closed hat)

/-- The row that an update from a gate leaves. -/
theorem Kept.updated (h : Kept now o la) {driver : Driver} {gate status : String} {extra : Extra}
    {changed : Bool} {la' : LoanApplicationRecord}
    (hupdate : AsyncDBGatewayService.updateRecord driver la gate status extra changed now = .ok la')
    (hadmits : la.vendorGstin ≠ o.vendorGstin → status ∈ heldStatuses →
      la.status = "closed" ∧ status = "closed") :
    Kept now (o.observe now la'.status) la' := by
  obtain ⟨-, hvendor, hstored, htime⟩ := AsyncDBGatewayService.updateRecord_ok hupdate
  -- A text that was cut off to fill the column is none of the short statuses.
  have hstatus : la'.status ∈ heldStatuses → la'.status = status := by
    intro hmem
    refine varchar_short hstored ?_
    simp only [heldStatuses, List.mem_cons, List.not_mem_nil, or_false] at hmem
    rcases hmem with h | h | h <;> rw [h] <;> decide
  constructor
  · exact fun hopen => if_neg hopen
  · intro hclosed
    have hmem : la'.status ∈ heldStatuses := by simp [heldStatuses, hclosed]
    by_cases hbefore : la.status = "closed"
    · obtain ⟨closed, hat, hle⟩ := h.closed hbefore
      refine ⟨closed, by simp [Origin.observe, hclosed, hat], ?_⟩
      rcases htime with htime | ⟨htime, -⟩
      · exact htime ▸ Int.le_trans hle h.written
      · exact htime ▸ hle
    · refine ⟨now, by simp [Origin.observe, hclosed, h.ongoing hbefore], ?_⟩
      rcases htime with htime | ⟨-, hsame⟩
      · exact Int.le_of_eq htime.symm
      · exact absurd ((hsame.symm.trans (hstatus hmem).symm).trans hclosed) hbefore
  · rcases htime with htime | ⟨htime, -⟩
    · exact Int.le_of_eq htime
    · exact htime ▸ h.written
  · intro hretained
    rw [hvendor]
    by_contra hlost
    have hsame := hstatus hretained.1
    obtain ⟨hbefore, hclosed⟩ := hadmits hlost (hsame ▸ hretained.1)
    rw [hsame, hclosed, ← hbefore, h.observe_eq] at hretained
    exact hlost (h.held hretained)

/-- A row that was not there before. -/
theorem Kept.created (hstatus : la.status = "initiated") (hwritten : la.updatedAt = now) :
    Kept now (({ vendorGstin := la.vendorGstin } : Origin).observe now la.status) la := by
  have hopen : la.status ≠ "closed" := by
    rw [hstatus]
    decide
  constructor
  · exact fun _ => if_neg hopen
  · exact fun hclosed => absurd hclosed hopen
  · exact Int.le_of_eq hwritten
  · exact fun _ => rfl

end Row

/-! ## The table -/

namespace LoanBook

/-- The rows and the histories are of the same applications. -/
structure Inv (r : LoanBook) : Prop where
  kept : ∀ la ∈ r.db.loanApplications.rows, ∃ o, r.origins la.id = some o ∧ Kept r.now o la
  known : ∀ id o, r.origins id = some o → ∃ la ∈ r.db.loanApplications.rows, la.id = id

theorem Inv.legalHold {r : LoanBook} (h : Inv r) : r.LegalHold := by
  intro la hla
  obtain ⟨o, horigin, hkept⟩ := h.kept la hla
  exact ⟨o, horigin, hkept.held⟩

section Step

variable {r : LoanBook} {db : Database} {now : Time}

/-- The row keeps what is known of it, or it is new. -/
def Follows (r : LoanBook) (now : Time) (la' : LoanApplicationRecord) : Prop :=
  (∃ la ∈ r.db.loanApplications.rows, la.id = la'.id ∧ ∀ o, r.origins la.id = some o →
    Kept r.now o la → Kept now (o.observe now la'.status) la') ∨
  ((∀ la ∈ r.db.loanApplications.rows, la.id ≠ la'.id) ∧ la'.status = "initiated" ∧
    la'.updatedAt = now)

theorem Inv.of_follows (h : Inv r)
    (hstay : ∀ la ∈ r.db.loanApplications.rows, ∃ la' ∈ db.loanApplications.rows, la'.id = la.id)
    (hrows : ∀ la' ∈ db.loanApplications.rows, r.Follows now la') :
    Inv { db, now, origins := observe now r.origins db } := by
  constructor
  · intro la' hla'
    have hrow := AsyncDBGatewayService.rowOf_iff.mpr ⟨hla', rfl⟩
    refine ⟨((r.origins la'.id).getD { vendorGstin := la'.vendorGstin }).observe now la'.status,
      ?_, ?_⟩
    · simp [observe, hrow]
    · rcases hrows la' hla' with ⟨la, hla, hid, hfollows⟩ | ⟨hnew, hstatus, hwritten⟩
      · obtain ⟨o, horigin, hkept⟩ := h.kept la hla
        rw [← hid, horigin, Option.getD_some]
        exact hfollows o horigin hkept
      · have hunknown : r.origins la'.id = none := by
          cases horigin : r.origins la'.id with
          | none => rfl
          | some o =>
            obtain ⟨la, hla, hid⟩ := h.known la'.id o horigin
            exact absurd hid (hnew la hla)
        rw [hunknown, Option.getD_none]
        exact Kept.created hstatus hwritten
  · intro id o horigin
    cases hrow : AsyncDBGatewayService.rowOf db id with
    | some la => exact ⟨la, AsyncDBGatewayService.rowOf_iff.mp hrow⟩
    | none =>
      simp only [observe, hrow] at horigin
      obtain ⟨la, hla, rfl⟩ := h.known id o horigin
      obtain ⟨la', hla', hid⟩ := hstay la hla
      exact absurd (List.find?_eq_none.mp hrow la' hla') (by simp [hid])

/-- Time passes, or a call fails. -/
theorem Inv.unchanged (h : Inv r) (hle : r.now ≤ now) :
    Inv { db := r.db, now, origins := observe now r.origins r.db } :=
  h.of_follows (fun la hla => ⟨la, hla, rfl⟩) fun la hla =>
    .inl ⟨la, hla, rfl, fun _ _ hkept => hkept.later hle⟩

/-- An update that keeps ids and is right on the rows that it selects. -/
theorem Inv.of_updateWhere (h : Inv r) {p : LoanApplicationRecord → Bool}
    {f : LoanApplicationRecord → LoanApplicationRecord}
    (hdb : db.loanApplications.rows = updateWhere p f r.db.loanApplications.rows)
    (hf : ∀ la ∈ r.db.loanApplications.rows, p la = true → (f la).id = la.id ∧
      ∀ o, r.origins la.id = some o → Kept r.now o la →
        Kept r.now (o.observe r.now (f la).status) (f la)) :
    Inv { db, now := r.now, origins := observe r.now r.origins db } := by
  apply h.of_follows
  · intro la hla
    cases hp : p la with
    | true => exact ⟨f la, hdb ▸ mem_updateWhere.mpr ⟨la, hla, .inl ⟨hp, rfl⟩⟩, (hf la hla hp).1⟩
    | false => exact ⟨la, hdb ▸ mem_updateWhere.mpr ⟨la, hla, .inr ⟨hp, rfl⟩⟩, rfl⟩
  · intro la' hla'
    rcases mem_updateWhere.mp (hdb ▸ hla') with ⟨la, hla, ⟨hp, rfl⟩ | ⟨-, rfl⟩⟩
    · exact .inl ⟨la, hla, (hf la hla hp).1.symm, (hf la hla hp).2⟩
    · exact .inl ⟨la', hla, rfl, fun _ _ hkept => hkept.later (Int.le_refl _)⟩

/-! ## The operations -/

theorem Inv.create (h : Inv r) {request : LoanApplicationRequest} {appId : Uuid}
    {response : LoanApplicationResponse}
    (hcall : AsyncDBGatewayService.initiateApplication r.db request appId r.now =
      .ok (response, db)) : Inv { db, now := r.now, origins := observe r.now r.origins db } := by
  rcases AsyncDBGatewayService.initiateApplication_ok hcall with rfl | ⟨record, hrecord, hrows⟩
  · exact h.unchanged (Int.le_refl _)
  obtain ⟨hstatus, hwritten⟩ := AsyncDBGatewayService.newRecord_ok hrecord
  apply h.of_follows
  · exact fun la hla => ⟨la, hrows ▸ List.mem_append_left _ hla, rfl⟩
  · intro la' hla'
    rw [hrows, List.mem_append, List.mem_singleton] at hla'
    rcases hla' with hla' | rfl
    · exact .inl ⟨la', hla', rfl, fun _ _ hkept => hkept.later (Int.le_refl _)⟩
    · refine .inr ⟨fun la hla hid => ?_, hstatus, hwritten⟩
      have hids := db.loanApplications.valid.1
      rw [hrows, List.map_append, List.nodup_append'] at hids
      exact hids.2.2 (List.mem_map_of_mem hla) (by simp [hid])

theorem Inv.erase (h : Inv r) {dataPrincipalId : String}
    (hadmits : r.Admits (.erase dataPrincipalId)) {result : PlatformDataSource.ErasureResult}
    (hcall : PlatformDataSource.erase r.db dataPrincipalId r.now = .ok (result, db)) :
    Inv { db, now := r.now, origins := observe r.now r.origins db } := by
  rcases PlatformDataSource.erase_ok_iff.mp hcall with ⟨-, -, rfl⟩ | ⟨hhold, -, herased⟩
  · exact h.unchanged (Int.le_refl _)
  refine h.of_updateWhere herased.loanApplications fun la hla hvendor => ⟨rfl, ?_⟩
  intro o horigin hkept
  exact hkept.pseudonymized (hadmits hhold la hla (of_decide_eq_true hvendor) o horigin) rfl rfl

theorem Inv.enforce (h : Inv r) {count : Nat}
    (hcall : LoanApplicationRetentionHandler.enforce r.db 2555 r.now = .ok (count, db)) :
    Inv { db, now := r.now, origins := observe r.now r.origins db } := by
  obtain ⟨count', db', hresult, -, -, hrows⟩ :=
    LoanApplicationRetentionHandler.enforce_ok r.db 2555 r.now
  obtain ⟨-, rfl⟩ := Prod.mk.inj (Except.ok.inj (hcall.symm.trans hresult))
  refine h.of_updateWhere hrows fun la hla hselects => ⟨rfl, ?_⟩
  intro o _ hkept
  exact hkept.pseudonymized (hkept.not_retained_of_selects hselects) rfl rfl

theorem Inv.updateGate (h : Inv r) {driver : Driver} {applicationId : Uuid} {gate status : String}
    {extra : Extra} {changed : Bool}
    (hadmits : r.Admits (.updateGate applicationId gate status extra changed))
    (hcall : AsyncDBGatewayService.updateGate driver r.db applicationId gate status extra changed
      r.now = .ok db) : Inv { db, now := r.now, origins := observe r.now r.origins db } := by
  obtain ⟨record, record', hrow, hupdate, hrows⟩ := AsyncDBGatewayService.updateGate_ok hcall
  obtain ⟨hmem, rfl⟩ := AsyncDBGatewayService.rowOf_iff.mp hrow
  refine h.of_updateWhere hrows fun la hla hid => ?_
  obtain rfl := List.inj_on_of_nodup_map r.db.loanApplications.valid.1 hla hmem (of_decide_eq_true hid)
  refine ⟨(AsyncDBGatewayService.updateRecord_ok hupdate).1, fun o horigin hkept => ?_⟩
  exact hkept.updated hupdate (hadmits la hrow o horigin)

theorem Inv.committed (h : Inv r) {α : Type} {call : Except String (α × Database)}
    (hcall : ∀ result db', call = .ok (result, db') →
      Inv { db := db', now := r.now, origins := observe r.now r.origins db' }) :
    Inv { db := Gateway.committed r.db call, now := r.now,
          origins := observe r.now r.origins (Gateway.committed r.db call) } := by
  cases call with
  | error _ => exact h.unchanged (Int.le_refl _)
  | ok result => exact hcall result.1 result.2 rfl

end Step

/-- **Step lemma.** -/
theorem inv_step (driver : Driver) (r : LoanBook) (op : LoanBookOp) (h : Inv r)
    (hadmits : r.Admits op) : Inv (r.step driver op) := by
  cases op with
  | create request appId => exact h.committed fun _ _ hcall => h.create hcall
  | updateGate applicationId gate status extra changed =>
    refine h.committed fun _ db' hcall => ?_
    cases hupdate : AsyncDBGatewayService.updateGate driver r.db applicationId gate status extra
        changed r.now with
    | error _ =>
      rw [hupdate] at hcall
      cases hcall
    | ok db =>
      rw [hupdate] at hcall
      cases hcall
      exact h.updateGate hadmits hupdate
  | erase dataPrincipalId => exact h.committed fun _ _ hcall => h.erase hadmits hcall
  | enforce => exact h.committed fun _ _ hcall => h.enforce hcall
  | tick duration => exact h.unchanged (Int.le_add_of_nonneg_right (Int.natCast_nonneg duration))

/-- The book before its first application. -/
def start (vendors : Table VendorRecord VendorsValid) (consents : Table ConsentRecord ConsentsValid)
    (now : Time) : LoanBook where
  db := { vendors, consents }
  now
  origins _ := none

theorem inv_start (vendors : Table VendorRecord VendorsValid)
    (consents : Table ConsentRecord ConsentsValid) (now : Time) : Inv (start vendors consents now) where
  kept la hla := by cases hla
  known id o horigin := by cases horigin

open Durable.Guarded (Admitted inv_foldl)

/-- The hold is kept in every run whose operations are all admitted. -/
theorem legalHold_of_admitted (driver : Driver) (vendors : Table VendorRecord VendorsValid)
    (consents : Table ConsentRecord ConsentsValid) (now : Time) (ops : List LoanBookOp)
    (hops : Admitted (step driver) Admits (start vendors consents now) ops) :
    LegalHold (ops.foldl (step driver) (start vendors consents now)) :=
  (inv_foldl (inv_step driver) (inv_start vendors consents now) hops).legalHold

/-! One application, disbursed and closed, and its vendor's request for erasure. -/

def empty : LoanBook := start ⟨[], vendorsValid_nil⟩ ⟨[], consentsValid_nil⟩ 0

/-- A loan that is closed `age` days after its disbursement. -/
def closedLoan (age : Nat) : List LoanBookOp :=
  [.create (keyedRequest "key-1") ⟨1⟩, .updateGate ⟨1⟩ "d4_lender_underwriting" "disbursed" {} true,
    .tick (age * 86400000000), .updateGate ⟨1⟩ "d4_lender_underwriting" "closed" {} true,
    .tick 86400000000]

/-- Refused a day after the closure of a young loan; retention rewrites the loan in the end. -/
def heldRun : List LoanBookOp :=
  closedLoan 365 ++ [.erase "29ABCDE1234F1Z5", .tick (2555 * 86400000000), .enforce]

theorem legalHold_of_admitted_held : LegalHold (heldRun.foldl (step sampleDriver) empty) :=
  legalHold_of_admitted sampleDriver _ _ 0 heldRun (by decide +kernel)

/-- Seven years after the application, but a day after its closure. -/
def erasedRun : List LoanBookOp := closedLoan 2555 ++ [.erase "29ABCDE1234F1Z5"]

theorem erasedRun_not_legalHold : ¬ LegalHold (erasedRun.foldl (step sampleDriver) empty) := by
  decide +kernel

end LoanBook

end OcenPlatform.Gateway
