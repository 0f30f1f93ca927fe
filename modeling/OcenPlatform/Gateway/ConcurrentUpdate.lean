import Mathlib.Data.Bool.Count
import OcenPlatform.Durable.Interleaving
import OcenPlatform.Gateway.Backends

/-! Two concurrent calls of `update_gate` on one row, under read committed: each loads the row
and, at its commit, writes the columns that differ from what it has loaded. -/

namespace OcenPlatform.Gateway.AsyncDBGatewayService

open Db
open Durable.Interleaving (State turn run turn_locals_self turn_locals_ne run_nil run_cons)

/-- In which columns of `extra` the session finds another value than it has loaded. -/
structure Changes where
  amountSanctioned : Bool := false
  selectedLenderId : Bool := false
  offerData : Bool := false

def Changes.any (changes : Changes) : Bool :=
  changes.amountSanctioned || changes.selectedLenderId || changes.offerData

theorem noExtra_named : ∀ p ∈ ([] : PyDict String Value),
    p.1 ∉ ["self", "application_id", "gate", "status"] := List.forall_mem_nil _

def noExtra : Extra := ⟨[], List.nodup_nil, noExtra_named⟩

/-- A call, with the time of its transaction. -/
structure UpdateCall where
  gate : String
  status : String
  extra : Extra := noExtra
  changes : Changes := {}
  now : Time := 0

/-- What a call does next. -/
inductive UpdatePhase where
  | load
  | commit (loaded : LoanApplicationRecord)
  | done (result : Except String Unit)

/-- A column that is written only if it has changed. -/
def written {α : Type} (changed : Prop) [Decidable changed] (write : Except String α) (old : α) :
    Except String α := if changed then write else .ok old

/-- What is not written has the value that would be written. -/
theorem written_eq {α : Type} {changed : Prop} [Decidable changed] {write : Except String α} {old : α}
    (h : ¬ changed → write = .ok old) : written changed write old = write := by
  unfold written
  split
  · rfl
  · rename_i hsame
    exact (h hsame).symm

namespace UpdateCall

/-- Something is to be written. -/
def Touches (call : UpdateCall) (loaded : LoanApplicationRecord) : Prop :=
  some call.gate ≠ loaded.currentGate ∨ call.status ≠ loaded.status ∨ call.changes.any = true

instance (call : UpdateCall) (loaded : LoanApplicationRecord) : Decidable (call.Touches loaded) :=
  inferInstanceAs (Decidable (_ ∨ _ ∨ _))

/-- What the UPDATE makes of the row as it is at the commit. -/
def flush (driver : Driver) (call : UpdateCall) (loaded current : LoanApplicationRecord) :
    Except String LoanApplicationRecord := do
  return { current with
    currentGate := ← written (some call.gate ≠ loaded.currentGate) (some <$> varchar 50 call.gate)
      current.currentGate
    status := ← written (call.status ≠ loaded.status) (varchar 50 call.status) current.status
    amountSanctioned := ← written (call.changes.amountSanctioned = true)
      (assigned call.extra "amount_sanctioned" (driver.numeric · >>= numeric)
        current.amountSanctioned) current.amountSanctioned
    selectedLenderId := ← written (call.changes.selectedLenderId = true)
      (assigned call.extra "selected_lender_id" (driver.text · >>= varchar 100)
        current.selectedLenderId) current.selectedLenderId
    offerData := ← written (call.changes.offerData = true)
      (assigned call.extra "offer_data" driver.jsonb current.offerData) current.offerData
    updatedAt := if call.Touches loaded then call.now else current.updatedAt }

/-- A turn of the call. -/
def act (driver : Driver) (applicationId : Uuid) (call : UpdateCall) :
    UpdatePhase → Database → UpdatePhase × Database
  | .load, db =>
    match record? db applicationId with
    | .error e => (.done (.error e), db)
    | .ok none => (.done (.error (notFound applicationId)), db)
    | .ok (some record) => (.commit record, db)
  | .commit loaded, db =>
    match rowOf db loaded.id with
    | none => (.done (if call.Touches loaded then .error "StaleDataError" else .ok ()), db)
    | some current =>
      match call.flush driver loaded current with
      | .error e => (.done (.error e), db)
      | .ok record =>
        match Table.write
          (updateWhere (fun la => la.id = loaded.id) (fun _ => record) db.loanApplications.rows) with
        | .error e => (.done (.error e), db)
        | .ok loanApplications => (.done (.ok ()), { db with loanApplications })
  | .done result, db => (.done result, db)

end UpdateCall

/-- Both columns hold what a `String(50)` column can hold. -/
structure FitsColumns (row : LoanApplicationRecord) : Prop where
  gate : ∀ gate, row.currentGate = some gate → varchar 50 gate = .ok gate
  status : varchar 50 row.status = .ok row.status

section Alone

variable {driver : Driver} {call : UpdateCall} {row : LoanApplicationRecord}

/-- Alone, the flush writes the record of `update_gate`. -/
theorem flush_alone (hfits : FitsColumns row)
    (hamount : ¬ call.changes.amountSanctioned = true →
      assigned call.extra "amount_sanctioned" (driver.numeric · >>= numeric) row.amountSanctioned =
        .ok row.amountSanctioned)
    (hlender : ¬ call.changes.selectedLenderId = true →
      assigned call.extra "selected_lender_id" (driver.text · >>= varchar 100)
        row.selectedLenderId = .ok row.selectedLenderId)
    (hoffer : ¬ call.changes.offerData = true →
      assigned call.extra "offer_data" driver.jsonb row.offerData = .ok row.offerData) :
    call.flush driver row row =
      updateRecord driver row call.gate call.status call.extra call.changes.any call.now := by
  have hgate : ¬ some call.gate ≠ row.currentGate →
      some <$> varchar 50 call.gate = .ok row.currentGate := by
    intro heq
    rw [not_not] at heq
    rw [hfits.gate call.gate heq.symm, ← heq]
    rfl
  have hstatus : ¬ call.status ≠ row.status → varchar 50 call.status = .ok row.status := by
    intro heq
    rw [not_not] at heq
    rw [heq, hfits.status]
  unfold UpdateCall.flush updateRecord
  rw [written_eq hgate, written_eq hstatus, written_eq hamount, written_eq hlender, written_eq hoffer]
  cases varchar 50 call.gate <;> rfl

end Alone

/-! ## One commit -/

/-- The columns take what the call writes. -/
structure UpdateCall.Writable (driver : Driver) (call : UpdateCall) : Prop where
  gate : ∃ gate, varchar 50 call.gate = .ok gate
  status : ∃ status, varchar 50 call.status = .ok status
  amountSanctioned : call.changes.amountSanctioned = true → ∃ a,
    assigned call.extra "amount_sanctioned" (driver.numeric · >>= numeric) none = .ok a
  selectedLenderId : call.changes.selectedLenderId = true → ∃ a,
    assigned call.extra "selected_lender_id" (driver.text · >>= varchar 100) none = .ok a
  offerData : call.changes.offerData = true → ∃ a,
    assigned call.extra "offer_data" driver.jsonb none = .ok a

/-- What a flush has made of the row, as far as the two columns go. -/
structure Flushed (call : UpdateCall) (loaded current record : LoanApplicationRecord) : Prop where
  id : record.id = current.id
  key : record.idempotencyKey = current.idempotencyKey
  gate : written (some call.gate ≠ loaded.currentGate) (some <$> varchar 50 call.gate)
    current.currentGate = .ok record.currentGate
  status : written (call.status ≠ loaded.status) (varchar 50 call.status) current.status =
    .ok record.status

/-- The row has the gate and the status of the call, as the columns take them. -/
def ShowsPair (call : UpdateCall) (row : LoanApplicationRecord) : Prop :=
  some <$> varchar 50 call.gate = .ok row.currentGate ∧ varchar 50 call.status = .ok row.status

section Flush

variable {driver : Driver} {call : UpdateCall} {loaded current record : LoanApplicationRecord}

/-- Whether a value can be assigned does not depend on the old one. -/
theorem assigned_ok {α : Type} {extra : Extra} {key : String} {write : Value → Except String α}
    {old a : Option α} (h : assigned extra key write old = .ok a) (old' : Option α) :
    ∃ a, assigned extra key write old' = .ok a := by
  unfold assigned at h ⊢
  split
  · exact ⟨old', rfl⟩
  · exact ⟨none, rfl⟩
  · rename_i v hne hv
    rw [hv] at h
    cases v with
    | none => exact absurd rfl hne
    | _ => exact ⟨a, h⟩

theorem written_ok {α : Type} {changed : Prop} [Decidable changed] {write : Except String α} {old : α}
    (h : changed → ∃ a, write = .ok a) : ∃ a, written changed write old = .ok a := by
  unfold written
  split
  · rename_i hchanged
    exact h hchanged
  · exact ⟨old, rfl⟩

theorem flush_ok (h : call.Writable driver) (loaded current : LoanApplicationRecord) :
    ∃ record, call.flush driver loaded current = .ok record := by
  obtain ⟨gate, hgate⟩ := h.gate
  obtain ⟨g, hg⟩ := @written_ok _ (some call.gate ≠ loaded.currentGate) _
    (some <$> varchar 50 call.gate) current.currentGate fun _ => ⟨some gate, by rw [hgate]; rfl⟩
  obtain ⟨s, hs⟩ := @written_ok _ (call.status ≠ loaded.status) _ _ current.status fun _ => h.status
  obtain ⟨a, ha⟩ := @written_ok _ (call.changes.amountSanctioned = true) _ _ current.amountSanctioned
    fun hchanged => assigned_ok (h.amountSanctioned hchanged).choose_spec current.amountSanctioned
  obtain ⟨l, hl⟩ := @written_ok _ (call.changes.selectedLenderId = true) _ _ current.selectedLenderId
    fun hchanged => assigned_ok (h.selectedLenderId hchanged).choose_spec current.selectedLenderId
  obtain ⟨o, ho⟩ := @written_ok _ (call.changes.offerData = true) _ _ current.offerData
    fun hchanged => assigned_ok (h.offerData hchanged).choose_spec current.offerData
  unfold UpdateCall.flush
  rw [hg, hs, ha, hl, ho]
  exact ⟨_, rfl⟩

theorem writable_of_written {α : Type} {changed : Prop} [Decidable changed] {write : Except String α}
    {old a : α} (h : written changed write old = .ok a) (hchanged : changed) : write = .ok a := by
  rwa [written, if_pos hchanged] at h

/-- A text that the row has is one that the column takes. -/
theorem flush_inv (hfits : FitsColumns loaded) (h : call.flush driver loaded current = .ok record) :
    call.Writable driver ∧ Flushed call loaded current record := by
  obtain ⟨gate, hgate, h⟩ := exists_of_bind_ok h
  obtain ⟨status, hstatus, h⟩ := exists_of_bind_ok h
  obtain ⟨amount, hamount, h⟩ := exists_of_bind_ok h
  obtain ⟨lender, hlender, h⟩ := exists_of_bind_ok h
  obtain ⟨offer, hoffer, h⟩ := exists_of_bind_ok h
  obtain rfl := Except.ok.inj h
  refine ⟨⟨?_, ?_, fun hchanged => ?_, fun hchanged => ?_, fun hchanged => ?_⟩, rfl, rfl, hgate, hstatus⟩
  · by_cases hsame : some call.gate = loaded.currentGate
    · exact ⟨_, hfits.gate call.gate hsame.symm⟩
    · have hwrite := writable_of_written hgate hsame
      cases hvarchar : varchar 50 call.gate with
      | ok g => exact ⟨g, rfl⟩
      | error e =>
        rw [hvarchar] at hwrite
        cases hwrite
  · by_cases hsame : call.status = loaded.status
    · exact ⟨_, hsame ▸ hfits.status⟩
    · exact ⟨_, writable_of_written hstatus hsame⟩
  · exact assigned_ok (writable_of_written hamount hchanged) none
  · exact assigned_ok (writable_of_written hlender hchanged) none
  · exact assigned_ok (writable_of_written hoffer hchanged) none

/-- Nobody came in between: the row has the pair of the call. -/
theorem Flushed.showsPair (hfits : FitsColumns loaded) (h : Flushed call loaded loaded record) :
    ShowsPair call record := by
  obtain ⟨-, -, hgate, hstatus⟩ := h
  rw [written_eq] at hgate hstatus
  · exact ⟨hgate, hstatus⟩
  · intro heq
    rw [not_not] at heq
    rw [heq, hfits.status]
  · intro heq
    rw [not_not] at heq
    rw [hfits.gate call.gate heq.symm, ← heq]
    rfl

theorem ShowsPair.fitsColumns (h : ShowsPair call record) : FitsColumns record where
  gate gate hgate := by
    obtain ⟨hpair, -⟩ := h
    cases hvarchar : varchar 50 call.gate with
    | error e =>
      rw [hvarchar] at hpair
      cases hpair
    | ok stored =>
      rw [hvarchar, hgate] at hpair
      obtain rfl := Option.some.inj (Except.ok.inj hpair)
      exact varchar_stored hvarchar
  status := varchar_stored h.2

end Flush

/-! ## Two commits on one loaded row -/

/-- The calls disagree on both columns, and the second changes exactly one of them. -/
def Mixes (row : LoanApplicationRecord) (first second : UpdateCall) : Prop :=
  varchar 50 first.gate ≠ varchar 50 second.gate ∧
    varchar 50 first.status ≠ varchar 50 second.status ∧
    ¬ (some second.gate = row.currentGate ↔ second.status = row.status)

theorem map_some_inj {x y : Except String String} (h : some <$> x = some <$> y) : x = y := by
  cases x with
  | error e =>
    cases y with
    | error e' => exact congrArg _ (Except.error.inj h)
    | ok s => cases h
  | ok s =>
    cases y with
    | error e => cases h
    | ok s' => exact congrArg _ (Option.some.inj (Except.ok.inj h))

/-- The second keeps what it has not changed as the first has left it. -/
theorem showsPair_iff_not_mixes {row row' row'' : LoanApplicationRecord} {first second : UpdateCall}
    (hfirst : ShowsPair first row') (hsecond : Flushed second row row' row'') :
    (ShowsPair first row'' ∨ ShowsPair second row'') ↔ ¬ Mixes row first second := by
  obtain ⟨-, -, hgate, hstatus⟩ := hsecond
  obtain ⟨hfirstGate, hfirstStatus⟩ := hfirst
  unfold written at hgate hstatus
  by_cases hg : some second.gate = row.currentGate <;> by_cases hs : second.status = row.status
  · rw [if_neg (not_not.mpr hg)] at hgate
    rw [if_neg (not_not.mpr hs)] at hstatus
    refine iff_of_true (.inl ⟨hfirstGate.trans hgate, hfirstStatus.trans hstatus⟩) ?_
    exact fun hmixes => hmixes.2.2 (iff_of_true hg hs)
  · rw [if_neg (not_not.mpr hg)] at hgate
    rw [if_pos hs] at hstatus
    constructor
    · rintro (⟨-, hpair⟩ | ⟨hpair, -⟩) ⟨hgates, hstatuses, -⟩
      · exact hstatuses (hpair.trans hstatus.symm)
      · exact hgates (map_some_inj ((hfirstGate.trans hgate).trans hpair.symm))
    · intro hnot
      by_cases hgates : varchar 50 first.gate = varchar 50 second.gate
      · exact .inr ⟨hgates ▸ hfirstGate.trans hgate, hstatus⟩
      · by_cases hstatuses : varchar 50 first.status = varchar 50 second.status
        · exact .inl ⟨hfirstGate.trans hgate, hstatuses ▸ hstatus⟩
        · exact absurd ⟨hgates, hstatuses, fun hiff => hs (hiff.mp hg)⟩ hnot
  · rw [if_pos hg] at hgate
    rw [if_neg (not_not.mpr hs)] at hstatus
    constructor
    · rintro (⟨hpair, -⟩ | ⟨-, hpair⟩) ⟨hgates, hstatuses, -⟩
      · exact hgates (map_some_inj (hpair.trans hgate.symm))
      · exact hstatuses ((hfirstStatus.trans hstatus).trans hpair.symm)
    · intro hnot
      by_cases hstatuses : varchar 50 first.status = varchar 50 second.status
      · exact .inr ⟨hgate, hstatuses ▸ hfirstStatus.trans hstatus⟩
      · by_cases hgates : varchar 50 first.gate = varchar 50 second.gate
        · exact .inl ⟨hgates ▸ hgate, hfirstStatus.trans hstatus⟩
        · exact absurd ⟨hgates, hstatuses, fun hiff => hg (hiff.mpr hs)⟩ hnot
  · rw [if_pos hg] at hgate
    rw [if_pos hs] at hstatus
    refine iff_of_true (.inr ⟨hgate, hstatus⟩) ?_
    exact fun hmixes => hmixes.2.2 (iff_of_false hg hs)

/-! ## Runs -/

/-- Both calls begin on the database. -/
def updating (driver : Driver) (applicationId : Uuid) (calls : Bool → UpdateCall) (db : Database)
    (schedule : List Bool) : State Bool UpdatePhase Database :=
  run (fun k => (calls k).act driver applicationId) ⟨fun _ => .load, db⟩ schedule

/-- The pair that is left is that of a call that has returned. -/
def LeavesPair (applicationId : Uuid) (calls : Bool → UpdateCall)
    (s : State Bool UpdatePhase Database) : Prop :=
  ∃ k row, s.locals k = .done (.ok ()) ∧ rowOf s.shared applicationId = some row ∧
    ShowsPair (calls k) row

/-- The end of a call that has loaded one row and commits onto another. -/
def Committed (driver : Driver) (call : UpdateCall) (loaded current : LoanApplicationRecord)
    (result : Except String Unit) (row : LoanApplicationRecord) : Prop :=
  (call.Writable driver ∧ result = .ok () ∧ Flushed call loaded current row) ∨
    (¬ call.Writable driver ∧ result ≠ .ok () ∧ row = current)

section Run

variable {driver : Driver} {applicationId : Uuid} {calls : Bool → UpdateCall} {db : Database}
  {s : State Bool UpdatePhase Database} {row : LoanApplicationRecord} {k : Bool}

theorem turn_load (hphase : s.locals k = .load) (hrow : rowOf s.shared applicationId = some row) :
    turn (fun k => (calls k).act driver applicationId) s k =
      ⟨Function.update s.locals k (.commit row), s.shared⟩ := by
  simp only [turn, hphase, UpdateCall.act, record?_eq, hrow]

variable (driver calls) in
theorem turn_commit {loaded : LoanApplicationRecord} (hphase : s.locals k = .commit loaded)
    (hid : loaded.id = applicationId) (hfits : FitsColumns loaded)
    (hrow : rowOf s.shared applicationId = some row) : ∃ db' row' result,
      turn (fun k => (calls k).act driver applicationId) s k =
        ⟨Function.update s.locals k (.done result), db'⟩ ∧
      rowOf db' applicationId = some row' ∧ Committed driver (calls k) loaded row result row' := by
  subst hid
  obtain ⟨hmem, hrowId⟩ := rowOf_iff.mp hrow
  cases hflush : (calls k).flush driver loaded row with
  | error e =>
    refine ⟨s.shared, row, .error e, ?_, hrow, .inr ⟨fun hwritable => ?_, nofun, rfl⟩⟩
    · simp only [turn, hphase, UpdateCall.act, hrow, hflush]
    · obtain ⟨record, hok⟩ := flush_ok hwritable loaded row
      rw [hflush] at hok
      cases hok
  | ok record =>
    obtain ⟨hwritable, hflushed⟩ := flush_inv hfits hflush
    have hsame : ∀ la ∈ s.shared.loanApplications.rows, la.id = loaded.id → la = row := by
      intro la hla hlaId
      exact Option.some.inj ((rowOf_iff.mpr ⟨hla, hlaId⟩).symm.trans hrow)
    have hvalid : LoanApplicationsValid (updateWhere (fun la => la.id = loaded.id)
        (fun _ => record) s.shared.loanApplications.rows) := by
      refine loanApplicationsValid_updateWhere s.shared.loanApplications.valid ?_ ?_
      · intro la hla hlaId
        rw [hsame la hla (of_decide_eq_true hlaId), hflushed.id]
      · intro la hla hlaId
        rw [hsame la hla (of_decide_eq_true hlaId), hflushed.key]
    obtain ⟨table, hwrite⟩ := write_of_valid hvalid
    refine ⟨{ s.shared with loanApplications := table }, record, .ok (), ?_, ?_,
      .inl ⟨hwritable, rfl, hflushed⟩⟩
    · simp only [turn, hphase, UpdateCall.act, hrow, hflush, hwrite]
    · refine rowOf_iff.mpr ⟨?_, hflushed.id.trans hrowId⟩
      rw [write_ok.mp hwrite]
      exact mem_updateWhere.mpr ⟨row, hmem, .inl ⟨decide_eq_true hrowId, rfl⟩⟩

theorem Committed.fitsColumns {call : UpdateCall} {result : Except String Unit}
    {row' : LoanApplicationRecord} (h : Committed driver call row row result row')
    (hfits : FitsColumns row) : FitsColumns row' := by
  rcases h with ⟨-, -, hflushed⟩ | ⟨-, -, rfl⟩
  · exact (hflushed.showsPair hfits).fitsColumns
  · exact hfits

variable (hrow : rowOf db applicationId = some row) (hfits : FitsColumns row)
include hrow hfits

variable (driver calls) in
/-- One call after the other. -/
theorem updating_sequential (a : Bool) : ∃ row' row'' result result',
    (updating driver applicationId calls db [a, a, !a, !a]).locals a = .done result ∧
    (updating driver applicationId calls db [a, a, !a, !a]).locals (!a) = .done result' ∧
    rowOf (updating driver applicationId calls db [a, a, !a, !a]).shared applicationId = some row'' ∧
    Committed driver (calls a) row row result row' ∧
    Committed driver (calls !a) row' row' result' row'' := by
  have hne : (!a) ≠ a := by cases a <;> decide
  rw [updating, run_cons, run_cons, run_cons, run_cons, run_nil,
    turn_load (s := ⟨fun _ => .load, db⟩) rfl hrow]
  obtain ⟨db', row', result, hturn, hrow', hcommitted⟩ :=
    turn_commit driver calls (s := ⟨Function.update (fun _ => .load) a (.commit row), db⟩) (k := a)
      (by simp) (rowOf_iff.mp hrow).2 hfits hrow
  rw [hturn, Function.update_idem]
  rw [turn_load (s := ⟨Function.update (fun _ => .load) a (.done result), db'⟩) (k := !a)
    (by simp [hne]) hrow']
  obtain ⟨db'', row'', result', hturn', hrow'', hcommitted'⟩ :=
    turn_commit driver calls (s := ⟨Function.update (Function.update (fun _ => .load) a (.done result)) (!a)
      (.commit row'), db'⟩) (k := !a) (Function.update_self ..)
      (rowOf_iff.mp hrow').2 (hcommitted.fitsColumns hfits) hrow'
  rw [hturn', Function.update_idem]
  refine ⟨row', row'', result, result', ?_, Function.update_self .., hrow'', hcommitted, hcommitted'⟩
  exact (Function.update_of_ne hne.symm ..).trans (Function.update_self ..)

variable (driver calls) in
/-- Both load before either commits. -/
theorem updating_overlapping (a b : Bool) : ∃ row' row'' result result',
    (updating driver applicationId calls db [a, !a, b, !b]).locals b = .done result ∧
    (updating driver applicationId calls db [a, !a, b, !b]).locals (!b) = .done result' ∧
    rowOf (updating driver applicationId calls db [a, !a, b, !b]).shared applicationId = some row'' ∧
    Committed driver (calls b) row row result row' ∧
    Committed driver (calls !b) row row' result' row'' := by
  have hne : (!b) ≠ b := by cases b <;> decide
  have hother : (!a) ≠ a := by cases a <;> decide
  rw [updating, run_cons, run_cons, run_cons, run_cons, run_nil,
    turn_load (s := ⟨fun _ => .load, db⟩) rfl hrow,
    turn_load (s := ⟨Function.update (fun _ => .load) a (.commit row), db⟩) (k := !a)
      (by simp [hother]) hrow]
  have hloaded : ∀ k, Function.update (Function.update (fun _ => UpdatePhase.load) a (.commit row)) (!a)
      (.commit row) k = .commit row := by
    intro k
    cases a <;> cases k <;> rfl
  generalize Function.update (Function.update (fun _ => UpdatePhase.load) a (.commit row)) (!a)
    (.commit row) = locals at hloaded ⊢
  obtain ⟨db', row', result, hturn, hrow', hcommitted⟩ := turn_commit driver calls (s := ⟨locals, db⟩) (k := b)
    (hloaded b) (rowOf_iff.mp hrow).2 hfits hrow
  rw [hturn]
  obtain ⟨db'', row'', result', hturn', hrow'', hcommitted'⟩ :=
    turn_commit driver calls (s := ⟨Function.update locals b (.done result), db'⟩) (k := !b)
      ((Function.update_of_ne hne ..).trans (hloaded (!b)))
      (rowOf_iff.mp hrow).2 hfits hrow'
  rw [hturn']
  refine ⟨row', row'', result, result', ?_, Function.update_self .., hrow'', hcommitted, hcommitted'⟩
  exact (Function.update_of_ne hne.symm ..).trans (Function.update_self ..)

end Run

/-! ## When a pair is left whole -/

/-- Two turns of each call: one call after the other, or both load first. -/
theorem turns_cases {schedule : List Bool} (htrue : schedule.count true = 2)
    (hfalse : schedule.count false = 2) :
    (∃ a, schedule = [a, a, !a, !a]) ∨ ∃ a b, schedule = [a, !a, b, !b] := by
  have hlength := List.count_true_add_count_false schedule
  rw [htrue, hfalse] at hlength
  obtain ⟨w, x, y, z, rfl⟩ := List.length_eq_four.mp hlength.symm
  revert w x y z
  decide

section Exactly

variable {driver : Driver} {applicationId : Uuid} {calls : Bool → UpdateCall}
  {s : State Bool UpdatePhase Database} {row loaded row' row'' : LoanApplicationRecord} {b : Bool}
  {result result' : Except String Unit}

theorem exists_bool (b : Bool) {P : Bool → Prop} : (∃ k, P k) ↔ P b ∨ P (!b) := by
  cases b <;> simp [or_comm]

/-- A call that is refused leaves the pair to the other one. -/
theorem leavesPair_committed (hb : s.locals b = .done result) (hother : s.locals (!b) = .done result')
    (hrow : rowOf s.shared applicationId = some row'') (hfits : FitsColumns row)
    (hfirst : Committed driver (calls b) row row result row')
    (hsecond : Committed driver (calls !b) loaded row' result' row'')
    (hloaded : loaded = row ∨ loaded = row') :
    LeavesPair applicationId calls s ↔ (∃ k, (calls k).Writable driver) ∧
      ((calls b).Writable driver → (calls !b).Writable driver →
        ShowsPair (calls b) row'' ∨ ShowsPair (calls !b) row'') := by
  have hleaves : LeavesPair applicationId calls s ↔
      (result = .ok () ∧ ShowsPair (calls b) row'') ∨ (result' = .ok () ∧ ShowsPair (calls !b) row'') := by
    rw [LeavesPair, exists_bool b]
    simp [hb, hother, hrow]
  rw [hleaves, exists_bool b]
  rcases hfirst with ⟨hwritable, rfl, hflushed⟩ | ⟨hrefused, hresult, rfl⟩
  · rcases hsecond with ⟨hwritable', rfl, -⟩ | ⟨hrefused', -, rfl⟩
    · simp [hwritable, hwritable']
    · simp [hwritable, hrefused', hflushed.showsPair hfits]
  · obtain rfl : loaded = row' := hloaded.elim id id
    rcases hsecond with ⟨hwritable', rfl, hflushed'⟩ | ⟨hrefused', hresult', rfl⟩
    · simp [hwritable', hrefused, hflushed'.showsPair hfits]
    · simp [hrefused, hrefused', hresult, hresult']

end Exactly

/-- Exactly if a call can be written and, where both can and both have loaded the row before
either commits, they agree on a column or the later one changes both or neither. -/
theorem leavesPair_iff (driver : Driver) (applicationId : Uuid) (calls : Bool → UpdateCall)
    (db : Database) (row : LoanApplicationRecord) (hrow : rowOf db applicationId = some row)
    (hfits : FitsColumns row) (schedule : List Bool) (htrue : schedule.count true = 2)
    (hfalse : schedule.count false = 2) :
    LeavesPair applicationId calls (updating driver applicationId calls db schedule) ↔
      (∃ k, (calls k).Writable driver) ∧
        ∀ a b, schedule = [a, !a, b, !b] → (calls b).Writable driver → (calls !b).Writable driver →
          ¬ Mixes row (calls b) (calls !b) := by
  rcases turns_cases htrue hfalse with ⟨a, rfl⟩ | ⟨a, b, rfl⟩
  · obtain ⟨row', row'', result, result', ha, hother, hleft, hfirst, hsecond⟩ :=
      updating_sequential driver calls hrow hfits a
    rw [leavesPair_committed ha hother hleft hfits hfirst hsecond (.inr rfl)]
    refine and_congr_right fun _ => iff_of_true (fun _ hwritable => .inr ?_) ?_
    · rcases hsecond with ⟨-, -, hflushed⟩ | ⟨hrefused, -, -⟩
      · exact hflushed.showsPair (hfirst.fitsColumns hfits)
      · exact absurd hwritable hrefused
    · intro a' b hschedule
      cases a <;> cases a' <;> simp at hschedule
  · obtain ⟨row', row'', result, result', hb, hother, hleft, hfirst, hsecond⟩ :=
      updating_overlapping driver calls hrow hfits a b
    rw [leavesPair_committed hb hother hleft hfits hfirst hsecond (.inl rfl)]
    refine and_congr_right fun _ => ?_
    have hpair : (calls b).Writable driver → (calls !b).Writable driver →
        ((ShowsPair (calls b) row'' ∨ ShowsPair (calls !b) row'') ↔
          ¬ Mixes row (calls b) (calls !b)) := by
      intro hwritable hwritable'
      rcases hfirst with ⟨-, -, hflushed⟩ | ⟨hrefused, -, -⟩
      · rcases hsecond with ⟨-, -, hflushed'⟩ | ⟨hrefused', -, -⟩
        · exact showsPair_iff_not_mixes (hflushed.showsPair hfits) hflushed'
        · exact absurd hwritable' hrefused'
      · exact absurd hwritable hrefused
    constructor
    · intro h a' b' hschedule hwritable hwritable'
      obtain ⟨-, rfl⟩ : a = a' ∧ b = b' := by simpa using hschedule
      exact (hpair hwritable hwritable').mp (h hwritable hwritable')
    · intro h hwritable hwritable'
      exact (hpair hwritable hwritable').mpr (h a b rfl hwritable hwritable')

/-! A gate that moves on while another one fails. -/

def newRow : LoanApplicationRecord := freshRecord (keyedRequest "key-1") ⟨1⟩ 0

theorem newRow_valid : LoanApplicationsValid [newRow] :=
  ⟨List.nodup_singleton _, List.nodup_singleton _⟩

def oneRow : Database where
  loanApplications := ⟨[newRow], newRow_valid⟩

/-- The row is at `d0_kind1`. -/
def twoUpdates (k : Bool) : UpdateCall where
  gate := if k then "d1_data_sufficiency" else "d0_kind1"
  status := if k then "in_progress" else "failed"

theorem twoUpdates_writable (k : Bool) : (twoUpdates k).Writable sampleDriver where
  gate := by cases k <;> exact ⟨_, varchar_of_fits (by decide) (by decide)⟩
  status := by cases k <;> exact ⟨_, varchar_of_fits (by decide) (by decide)⟩
  amountSanctioned := nofun
  selectedLenderId := nofun
  offerData := nofun

/-- One call after the other. -/
theorem leavesPair_iff_twoUpdates :
    LeavesPair ⟨1⟩ twoUpdates (updating sampleDriver ⟨1⟩ twoUpdates oneRow [true, true, false, false]) := by
  have hfits : FitsColumns newRow := by
    refine ⟨fun gate hgate => ?_, by decide +kernel⟩
    obtain rfl := Option.some.inj hgate
    decide +kernel
  refine (leavesPair_iff sampleDriver ⟨1⟩ twoUpdates oneRow newRow rfl hfits _ rfl rfl).mpr
    ⟨⟨true, twoUpdates_writable true⟩, fun a b hschedule => ?_⟩
  cases a <;> simp at hschedule

/-- Both load the row, the first moves it on and the second fails it: the gate of the one is
left with the status of the other. -/
theorem twoUpdates_mix : ¬ LeavesPair ⟨1⟩ twoUpdates
    (updating sampleDriver ⟨1⟩ twoUpdates oneRow [true, false, true, false]) := by
  rintro ⟨k, row, -, hrow, hgate, hstatus⟩
  have hpair : (rowOf (updating sampleDriver ⟨1⟩ twoUpdates oneRow [true, false, true, false]).shared
      ⟨1⟩).map (fun la => (la.currentGate, la.status)) =
        some (some "d1_data_sufficiency", "failed") := by decide +kernel
  rw [hrow, Option.map_some, Option.some.injEq, Prod.mk.injEq] at hpair
  rw [hpair.1] at hgate
  rw [hpair.2] at hstatus
  cases k with
  | true => exact absurd hstatus (by decide +kernel)
  | false => exact absurd hgate (by decide +kernel)

end OcenPlatform.Gateway.AsyncDBGatewayService
