import OcenPlatform.Durable.Interleaving
import OcenPlatform.Gateway.Backends

/-! Concurrent calls of `initiate_application` on the database, under read committed: each
selects, inserts and commits, and the others take their turns in between. -/

namespace OcenPlatform.Gateway.AsyncDBGatewayService

open Db
open Durable.Interleaving (State turn run turn_locals_self turn_locals_ne run_nil run_cons run_inv locals_inv)

/-- A call, with its `uuid.uuid4()` and the time of its transaction. -/
structure InitiateCall where
  request : LoanApplicationRequest
  appId : Uuid
  now : Time

/-- What a call does next. -/
inductive InitiatePhase where
  | select
  | insert
  | commit (record : LoanApplicationRecord)
  | done (result : Except String LoanApplicationResponse)

namespace InitiateCall

def newResponse (call : InitiateCall) : LoanApplicationResponse where
  applicationId := call.appId
  invoiceId := call.request.invoiceId
  status := "initiated"
  workflowId := some (workflowId call.appId)
  message := "Loan application initiated. D0 Kind 1 gate evaluation starting."

/-- A turn of the call. The select sees what is committed, and so does the check of the
constraints at the commit. -/
def act (call : InitiateCall) : InitiatePhase → Database → InitiatePhase × Database
  | .select, db =>
    match existing? db call.request with
    | .error e => (.done (.error e), db)
    | .ok (some existing) => (.done (.ok (existingResponse existing)), db)
    | .ok none => (.insert, db)
  | .insert, db =>
    match newRecord call.request call.appId call.now with
    | .error e => (.done (.error e), db)
    | .ok record => (.commit record, db)
  | .commit record, db =>
    match Table.write (db.loanApplications.rows ++ [record]) with
    | .error e => (.done (.error e), db)
    | .ok loanApplications => (.done (.ok call.newResponse), { db with loanApplications })
  | .done result, db => (.done result, db)

/-- Alone, the three turns are the call. -/
theorem act_alone (call : InitiateCall) (db : Database) :
    let first := call.act .select db
    let second := call.act first.1 first.2
    let third := call.act second.1 second.2
    match initiateApplication db call.request call.appId call.now with
    | .ok (response, db') => third = (.done (.ok response), db')
    | .error e => third = (.done (.error e), db) := by
  simp only [initiateApplication, bind, Except.bind, pure, Except.pure]
  cases hexisting : existing? db call.request with
  | error e => simp only [act, hexisting]
  | ok existing =>
    cases existing with
    | some la => simp only [act, hexisting]
    | none =>
      cases hrecord : newRecord call.request call.appId call.now with
      | error e => simp only [act, hexisting, hrecord]
      | ok record =>
        simp only [act, hexisting, hrecord]
        cases (Table.write (db.loanApplications.rows ++ [record]) :
          Except String (Table LoanApplicationRecord LoanApplicationsValid)) with
        | error e => rfl
        | ok table => rfl

end InitiateCall

/-! ## Runs -/

section Runs

variable {ι : Type} [DecidableEq ι]

/-- All calls begin on the database. -/
def initiating (calls : ι → InitiateCall) (db : Database) (schedule : List ι) :
    State ι InitiatePhase Database :=
  run (fun i => (calls i).act) ⟨fun _ => .select, db⟩ schedule

/-- Every call has returned or raised. -/
def Complete (s : State ι InitiatePhase Database) : Prop := ∀ i, ∃ result, s.locals i = .done result

/-- There is one row with the key, and all calls have returned its id. -/
def Idempotent (key : String) (s : State ι InitiatePhase Database) : Prop :=
  ∃ la, s.shared.loanApplications.rows.filter (fun la => la.idempotencyKey = some key) = [la] ∧
    ∀ i, ∃ response, s.locals i = .done (.ok response) ∧ response.applicationId = la.id

/-- The call's record can be stored, with the key as it is and under a new id. -/
def InitiateCall.Storable (call : InitiateCall) (db : Database) (key : String) : Prop :=
  (∃ record, newRecord call.request call.appId call.now = .ok record ∧
    record.idempotencyKey = some key) ∧ ∀ la ∈ db.loanApplications.rows, la.id ≠ call.appId

/-! ## A row with the key -/

/-- The call has yet to select, or it has returned the application. -/
def Served (appId : Uuid) (phase : InitiatePhase) : Prop :=
  phase = .select ∨ ∃ response, phase = .done (.ok response) ∧ response.applicationId = appId

section Existing

variable {call : InitiateCall} {key : String} {db : Database} {la : LoanApplicationRecord}
  (hparameter : parameter key = .ok key) (hrow : rowWith db key = some la)
include hparameter hrow

theorem act_served (hkey : call.request.key? = some key) {phase : InitiatePhase}
    (h : Served la.id phase) :
    Served la.id (call.act phase db).1 ∧ (call.act phase db).2 = db := by
  rcases h with rfl | ⟨response, rfl, hid⟩
  · simp only [InitiateCall.act, existing?_eq hkey hparameter, hrow]
    exact ⟨.inr ⟨_, rfl, rfl⟩, trivial⟩
  · exact ⟨.inr ⟨response, rfl, hid⟩, rfl⟩

/-- From then on every call returns the row's application. -/
theorem run_served {calls : ι → InitiateCall} (hkey : ∀ i, (calls i).request.key? = some key)
    {s : State ι InitiatePhase Database} (hdb : s.shared = db)
    (hserved : ∀ i, Served la.id (s.locals i)) (schedule : List ι) (i : ι) :
    Served la.id ((run (fun i => (calls i).act) s schedule).locals i) ∧
      (run (fun i => (calls i).act) s schedule).shared = db := by
  refine locals_inv (P := fun _ phase c => Served la.id phase ∧ c = db) ?_ ?_
    (fun j => ⟨hserved j, hdb⟩) schedule i
  · rintro j phase _ ⟨hphase, rfl⟩
    exact act_served hparameter hrow (hkey j) hphase
  · rintro j k phase phase' _ - ⟨hphase, rfl⟩ ⟨hphase', -⟩
    exact ⟨hphase', (act_served hparameter hrow (hkey j) hphase).2⟩

theorem idempotent_of_served [Nonempty ι] {calls : ι → InitiateCall}
    (hkey : ∀ i, (calls i).request.key? = some key) {s : State ι InitiatePhase Database}
    (hdb : s.shared = db) (hserved : ∀ i, Served la.id (s.locals i)) {schedule : List ι}
    (hcomplete : Complete (run (fun i => (calls i).act) s schedule)) :
    Idempotent key (run (fun i => (calls i).act) s schedule) := by
  have hrun := run_served hparameter hrow hkey hdb hserved schedule
  refine ⟨la, ?_, fun i => ?_⟩
  · rw [(hrun (Classical.arbitrary ι)).2]
    exact filter_of_find? db.loanApplications.valid.2 hrow
  · rcases (hrun i).1 with hselect | hdone
    · obtain ⟨result, hresult⟩ := hcomplete i
      rw [hselect] at hresult
      cases hresult
    · exact hdone

end Existing

/-! ## Two calls that have found no row -/

/-- Past its select the call can only return its own application, which is then stored. -/
def Own (call : InitiateCall) (db : Database) : InitiatePhase → Prop
  | .select => False
  | .insert | .done (.error _) => True
  | .commit record => record.id = call.appId
  | .done (.ok response) => response.applicationId = call.appId ∧
    ∃ la ∈ db.loanApplications.rows, la.id = call.appId

def Succeeded (phase : InitiatePhase) : Prop := ∃ response, phase = .done (.ok response)

section Rivals

theorem newRecord_id {request : LoanApplicationRequest} {appId : Uuid} {now : Time}
    {record : LoanApplicationRecord} (h : newRecord request appId now = .ok record) :
    record.id = appId := by
  obtain ⟨vendorGstin, -, h⟩ := exists_of_bind_ok h
  obtain ⟨anchorGstin, -, h⟩ := exists_of_bind_ok h
  obtain ⟨amount, -, h⟩ := exists_of_bind_ok h
  obtain ⟨key, -, h⟩ := exists_of_bind_ok h
  obtain rfl := Except.ok.inj h
  rfl

variable {call : InitiateCall} {phase : InitiatePhase} {db : Database}

/-- No turn deletes a row. -/
theorem act_rows (call : InitiateCall) (phase : InitiatePhase) (db : Database) :
    db.loanApplications.rows ⊆ (call.act phase db).2.loanApplications.rows := by
  cases phase with
  | select =>
    simp only [InitiateCall.act]
    split <;> exact List.Subset.refl _
  | insert =>
    simp only [InitiateCall.act]
    split <;> exact List.Subset.refl _
  | commit record =>
    simp only [InitiateCall.act]
    split
    · exact List.Subset.refl _
    · rename_i table hwrite
      simp only [write_ok.mp hwrite]
      exact List.subset_append_left _ _
  | done result => exact List.Subset.refl _

theorem Own.subset {db' : Database} (h : Own call db phase)
    (hrows : db.loanApplications.rows ⊆ db'.loanApplications.rows) : Own call db' phase := by
  cases phase with
  | select => exact h
  | insert => trivial
  | commit record => exact h
  | done result =>
    cases result with
    | error e => trivial
    | ok response =>
      obtain ⟨hid, la, hla, hlaId⟩ := h
      exact ⟨hid, la, hrows hla, hlaId⟩

theorem Own.act (h : Own call db phase) : Own call (call.act phase db).2 (call.act phase db).1 := by
  cases phase with
  | select => cases h
  | insert =>
    simp only [InitiateCall.act]
    split
    · trivial
    · rename_i record hrecord
      exact newRecord_id hrecord
  | commit record =>
    simp only [InitiateCall.act]
    split
    · trivial
    · rename_i table hwrite
      refine ⟨rfl, record, ?_, h⟩
      simp [write_ok.mp hwrite]
  | done result => exact h

/-- An id that is stored already cannot be stored again. -/
theorem Own.act_not_succeeded (h : Own call db phase) (hphase : ¬ Succeeded phase)
    (hstored : ∃ la ∈ db.loanApplications.rows, la.id = call.appId) :
    ¬ Succeeded (call.act phase db).1 := by
  cases phase with
  | select => cases h
  | insert =>
    simp only [InitiateCall.act]
    split <;> rintro ⟨response, ⟨⟩⟩
  | commit record =>
    simp only [InitiateCall.act]
    split
    · rintro ⟨response, ⟨⟩⟩
    · rename_i table hwrite
      obtain ⟨la, hla, hid⟩ := hstored
      have hvalid := table.valid
      rw [write_ok.mp hwrite, loanApplicationsValid_snoc] at hvalid
      exact absurd (hid.trans (Eq.symm h)) (hvalid.2.1 la hla)
  | done result => exact hphase

/-- Two calls that are both past their selects, each for an application of its own. -/
structure Rivals (calls : ι → InitiateCall) (i j : ι) (s : State ι InitiatePhase Database) : Prop where
  first : Own (calls i) s.shared (s.locals i)
  second : Own (calls j) s.shared (s.locals j)
  apart : (calls i).appId = (calls j).appId → Succeeded (s.locals i) → ¬ Succeeded (s.locals j)

variable {calls : ι → InitiateCall} {i j : ι} {s : State ι InitiatePhase Database}

omit [DecidableEq ι] in
theorem Rivals.symm (h : Rivals calls i j s) : Rivals calls j i s where
  first := h.second
  second := h.first
  apart heq hj hi := h.apart heq.symm hi hj

theorem Own.stored (h : Own call db phase) (hphase : Succeeded phase) :
    ∃ la ∈ db.loanApplications.rows, la.id = call.appId := by
  obtain ⟨response, rfl⟩ := hphase
  exact h.2

theorem Rivals.turn_first (h : Rivals calls i j s) (hij : i ≠ j) :
    Rivals calls i j (turn (fun i => (calls i).act) s i) where
  first := by
    rw [turn_locals_self]
    exact h.first.act
  second := by
    rw [turn_locals_ne hij.symm]
    exact h.second.subset (act_rows ..)
  apart heq := by
    rw [turn_locals_self, turn_locals_ne hij.symm]
    intro hi hj
    have hbefore : ¬ Succeeded (s.locals i) := fun hi => h.apart heq hi hj
    exact h.first.act_not_succeeded hbefore (heq ▸ h.second.stored hj) hi

/-- **Step lemma.** -/
theorem Rivals.turn (h : Rivals calls i j s) (hij : i ≠ j) (k : ι) :
    Rivals calls i j (turn (fun i => (calls i).act) s k) := by
  by_cases hki : k = i
  · subst hki
    exact h.turn_first hij
  by_cases hkj : k = j
  · subst hkj
    exact (h.symm.turn_first hij.symm).symm
  · refine ⟨?_, ?_, ?_⟩
    · rw [turn_locals_ne (Ne.symm hki)]
      exact h.first.subset (act_rows ..)
    · rw [turn_locals_ne (Ne.symm hkj)]
      exact h.second.subset (act_rows ..)
    · rw [turn_locals_ne (Ne.symm hki), turn_locals_ne (Ne.symm hkj)]
      exact h.apart

omit [DecidableEq ι] in
theorem Rivals.not_idempotent (h : Rivals calls i j s) (key : String) : ¬ Idempotent key s := by
  rintro ⟨la, -, hall⟩
  obtain ⟨response, hi, hid⟩ := hall i
  obtain ⟨response', hj, hid'⟩ := hall j
  have hfirst := h.first
  have hsecond := h.second
  rw [hi] at hfirst
  rw [hj] at hsecond
  have heq : (calls i).appId = (calls j).appId := by
    rw [← hfirst.1, ← hsecond.1, hid, hid']
  exact h.apart heq ⟨response, hi⟩ ⟨response', hj⟩

end Rivals

/-! ## When the key keeps its promise -/

section Exactly

variable {calls : ι → InitiateCall} {key : String} {s : State ι InitiatePhase Database}

theorem run_done {i : ι} {result : Except String LoanApplicationResponse}
    (h : s.locals i = .done result) (schedule : List ι) :
    (run (fun i => (calls i).act) s schedule).locals i = .done result := by
  refine run_inv (P := fun s : State ι InitiatePhase Database => s.locals i = .done result)
     (fun s j h => ?_) h schedule
  by_cases hij : i = j
  · subst hij
    rw [turn_locals_self, h]
    rfl
  · rwa [turn_locals_ne hij]

theorem not_idempotent_of_error {i : ι} {e : String} (h : s.locals i = .done (.error e))
    (schedule : List ι) : ¬ Idempotent key (run (fun i => (calls i).act) s schedule) := by
  rintro ⟨la, -, hall⟩
  obtain ⟨response, hdone, -⟩ := hall i
  rw [run_done h] at hdone
  cases hdone

theorem not_idempotent_of_rivals {i j : ι} (hij : i ≠ j) (h : Rivals calls i j s)
    (schedule : List ι) : ¬ Idempotent key (run (fun i => (calls i).act) s schedule) :=
  (run_inv (P := Rivals calls i j) (fun _ k h => h.turn hij k) h schedule).not_idempotent key

theorem run_rows {record : LoanApplicationRecord} (h : record ∈ s.shared.loanApplications.rows)
    (schedule : List ι) :
    record ∈ (run (fun i => (calls i).act) s schedule).shared.loanApplications.rows :=
  run_inv (P := fun s : State ι InitiatePhase Database => record ∈ s.shared.loanApplications.rows)
    (fun _ _ h => act_rows _ _ _ h) h schedule

/-- The call has yet to select, or it has raised. -/
def Refused (phase : InitiatePhase) : Prop := phase = .select ∨ ∃ e, phase = .done (.error e)

/-- A key that the query refuses is refused to every call. -/
theorem parameter_of_idempotent [Nonempty ι] (hkey : ∀ i, (calls i).request.key? = some key)
    {db : Database} {schedule : List ι} (h : Idempotent key (initiating calls db schedule)) :
    parameter key = .ok key := by
  by_cases hnul : Char.ofNat 0 ∈ key.toList
  · have hparameter : parameter key = .error "DBAPIError" := if_pos hnul
    have hact : ∀ i phase c, Refused phase → Refused ((calls i).act phase c).1 := by
      rintro i _ c (rfl | ⟨e, rfl⟩)
      · have hexisting : existing? c (calls i).request = .error "DBAPIError" := by
          simp only [existing?, hkey i, hparameter, bind, Except.bind]
        simp only [InitiateCall.act, hexisting]
        exact .inr ⟨_, rfl⟩
      · exact .inr ⟨e, rfl⟩
    have hrefused : Refused ((initiating calls db schedule).locals (Classical.arbitrary ι)) :=
      locals_inv (P := fun _ phase _ => Refused phase) hact (fun _ _ _ _ _ _ _ h => h)
        (fun _ => .inl rfl) schedule _
    obtain ⟨la, -, hall⟩ := h
    obtain ⟨response, hdone, -⟩ := hall (Classical.arbitrary ι)
    rw [hdone] at hrefused
    rcases hrefused with hselect | ⟨e, herror⟩
    · cases hselect
    · cases herror
  · exact if_neg hnul

/-- The commit of a call that keeps the promise. -/
theorem storable_of_idempotent {db : Database} {i : ι} {record : LoanApplicationRecord}
    (hrecord : newRecord (calls i).request (calls i).appId (calls i).now = .ok record)
    (hphase : s.locals i = .commit record) (hdb : s.shared = db) {schedule : List ι}
    (h : Idempotent key (run (fun i => (calls i).act) (turn (fun i => (calls i).act) s i) schedule)) :
    (calls i).Storable db key := by
  subst hdb
  cases hwrite : (Table.write (s.shared.loanApplications.rows ++ [record]) :
      Except String (Table LoanApplicationRecord LoanApplicationsValid)) with
  | error e =>
    refine absurd h (not_idempotent_of_error (i := i) (e := e) ?_ schedule)
    rw [turn_locals_self, hphase]
    simp only [InitiateCall.act, hwrite]
  | ok table =>
    have hvalid := table.valid
    rw [write_ok.mp hwrite, loanApplicationsValid_snoc, newRecord_id hrecord] at hvalid
    have hdone : (turn (fun i => (calls i).act) s i).locals i = .done (.ok (calls i).newResponse) := by
      rw [turn_locals_self, hphase]
      simp only [InitiateCall.act, hwrite]
    have hmem : record ∈ (turn (fun i => (calls i).act) s i).shared.loanApplications.rows := by
      simp only [turn, hphase, InitiateCall.act, hwrite, write_ok.mp hwrite]
      exact List.mem_append_right _ (.head _)
    -- The row with the key has the id of the record, so it is the record.
    obtain ⟨la, hla, hall⟩ := h
    obtain ⟨response, hresponse, hid⟩ := hall i
    rw [run_done hdone] at hresponse
    obtain ⟨⟩ := hresponse
    have hlaMem := List.mem_filter.mp (hla ▸ List.mem_singleton.mpr rfl : la ∈ List.filter _ _)
    have hids := (run (fun i => (calls i).act) (turn (fun i => (calls i).act) s i)
      schedule).shared.loanApplications.valid.1
    have heq : la = record := List.inj_on_of_nodup_map hids hlaMem.1 (run_rows hmem schedule)
      (hid.symm.trans (newRecord_id hrecord).symm)
    exact ⟨⟨record, hrecord, heq ▸ of_decide_eq_true hlaMem.2⟩, hvalid.2.1⟩

variable (hkey : ∀ i, (calls i).request.key? = some key) (hparameter : parameter key = .ok key)
include hkey hparameter

/-- The select of a call that finds no row. -/
theorem turn_select {i : ι} (hphase : s.locals i = .select) (hrow : rowWith s.shared key = none) :
    (turn (fun i => (calls i).act) s i).locals i = .insert ∧
      (turn (fun i => (calls i).act) s i).shared = s.shared := by
  rw [turn_locals_self]
  simp only [turn, hphase, InitiateCall.act, existing?_eq (hkey i) hparameter, hrow]
  exact ⟨trivial, trivial⟩

/-- Whoever comes between the select and the commit of a call has found no row either. -/
theorem eq_of_idempotent {i j : ι} (hown : Own (calls i) s.shared (s.locals i))
    (hphase : ∀ k ≠ i, s.locals k = .select) (hnot : ¬ Succeeded (s.locals i))
    (hrow : rowWith s.shared key = none) {schedule : List ι}
    (h : Idempotent key (run (fun i => (calls i).act) s (j :: schedule))) : j = i := by
  by_contra hji
  obtain ⟨hinsert, hshared⟩ := turn_select hkey hparameter (hphase j hji) hrow
  refine not_idempotent_of_rivals (Ne.symm hji) ⟨?_, ?_, fun _ hi => ?_⟩ schedule h
  · rw [turn_locals_ne (Ne.symm hji), hshared]
    exact hown
  · rw [hinsert]
    trivial
  · rw [turn_locals_ne (Ne.symm hji)] at hi
    exact absurd hi hnot

/-- A call that has found no row, while the others wait, commits next. -/
theorem commit_of_idempotent {db : Database} {i : ι} (hphase : s.locals i = .insert)
    (hothers : ∀ k ≠ i, s.locals k = .select) (hshared : s.shared = db)
    (hrow : rowWith db key = none) {schedule : List ι}
    (hcomplete : Complete (run (fun i => (calls i).act) s (i :: schedule)))
    (h : Idempotent key (run (fun i => (calls i).act) s (i :: schedule))) :
    ∃ rest, schedule = i :: rest ∧ (calls i).Storable db key := by
  rw [run_cons] at h hcomplete
  have hothers' : ∀ k ≠ i, (turn (fun i => (calls i).act) s i).locals k = .select :=
    fun k hk => (turn_locals_ne hk).trans (hothers k hk)
  cases hrecord : newRecord (calls i).request (calls i).appId (calls i).now with
  | error e =>
    refine absurd h (not_idempotent_of_error (i := i) (e := e) ?_ schedule)
    rw [turn_locals_self, hphase]
    simp only [InitiateCall.act, hrecord]
  | ok record =>
    have hcommit : (turn (fun i => (calls i).act) s i).locals i = .commit record := by
      rw [turn_locals_self, hphase]
      simp only [InitiateCall.act, hrecord]
    have hsame : (turn (fun i => (calls i).act) s i).shared = db := by
      simp only [turn, hphase, InitiateCall.act, hrecord, hshared]
    generalize turn (fun i => (calls i).act) s i = s at *
    cases schedule with
    | nil =>
      obtain ⟨result, hresult⟩ := hcomplete i
      rw [run_nil, hcommit] at hresult
      cases hresult
    | cons k schedule =>
      obtain rfl : k = i := by
        refine eq_of_idempotent hkey hparameter ?_ hothers' ?_ (hsame ▸ hrow) h
        · rw [hcommit]
          exact newRecord_id hrecord
        · rw [hcommit]
          rintro ⟨response, ⟨⟩⟩
      rw [run_cons] at h
      exact ⟨schedule, rfl, storable_of_idempotent hrecord hcommit hsame h⟩

/-- The first call commits before another one selects. -/
theorem first_of_idempotent [Nonempty ι] {db : Database} {schedule : List ι}
    (hrow : rowWith db key = none) (hcomplete : Complete (initiating calls db schedule))
    (h : Idempotent key (initiating calls db schedule)) :
    ∃ i rest, schedule = i :: i :: i :: rest ∧ (calls i).Storable db key := by
  cases schedule with
  | nil =>
    obtain ⟨result, hresult⟩ := hcomplete (Classical.arbitrary ι)
    cases hresult
  | cons i schedule =>
    rw [initiating, run_cons] at h hcomplete
    obtain ⟨hphase, hshared⟩ := turn_select hkey hparameter
      (s := ⟨fun _ => .select, db⟩) (i := i) rfl hrow
    have hothers : ∀ k ≠ i, (turn (fun i => (calls i).act) ⟨fun _ => .select, db⟩ i).locals k =
        .select := fun k hk => turn_locals_ne hk
    generalize turn (fun i => (calls i).act) ⟨fun _ => .select, db⟩ i = s at *
    cases schedule with
    | nil =>
      obtain ⟨result, hresult⟩ := hcomplete i
      rw [run_nil, hphase] at hresult
      cases hresult
    | cons j schedule =>
      obtain rfl : j = i := by
        refine eq_of_idempotent hkey hparameter ?_ hothers ?_ (hshared ▸ hrow) h
        · rw [hphase]
          trivial
        · rw [hphase]
          rintro ⟨response, ⟨⟩⟩
      obtain ⟨rest, rfl, hstorable⟩ :=
        commit_of_idempotent hkey hparameter hphase hothers hshared hrow hcomplete h
      exact ⟨j, rest, rfl, hstorable⟩

theorem idempotent_of_first [Nonempty ι] {db : Database} {i : ι} {rest : List ι}
    (hrow : rowWith db key = none) (hstorable : (calls i).Storable db key)
    (hcomplete : Complete (initiating calls db (i :: i :: i :: rest))) :
    Idempotent key (initiating calls db (i :: i :: i :: rest)) := by
  obtain ⟨⟨record, hrecord, hrecordKey⟩, hfresh⟩ := hstorable
  have hvalid : LoanApplicationsValid (db.loanApplications.rows ++ [record]) := by
    refine loanApplicationsValid_snoc.mpr ⟨db.loanApplications.valid, ?_, ?_⟩
    · rw [newRecord_id hrecord]
      exact hfresh
    · rintro _ hkey' la hla hlaKey
      obtain rfl := Option.some.inj (hrecordKey.symm.trans hkey')
      exact List.find?_eq_none.mp hrow la hla (decide_eq_true hlaKey)
  obtain ⟨table, hwrite⟩ := write_of_valid hvalid
  rw [initiating, run_cons, run_cons, run_cons] at hcomplete ⊢
  obtain ⟨hinsert, hshared⟩ := turn_select hkey hparameter
    (s := ⟨fun _ => .select, db⟩) (i := i) rfl hrow
  have hothers : ∀ k ≠ i, (turn (fun i => (calls i).act) ⟨fun _ => .select, db⟩ i).locals k =
      .select := fun k hk => turn_locals_ne hk
  generalize turn (fun i => (calls i).act) ⟨fun _ => .select, db⟩ i = s at *
  have hcommit : turn (fun i => (calls i).act) s i =
      ⟨Function.update s.locals i (.commit record), db⟩ := by
    simp only [turn, hinsert, InitiateCall.act, hrecord, hshared]
  have hdone : turn (fun i => (calls i).act) (turn (fun i => (calls i).act) s i) i =
      ⟨Function.update s.locals i (.done (.ok (calls i).newResponse)),
        { db with loanApplications := table }⟩ := by
    rw [hcommit]
    simp only [turn, Function.update_self, InitiateCall.act, hwrite, Function.update_idem]
  have hfound : rowWith { db with loanApplications := table } key = some record :=
    (find?_unique_key table.valid.2).mpr ⟨by simp [write_ok.mp hwrite], hrecordKey⟩
  rw [hdone] at hcomplete ⊢
  refine idempotent_of_served hparameter hfound hkey rfl (fun k => ?_) hcomplete
  by_cases hk : k = i
  · subst hk
    exact .inr ⟨_, Function.update_self .., (newRecord_id hrecord).symm⟩
  · exact .inl ((Function.update_of_ne hk ..).trans (hothers k hk))

end Exactly

/-- For a key that the query takes: exactly if there is a row already, or the first call gets
to its commit before another one selects and its row can be stored. -/
theorem idempotent_iff [Nonempty ι] (calls : ι → InitiateCall) (key : String)
    (hkey : ∀ i, (calls i).request.key? = some key) (db : Database) (schedule : List ι)
    (hcomplete : Complete (initiating calls db schedule)) :
    Idempotent key (initiating calls db schedule) ↔ parameter key = .ok key ∧
      ((∃ la ∈ db.loanApplications.rows, la.idempotencyKey = some key) ∨
        ∃ i rest, schedule = i :: i :: i :: rest ∧ (calls i).Storable db key) := by
  constructor
  · intro h
    have hparameter := parameter_of_idempotent hkey h
    refine ⟨hparameter, ?_⟩
    cases hrow : rowWith db key with
    | some la => exact .inl ⟨la, List.mem_of_find?_eq_some hrow, by simpa using List.find?_some hrow⟩
    | none => exact .inr (first_of_idempotent hkey hparameter hrow hcomplete h)
  · rintro ⟨hparameter, hcases⟩
    cases hrow : rowWith db key with
    | some la => exact idempotent_of_served hparameter hrow hkey rfl (fun _ => .inl rfl) hcomplete
    | none =>
      rcases hcases with ⟨la, hla, hlaKey⟩ | ⟨i, rest, rfl, hstorable⟩
      · exact absurd (decide_eq_true hlaKey) (List.find?_eq_none.mp hrow la hla)
      · exact idempotent_of_first hkey hparameter hrow hstorable hcomplete

end Runs

/-! Two calls with one key on an empty table. -/

def InitiatePhase.isDone : InitiatePhase → Bool
  | .done _ => true
  | _ => false

def InitiatePhase.raises : InitiatePhase → Bool
  | .done (.error _) => true
  | _ => false

theorem exists_done {phase : InitiatePhase} (h : phase.isDone = true) :
    ∃ result, phase = .done result := by
  cases phase with
  | done result => exact ⟨result, rfl⟩
  | select => cases h
  | insert => cases h
  | commit record => cases h

def twoCalls (i : Bool) : InitiateCall where
  request := keyedRequest "key-1"
  appId := if i then ⟨1⟩ else ⟨2⟩
  now := 0

/-- One call after the other. -/
theorem idempotent_iff_twoCalls :
    Idempotent "key-1" (initiating twoCalls {} [true, true, true, false]) := by
  have hkey : ∀ i, (twoCalls i).request.key? = some "key-1" := by decide +kernel
  have hcomplete : Complete (initiating twoCalls {} [true, true, true, false]) :=
    fun i => exists_done (by cases i <;> decide +kernel)
  have hstorable : (twoCalls true).Storable {} "key-1" := by
    refine ⟨⟨_, newRecord_eq keyedRequest_fits 0, rfl⟩, ?_⟩
    intro la hla
    cases hla
  exact (idempotent_iff twoCalls "key-1" hkey {} _ hcomplete).mpr
    ⟨by rfl, .inr ⟨true, [false], rfl, hstorable⟩⟩

/-- In turns: neither finds a row, and the second commit is refused. -/
theorem twoCalls_conflict : Complete (initiating twoCalls {} [true, false, true, false, true, false]) ∧
    ¬ Idempotent "key-1" (initiating twoCalls {} [true, false, true, false, true, false]) := by
  refine ⟨fun i => exists_done (by cases i <;> decide +kernel), ?_⟩
  rintro ⟨la, -, hall⟩
  obtain ⟨response, hdone, -⟩ := hall false
  have hraises : ((initiating twoCalls {} [true, false, true, false, true, false]).locals
      false).raises = true := by decide +kernel
  rw [hdone] at hraises
  cases hraises

end OcenPlatform.Gateway.AsyncDBGatewayService
