import OcenPlatform.Gateway.Status

/-! The gateway service on the `loan_applications` table. -/

namespace OcenPlatform.Gateway

open Db

/-- How the driver encodes a value for a column of each type. -/
structure Driver where
  text : Value → Except String String
  numeric : Value → Except String Rat
  jsonb : Value → Except String Json

namespace AsyncDBGatewayService

/-! ## `initiate_application` -/

/-- A query parameter: a text without NUL. -/
def parameter (s : String) : Except String String :=
  if Char.ofNat 0 ∈ s.toList then .error "DBAPIError" else .ok s

/-- The row that the request's idempotency key stands for. -/
def existing? (db : Database) (request : LoanApplicationRequest) :
    Except String (Option LoanApplicationRecord) :=
  match request.key? with
  | none => .ok none
  | some key => do
    let key ← parameter key
    scalarOneOrNone (db.loanApplications.rows.filter fun la => la.idempotencyKey = some key)

def existingResponse (existing : LoanApplicationRecord) : LoanApplicationResponse where
  applicationId := existing.id
  invoiceId := existing.invoiceId
  status := existing.status
  workflowId := existing.workflowId
  message := "Existing application returned (idempotent)."

/-- The key is stored as it comes, the empty one too. -/
def newRecord (request : LoanApplicationRequest) (appId : Uuid) (now : Time) :
    Except String LoanApplicationRecord := do
  return {
    id := appId
    invoiceId := request.invoiceId
    vendorGstin := ← varchar 15 request.vendorGstin
    anchorGstin := ← varchar 15 request.anchorGstin
    amountRequested := ← numeric request.amountRequested
    status := "initiated"
    currentGate := some "d0_kind1"
    workflowId := some (workflowId appId)
    idempotencyKey := ← request.idempotencyKey.mapM (varchar 128)
    createdAt := now
    updatedAt := now }

def initiateApplication (db : Database) (request : LoanApplicationRequest) (appId : Uuid)
    (now : Time) : Except String (LoanApplicationResponse × Database) := do
  match ← existing? db request with
  | some existing => return (existingResponse existing, db)
  | none =>
    let record ← newRecord request appId now
    let loanApplications ← Table.write (db.loanApplications.rows ++ [record])
    return ({
      applicationId := appId
      invoiceId := request.invoiceId
      status := "initiated"
      workflowId := some (workflowId appId)
      message := "Loan application initiated. D0 Kind 1 gate evaluation starting." },
      { db with loanApplications })

/-! ## `get_status` -/

/-- `select(LoanApplicationRecord).where(LoanApplicationRecord.id == application_id)`. -/
def record? (db : Database) (applicationId : Uuid) :
    Except String (Option LoanApplicationRecord) :=
  scalarOneOrNone (db.loanApplications.rows.filter fun la => la.id = applicationId)

def statusOf (record : LoanApplicationRecord) : LoanApplicationStatus where
  applicationId := record.id
  status := record.status
  currentGate := record.currentGate
  amountRequested := some record.amountRequested
  amountSanctioned := record.amountSanctioned
  lenderId := record.selectedLenderId
  createdAt := some record.createdAt
  updatedAt := some record.updatedAt

def getStatus (db : Database) (applicationId : Uuid) : Except String LoanApplicationStatus := do
  match ← record? db applicationId with
  | none => .error (notFound applicationId)
  | some record => return statusOf record

/-! ## `update_gate` -/

/-- A nullable column after `if key in extra: record.column = extra[key]`. -/
def assigned {α : Type} (extra : Extra) (key : String) (write : Value → Except String α)
    (old : Option α) : Except String (Option α) :=
  match extra.find? key with
  | none => .ok old
  | some .none => .ok none
  | some v => some <$> write v

/-- `changed` says whether the session finds another value in the columns of `extra`. If
nothing has changed, there is no UPDATE and `updated_at` stays. -/
def updateRecord (driver : Driver) (record : LoanApplicationRecord) (gate status : String)
    (extra : Extra) (changed : Bool) (now : Time) : Except String LoanApplicationRecord := do
  return { record with
    currentGate := some (← varchar 50 gate)
    status := ← varchar 50 status
    amountSanctioned := ← assigned extra "amount_sanctioned" (driver.numeric · >>= numeric)
      record.amountSanctioned
    selectedLenderId := ← assigned extra "selected_lender_id" (driver.text · >>= varchar 100)
      record.selectedLenderId
    offerData := ← assigned extra "offer_data" driver.jsonb record.offerData
    updatedAt := if some gate ≠ record.currentGate ∨ status ≠ record.status ∨ changed = true
      then now else record.updatedAt }

def updateGate (driver : Driver) (db : Database) (applicationId : Uuid) (gate status : String)
    (extra : Extra) (changed : Bool) (now : Time) : Except String Database := do
  match ← record? db applicationId with
  | none => .error (notFound applicationId)
  | some record =>
    let record' ← updateRecord driver record gate status extra changed now
    let loanApplications ← Table.write
      (updateWhere (fun la => la.id = record.id) (fun _ => record') db.loanApplications.rows)
    return { db with loanApplications }

/-! ## What the lookups find -/

/-- The row with this id. -/
def rowOf (db : Database) (id : Uuid) : Option LoanApplicationRecord :=
  db.loanApplications.rows.find? fun la => la.id = id

/-- The row with this idempotency key. -/
def rowWith (db : Database) (key : String) : Option LoanApplicationRecord :=
  db.loanApplications.rows.find? fun la => la.idempotencyKey = some key

theorem record?_eq (db : Database) (id : Uuid) : record? db id = .ok (rowOf db id) :=
  scalarOneOrNone_filter db.loanApplications.valid.1 id

theorem getStatus_eq (db : Database) (id : Uuid) : getStatus db id =
    (rowOf db id).elim (.error (notFound id)) fun record => .ok (statusOf record) := by
  unfold getStatus
  rw [record?_eq]
  cases rowOf db id <;> rfl

theorem existing?_eq {db : Database} {request : LoanApplicationRequest} {key : String}
    (hkey : request.key? = some key) (hparameter : parameter key = .ok key) :
    existing? db request = .ok (rowWith db key) := by
  unfold existing?
  rw [hkey]
  simp only [hparameter]
  exact scalarOneOrNone_filterMap db.loanApplications.valid.2 key

/-- A text that a column takes has no NUL. -/
theorem parameter_of_varchar {n : Nat} {key stored : String} (h : varchar n key = .ok stored) :
    parameter key = .ok key := by
  unfold varchar at h
  split at h
  · cases h
  · rename_i hnul
    rw [parameter, if_neg hnul]

/-! ## What is stored -/

/-- The new row when everything is stored as it is. -/
def freshRecord (request : LoanApplicationRequest) (appId : Uuid) (now : Time) :
    LoanApplicationRecord where
  id := appId
  invoiceId := request.invoiceId
  vendorGstin := request.vendorGstin
  anchorGstin := request.anchorGstin
  amountRequested := request.amountRequested
  status := "initiated"
  currentGate := some "d0_kind1"
  workflowId := some (workflowId appId)
  idempotencyKey := request.idempotencyKey
  createdAt := now
  updatedAt := now

theorem rowOf_iff {db : Database} {id : Uuid} {la : LoanApplicationRecord} :
    rowOf db id = some la ↔ la ∈ db.loanApplications.rows ∧ la.id = id :=
  find?_unique_iff db.loanApplications.valid.1

/-! ## What a call can do to the table -/

/-- The new row is the fresh one, with its texts and its amount as they are stored. -/
theorem newRecord_inv {request : LoanApplicationRequest} {appId : Uuid} {now : Time}
    {record : LoanApplicationRecord} (h : newRecord request appId now = .ok record) :
    ∃ vendorGstin anchorGstin amount key, record = { freshRecord request appId now with
      vendorGstin := vendorGstin
      anchorGstin := anchorGstin
      amountRequested := amount
      idempotencyKey := key } := by
  unfold newRecord at h
  obtain ⟨vendorGstin, -, h⟩ := exists_of_bind_ok h
  obtain ⟨anchorGstin, -, h⟩ := exists_of_bind_ok h
  obtain ⟨amount, -, h⟩ := exists_of_bind_ok h
  obtain ⟨key, -, h⟩ := exists_of_bind_ok h
  exact ⟨vendorGstin, anchorGstin, amount, key, (Except.ok.inj h).symm⟩

theorem newRecord_ok {request : LoanApplicationRequest} {appId : Uuid} {now : Time}
    {record : LoanApplicationRecord} (h : newRecord request appId now = .ok record) :
    record.status = "initiated" ∧ record.updatedAt = now := by
  obtain ⟨vendorGstin, anchorGstin, amount, key, rfl⟩ := newRecord_inv h
  exact ⟨rfl, rfl⟩

/-- **What `initiate_application` can do.** -/
theorem initiateApplication_ok {db db' : Database} {request : LoanApplicationRequest} {appId : Uuid}
    {now : Time} {response : LoanApplicationResponse}
    (h : initiateApplication db request appId now = .ok (response, db')) :
    db' = db ∨ ∃ record, newRecord request appId now = .ok record ∧
      db'.loanApplications.rows = db.loanApplications.rows ++ [record] := by
  obtain ⟨existing, -, h⟩ := exists_of_bind_ok h
  cases existing with
  | some existing => exact .inl (Prod.mk.inj (Except.ok.inj h)).2.symm
  | none =>
    obtain ⟨record, hrecord, h⟩ := exists_of_bind_ok h
    obtain ⟨table, hwrite, h⟩ := exists_of_bind_ok h
    obtain ⟨-, rfl⟩ := Prod.mk.inj (Except.ok.inj h)
    exact .inr ⟨record, hrecord, write_ok.mp hwrite⟩

/-- Only the one table is written. -/
theorem updateGate_vendors {driver : Driver} {db db' : Database} {applicationId : Uuid}
    {gate status : String} {extra : Extra} {changed : Bool} {now : Time}
    (h : updateGate driver db applicationId gate status extra changed now = .ok db') :
    db'.vendors = db.vendors := by
  obtain ⟨found, -, h⟩ := exists_of_bind_ok h
  cases found with
  | none => cases h
  | some record =>
    obtain ⟨record', -, h⟩ := exists_of_bind_ok h
    obtain ⟨table, -, h⟩ := exists_of_bind_ok h
    obtain rfl := Except.ok.inj h
    rfl

/-- **What `update_gate` can do.** -/
theorem updateGate_ok {driver : Driver} {db db' : Database} {applicationId : Uuid}
    {gate status : String} {extra : Extra} {changed : Bool} {now : Time}
    (h : updateGate driver db applicationId gate status extra changed now = .ok db') :
    ∃ record record', rowOf db applicationId = some record ∧
      updateRecord driver record gate status extra changed now = .ok record' ∧
      db'.loanApplications.rows = updateWhere (fun la => la.id = record.id) (fun _ => record')
        db.loanApplications.rows := by
  obtain ⟨found, hfound, h⟩ := exists_of_bind_ok h
  rw [record?_eq] at hfound
  cases found with
  | none => cases h
  | some record =>
    obtain ⟨record', hrecord, h⟩ := exists_of_bind_ok h
    obtain ⟨table, hwrite, h⟩ := exists_of_bind_ok h
    obtain rfl := Except.ok.inj h
    exact ⟨record, record', Except.ok.inj hfound, hrecord, write_ok.mp hwrite⟩

/-- An update writes these columns and no others. -/
theorem updateRecord_inv {driver : Driver} {record record' : LoanApplicationRecord}
    {gate status : String} {extra : Extra} {changed : Bool} {now : Time}
    (h : updateRecord driver record gate status extra changed now = .ok record') :
    ∃ gate' status' amount lender offer, varchar 50 status = .ok status' ∧ record' = { record with
      currentGate := some gate'
      status := status'
      amountSanctioned := amount
      selectedLenderId := lender
      offerData := offer
      updatedAt := if some gate ≠ record.currentGate ∨ status ≠ record.status ∨ changed = true
        then now else record.updatedAt } := by
  unfold updateRecord at h
  obtain ⟨gate', -, h⟩ := exists_of_bind_ok h
  obtain ⟨status', hstatus, h⟩ := exists_of_bind_ok h
  obtain ⟨amount, -, h⟩ := exists_of_bind_ok h
  obtain ⟨lender, -, h⟩ := exists_of_bind_ok h
  obtain ⟨offer, -, h⟩ := exists_of_bind_ok h
  exact ⟨gate', status', amount, lender, offer, hstatus, (Except.ok.inj h).symm⟩

/-- An update keeps the id and the vendor, and a new status comes with a new time. -/
theorem updateRecord_ok {driver : Driver} {record record' : LoanApplicationRecord}
    {gate status : String} {extra : Extra} {changed : Bool} {now : Time}
    (h : updateRecord driver record gate status extra changed now = .ok record') :
    record'.id = record.id ∧ record'.vendorGstin = record.vendorGstin ∧
      varchar 50 status = .ok record'.status ∧
      (record'.updatedAt = now ∨ record'.updatedAt = record.updatedAt ∧ status = record.status) := by
  obtain ⟨gate', status', amount, lender, offer, hstatus, rfl⟩ := updateRecord_inv h
  refine ⟨rfl, rfl, hstatus, ?_⟩
  by_cases htouched : some gate ≠ record.currentGate ∨ status ≠ record.status ∨ changed = true
  · exact .inl (if_pos htouched)
  · refine .inr ⟨if_neg htouched, ?_⟩
    simp only [not_or, not_not] at htouched
    exact htouched.2.1

/-! ## One row rewritten -/

section Rewritten

variable {db db' : Database} {record record' : LoanApplicationRecord}
  (hid : record'.id = record.id)
  (hrows : db'.loanApplications.rows = updateWhere (fun la => la.id = record.id) (fun _ => record')
    db.loanApplications.rows)
include hid hrows

theorem rowOf_rewritten_self (hrow : rowOf db record.id = some record) :
    rowOf db' record.id = some record' := by
  refine rowOf_iff.mpr ⟨hrows ▸ mem_updateWhere.mpr ⟨record, (rowOf_iff.mp hrow).1, ?_⟩, hid⟩
  exact .inl ⟨decide_eq_true rfl, rfl⟩

theorem rowOf_rewritten_ne {id : Uuid} (hne : id ≠ record.id) : rowOf db' id = rowOf db id := by
  have hlookup : rowOf db' id = (rowOf db id).map fun la =>
      if la.id = record.id then record' else la := by
    rw [rowOf, hrows, find?_updateWhere]
    · simp only [rowOf, decide_eq_true_eq]
    · intro la _ hla
      rw [hid, of_decide_eq_true hla]
  rw [hlookup]
  cases hla : rowOf db id with
  | none => rfl
  | some la => simp [(rowOf_iff.mp hla).2, hne]

theorem rowWith_rewritten (hrow : rowOf db record.id = some record)
    (hkey : record'.idempotencyKey = record.idempotencyKey) (key : String) :
    (rowWith db' key).map LoanApplicationRecord.id =
      (rowWith db key).map LoanApplicationRecord.id := by
  have hlookup : rowWith db' key = (rowWith db key).map fun la =>
      if la.id = record.id then record' else la := by
    rw [rowWith, hrows, find?_updateWhere]
    · simp only [rowWith, decide_eq_true_eq]
    · intro la hmem hla
      have hfound := rowOf_iff.mpr ⟨hmem, of_decide_eq_true hla⟩
      rw [hkey, Option.some.inj (hfound.symm.trans hrow)]
  have hids : (LoanApplicationRecord.id ∘ fun la => if la.id = record.id then record' else la) =
      LoanApplicationRecord.id := by
    funext la
    simp only [Function.comp]
    split
    · rename_i hla
      rw [hid, hla]
    · rfl
  rw [hlookup, Option.map_map, hids]

end Rewritten

end AsyncDBGatewayService

end OcenPlatform.Gateway
