import OcenPlatform.Durable.Lockstep
import OcenPlatform.Gateway.DatabaseService

/-! The two backends of the gateway: the table refines the dict as long as what is stored
fits its columns and the updates write the fields that both backends have. -/

namespace OcenPlatform.Gateway

open Db
open AsyncDBGatewayService (parameter rowOf rowWith assigned statusOf)

/-! ## Operations -/

inductive GatewayOp where
  | initiateApplication (request : LoanApplicationRequest) (env : Ambient)
  | getStatus (applicationId : Uuid)
  | updateGate (applicationId : Uuid) (gate status : String) (extra : Extra) (changed : Bool)
      (now : Nat)

inductive GatewayResult where
  | response (r : LoanApplicationResponse)
  | status (s : LoanApplicationStatus)
  | updated

/-- The result without its timestamps. -/
def GatewayResult.untimed : GatewayResult → GatewayResult
  | .status s => .status { s with createdAt := none, updatedAt := none }
  | r => r

def untimed (r : Except String GatewayResult) : Except String GatewayResult := r.map (·.untimed)

/-- A call that raises leaves the state as it was. -/
def answer {σ : Type} (s : σ) : Except String (GatewayResult × σ) → Except String GatewayResult × σ
  | .ok (r, s') => (.ok r, s')
  | .error e => (.error e, s)

def memoryStep (pydantic : Pydantic) (s : BorrowerGatewayService) (op : GatewayOp) :
    Except String GatewayResult × BorrowerGatewayService :=
  answer s <| match op with
  | .initiateApplication request env => do
    let (r, s') ← s.initiateApplication request env
    return (.response r, s')
  | .getStatus applicationId => return (.status (← s.getStatus pydantic applicationId), s)
  | .updateGate applicationId gate status extra _ now =>
    return (.updated, ← s.updateGate applicationId gate status extra now)

def databaseStep (driver : Driver) (db : Database) (op : GatewayOp) :
    Except String GatewayResult × Database :=
  answer db <| match op with
  | .initiateApplication request env => do
    let (r, db') ← AsyncDBGatewayService.initiateApplication db request env.uuid4 env.createdAt
    return (.response r, db')
  | .getStatus applicationId =>
    return (.status (← AsyncDBGatewayService.getStatus db applicationId), db)
  | .updateGate applicationId gate status extra changed now =>
    return (.updated, ← AsyncDBGatewayService.updateGate driver db applicationId gate status extra
      changed now)

/-! ## What fits -/

/-- A new application fits the table: its id is new, its texts and its amount are stored as
they are, and the empty key is not stored twice. -/
structure NewFits (db : Database) (request : LoanApplicationRequest) (appId : Uuid) : Prop where
  fresh : ∀ la ∈ db.loanApplications.rows, la.id ≠ appId
  vendorGstin : varchar 15 request.vendorGstin = .ok request.vendorGstin
  anchorGstin : varchar 15 request.anchorGstin = .ok request.anchorGstin
  amountRequested : numeric request.amountRequested = .ok request.amountRequested
  key : ∀ key, request.idempotencyKey = some key → varchar 128 key = .ok key
  emptyKey : request.idempotencyKey = some "" →
    ∀ la ∈ db.loanApplications.rows, la.idempotencyKey ≠ some ""

/-- An update fits the table: the texts are stored as they are, fields that only the dict
takes keep their values, and what both backends take they read as the same. The dict has
the lender under another key than the table. -/
structure UpdateFits (pydantic : Pydantic) (driver : Driver) (app : Application)
    (record : LoanApplicationRecord) (gate status : String) (extra : Extra) : Prop where
  gateText : varchar 50 gate = .ok gate
  statusText : varchar 50 status = .ok status
  kept : ∀ key ∈ ["invoice_id", "workflow_id", "amount_requested"], ∀ v,
    extra.find? key = some v → PyDict.find? app key = some v
  currentGate : ∀ v, extra.find? "current_gate" = some v → v = .str gate
  times : ∀ key ∈ ["created_at", "updated_at"], ∀ v, extra.find? key = some v →
    ∃ t, optional pydantic.datetime (some v) = .ok t
  amount : ∃ a, assigned extra "amount_sanctioned" pydantic.decimal
      record.amountSanctioned = .ok a ∧
    assigned extra "amount_sanctioned" (driver.numeric · >>= numeric)
      record.amountSanctioned = .ok a
  lender : ∃ a, assigned extra "lender_id" pydantic.str
      record.selectedLenderId = .ok a ∧
    assigned extra "selected_lender_id" (driver.text · >>= varchar 100)
      record.selectedLenderId = .ok a
  offer : ∃ o, assigned extra "offer_data" driver.jsonb
    record.offerData = .ok o

/-- The condition on a call, given the states that it meets. -/
def Fits (pydantic : Pydantic) (driver : Driver) (s : BorrowerGatewayService) (db : Database) :
    GatewayOp → Prop
  | .initiateApplication request env =>
    s.existing? request = none → NewFits db request env.uuid4
  | .getStatus _ => True
  | .updateGate applicationId gate status extra _ _ => ∀ app ∈ s.application? applicationId,
      ∀ record ∈ db.loanApplications.rows, record.id = applicationId →
        UpdateFits pydantic driver app record gate status extra

/-! ## The relation -/

/-- The dict of an application and its row say the same. -/
structure Agrees (pydantic : Pydantic) (app : Application) (record : LoanApplicationRecord) :
    Prop where
  applicationId : PyDict.find? app "application_id" = some (.uuid record.id)
  invoiceId : PyDict.find? app "invoice_id" = some (.uuid record.invoiceId)
  status : PyDict.find? app "status" = some (.str record.status)
  currentGate : ∃ g, PyDict.find? app "current_gate" = some (.str g) ∧ record.currentGate = some g
  workflowId : ∃ w, PyDict.find? app "workflow_id" = some (.str w) ∧ record.workflowId = some w
  amountRequested : PyDict.find? app "amount_requested" = some (.decimal record.amountRequested)
  amountSanctioned : optional pydantic.decimal (PyDict.find? app "amount_sanctioned") =
    .ok record.amountSanctioned
  lenderId : optional pydantic.str (PyDict.find? app "lender_id") = .ok record.selectedLenderId
  createdAt : ∃ t, optional pydantic.datetime (PyDict.find? app "created_at") = .ok t
  updatedAt : ∃ t, optional pydantic.datetime (PyDict.find? app "updated_at") = .ok t

structure Related (pydantic : Pydantic) (s : BorrowerGatewayService) (db : Database) : Prop where
  applications : ∀ id, Option.Rel (Agrees pydantic) (PyDict.find? s.applications id) (rowOf db id)
  keys : ∀ key, key ≠ "" → PyDict.find? s.idempotencyIndex key =
    (rowWith db key).map LoanApplicationRecord.id
  parameters : ∀ key, PyDict.find? s.idempotencyIndex key ≠ none →
    parameter key = .ok key

section Refinement

variable {pydantic : Pydantic} {driver : Driver} {s : BorrowerGatewayService} {db : Database}

theorem related_empty : Related pydantic {} {} where
  applications _ := .none
  keys _ _ := rfl
  parameters _ h := absurd rfl h

/-- Both backends have the application, or neither has. -/
theorem Related.cases (h : Related pydantic s db) (id : Uuid) :
    (s.application? id = none ∧ rowOf db id = none) ∨ ∃ app record,
      PyDict.find? s.applications id = some app ∧ s.application? id = some app ∧
      rowOf db id = some record ∧ Agrees pydantic app record := by
  have hrel := h.applications id
  cases happ : PyDict.find? s.applications id with
  | none =>
    rw [happ] at hrel
    cases hrow : rowOf db id with
    | none => exact .inl ⟨by simp [BorrowerGatewayService.application?, happ], rfl⟩
    | some record =>
      rw [hrow] at hrel
      cases hrel
  | some app =>
    rw [happ] at hrel
    cases hrow : rowOf db id with
    | none =>
      rw [hrow] at hrel
      cases hrel
    | some record =>
      rw [hrow] at hrel
      cases hrel with
      | some hagrees =>
        have hne : app ≠ [] := by
          rintro rfl
          cases hagrees.applicationId
        refine .inr ⟨app, record, rfl, ?_, rfl, hagrees⟩
        simp [BorrowerGatewayService.application?, happ, hne]

/-! ## `get_status` -/

theorem optional_str (hlawful : pydantic.Lawful) (text : String) :
    optional pydantic.str (some (.str text)) = .ok (some text) := by
  rw [optional, hlawful.str]
  · rfl
  · exact nofun

theorem optional_decimal (hlawful : pydantic.Lawful) (q : Rat) :
    optional pydantic.decimal (some (.decimal q)) = .ok (some q) := by
  rw [optional, hlawful.decimal]
  · rfl
  · exact nofun

theorem getStatus_of_agrees (hlawful : pydantic.Lawful) {id : Uuid} {app : Application}
    {record : LoanApplicationRecord} (happ : s.application? id = some app)
    (h : Agrees pydantic app record) : ∃ createdAt updatedAt, s.getStatus pydantic id =
      .ok { statusOf record with createdAt, updatedAt } := by
  obtain ⟨gate, hgate, hgate'⟩ := h.currentGate
  obtain ⟨createdAt, hcreated⟩ := h.createdAt
  obtain ⟨updatedAt, hupdated⟩ := h.updatedAt
  refine ⟨createdAt, updatedAt, ?_⟩
  unfold BorrowerGatewayService.getStatus
  rw [happ]
  simp only [Application.item, h.applicationId, h.status, hgate, h.amountRequested,
    h.amountSanctioned, h.lenderId, hcreated, hupdated, optional_str hlawful,
    optional_decimal hlawful, hlawful.uuid, hlawful.str, statusOf, hgate', Option.elim, bind,
    Except.bind, pure, Except.pure]

theorem getStatus_step (driver : Driver) (hlawful : pydantic.Lawful) (h : Related pydantic s db)
    (id : Uuid) : untimed (memoryStep pydantic s (.getStatus id)).1 =
        untimed (databaseStep driver db (.getStatus id)).1 ∧
      Related pydantic (memoryStep pydantic s (.getStatus id)).2
        (databaseStep driver db (.getStatus id)).2 := by
  simp only [memoryStep, databaseStep, AsyncDBGatewayService.getStatus_eq]
  rcases h.cases id with ⟨happ, hrow⟩ | ⟨app, record, -, happ, hrow, hagrees⟩
  · rw [BorrowerGatewayService.getStatus, happ, hrow]
    exact ⟨rfl, h⟩
  · obtain ⟨createdAt, updatedAt, hstatus⟩ := getStatus_of_agrees hlawful happ hagrees
    rw [hstatus, hrow]
    exact ⟨rfl, h⟩

/-! ## `initiate_application` -/

theorem key?_iff {request : LoanApplicationRequest} {key : String} :
    request.key? = some key ↔ request.idempotencyKey = some key ∧ key ≠ "" := by
  simp [LoanApplicationRequest.key?, Option.filter_eq_some_iff]

theorem existingResponse_of_agrees {app : Application} {record : LoanApplicationRecord}
    (happ : PyDict.find? s.applications record.id = some app) (h : Agrees pydantic app record) :
    s.existingResponse record.id = .ok (AsyncDBGatewayService.existingResponse record) := by
  obtain ⟨name, hname, hname'⟩ := h.workflowId
  simp only [BorrowerGatewayService.existingResponse, AsyncDBGatewayService.existingResponse, happ,
    Application.uuid, Application.str, Application.optionalStr, h.invoiceId, h.status, hname, hname',
    Option.elim, bind, Except.bind, pure, Except.pure]

/-- A key that stands for an application gets the same response from both. -/
theorem initiateApplication_existing (h : Related pydantic s db) {request : LoanApplicationRequest}
    {id : Uuid} (hexisting : s.existing? request = some id) (env : Ambient) (now : Time) :
    ∃ response, s.initiateApplication request env = .ok (response, s) ∧
      AsyncDBGatewayService.initiateApplication db request env.uuid4 now = .ok (response, db) := by
  obtain ⟨key, hkey, hindex⟩ : ∃ key, request.key? = some key ∧
      PyDict.find? s.idempotencyIndex key = some id := by
    simpa [BorrowerGatewayService.existing?, Option.bind_eq_some_iff] using hexisting
  have hkeys := h.keys key (key?_iff.mp hkey).2
  rw [hindex] at hkeys
  obtain ⟨record, hrow, rfl⟩ := Option.map_eq_some_iff.mp hkeys.symm
  have hrowOf := AsyncDBGatewayService.rowOf_iff.mpr ⟨List.mem_of_find?_eq_some hrow, rfl⟩
  rcases h.cases record.id with ⟨-, hnone⟩ | ⟨app, record', happ, -, hrow', hagrees⟩
  · rw [hnone] at hrowOf
    cases hrowOf
  · rw [hrow'] at hrowOf
    obtain rfl := Option.some.inj hrowOf
    have hparameter := h.parameters key (by simp [hindex])
    refine ⟨AsyncDBGatewayService.existingResponse record', ?_, ?_⟩
    · simp only [BorrowerGatewayService.initiateApplication, hexisting,
        existingResponse_of_agrees happ hagrees, bind, Except.bind, pure, Except.pure]
    · simp only [AsyncDBGatewayService.initiateApplication,
        AsyncDBGatewayService.existing?_eq hkey hparameter, hrow, bind, Except.bind, pure,
        Except.pure]

/-- No row has a key that is not in the index. -/
theorem rowWith_new (h : Related pydantic s db) {request : LoanApplicationRequest} {appId : Uuid}
    (hnew : s.existing? request = none) (hfits : NewFits db request appId) {key : String}
    (hkey : request.idempotencyKey = some key) : rowWith db key = none := by
  by_cases hempty : key = ""
  · rw [rowWith, List.find?_eq_none]
    intro la hla
    subst hempty
    simpa using hfits.emptyKey hkey la hla
  · have hkeys := h.keys key hempty
    have hnone : PyDict.find? s.idempotencyIndex key = none := by
      simpa [BorrowerGatewayService.existing?, key?_iff.mpr ⟨hkey, hempty⟩] using hnew
    rw [hnone] at hkeys
    exact Option.map_eq_none_iff.mp hkeys.symm

theorem newRecord_eq {request : LoanApplicationRequest} {appId : Uuid}
    (hfits : NewFits db request appId) (now : Time) :
    AsyncDBGatewayService.newRecord request appId now =
      .ok (AsyncDBGatewayService.freshRecord request appId now) := by
  have hkey : request.idempotencyKey.mapM (varchar 128) = .ok request.idempotencyKey := by
    cases hk : request.idempotencyKey with
    | none => rfl
    | some key => simp [hfits.key key hk, Functor.map, Except.map]
  simp only [AsyncDBGatewayService.newRecord, hfits.vendorGstin, hfits.anchorGstin,
    hfits.amountRequested, hkey, bind, Except.bind, pure, Except.pure,
    AsyncDBGatewayService.freshRecord]

theorem newRecord_valid (h : Related pydantic s db) {request : LoanApplicationRequest} {appId : Uuid}
    (hnew : s.existing? request = none) (hfits : NewFits db request appId) (now : Time) :
    LoanApplicationsValid (db.loanApplications.rows ++
      [AsyncDBGatewayService.freshRecord request appId now]) := by
  obtain ⟨hids, hkeys⟩ := db.loanApplications.valid
  constructor
  · rw [List.map_append, List.nodup_append]
    refine ⟨hids, List.nodup_singleton _, fun id hid id' hid' => ?_⟩
    obtain ⟨la, hla, rfl⟩ := List.mem_map.mp hid
    obtain rfl := List.mem_singleton.mp hid'
    exact hfits.fresh la hla
  · rw [List.filterMap_append]
    cases hkey : request.idempotencyKey with
    | none => simpa [AsyncDBGatewayService.freshRecord, hkey] using hkeys
    | some key =>
      have hrow := rowWith_new h hnew hfits hkey
      have hfresh : (AsyncDBGatewayService.freshRecord request appId now).idempotencyKey = some key :=
        hkey
      rw [List.filterMap_cons_some hfresh, List.filterMap_nil, List.nodup_append]
      refine ⟨hkeys, List.nodup_singleton _, fun k hk k' hk' => ?_⟩
      obtain ⟨la, hla, hlaKey⟩ := List.mem_filterMap.mp hk
      obtain rfl := List.mem_singleton.mp hk'
      rintro rfl
      exact List.find?_eq_none.mp hrow la hla (by simpa using hlaKey)

theorem agrees_new (hlawful : pydantic.Lawful) (request : LoanApplicationRequest) (env : Ambient)
    (now : Time) : Agrees pydantic (newApplication request env)
      (AsyncDBGatewayService.freshRecord request env.uuid4 now) where
  applicationId := by simp [newApplication, AsyncDBGatewayService.freshRecord]
  invoiceId := by simp [newApplication, AsyncDBGatewayService.freshRecord]
  status := by simp [newApplication, AsyncDBGatewayService.freshRecord]
  currentGate := ⟨"d0_kind1", by simp [newApplication], rfl⟩
  workflowId := ⟨_, by simp [newApplication], rfl⟩
  amountRequested := by simp [newApplication, AsyncDBGatewayService.freshRecord]
  amountSanctioned := by simp [newApplication, AsyncDBGatewayService.freshRecord, optional]
  lenderId := by simp [newApplication, AsyncDBGatewayService.freshRecord, optional]
  createdAt := ⟨some env.createdAt, by
    simp [newApplication, optional, hlawful.datetime, Functor.map, Except.map]⟩
  updatedAt := ⟨some env.updatedAt, by
    simp [newApplication, optional, hlawful.datetime, Functor.map, Except.map]⟩

/-- The service once it has stored a new application. -/
def stored (s : BorrowerGatewayService) (request : LoanApplicationRequest) (env : Ambient) :
    BorrowerGatewayService where
  applications := PyDict.set s.applications env.uuid4 (newApplication request env)
  idempotencyIndex :=
    match request.key? with
    | some key => PyDict.set s.idempotencyIndex key env.uuid4
    | none => s.idempotencyIndex

/-- The response to a new application. -/
def initiated (request : LoanApplicationRequest) (env : Ambient) : LoanApplicationResponse where
  applicationId := env.uuid4
  invoiceId := request.invoiceId
  status := "initiated"
  workflowId := some (workflowId env.uuid4)
  message := "Loan application initiated. D0 Kind 1 gate evaluation starting."

theorem find?_stored {request : LoanApplicationRequest} (env : Ambient) (key : String) :
    PyDict.find? (stored s request env).idempotencyIndex key =
      if request.key? = some key then some env.uuid4 else PyDict.find? s.idempotencyIndex key := by
  unfold stored
  cases hkey : request.key? with
  | none => simp
  | some key' =>
    by_cases heq : key' = key
    · simp [heq]
    · simp [PyDict.find?_set_ne (Ne.symm heq), heq]

theorem related_stored (hlawful : pydantic.Lawful) (h : Related pydantic s db) {db' : Database}
    {request : LoanApplicationRequest} {env : Ambient} {now : Time} (hnew : s.existing? request = none)
    (hfits : NewFits db request env.uuid4) (hrows : db'.loanApplications.rows =
      db.loanApplications.rows ++ [AsyncDBGatewayService.freshRecord request env.uuid4 now]) :
    Related pydantic (stored s request env) db' where
  applications id := by
    rw [rowOf, hrows, List.find?_append]
    by_cases hid : id = env.uuid4
    · subst hid
      have hnone : db.loanApplications.rows.find? (fun la => la.id = env.uuid4) = none := by
        rw [List.find?_eq_none]
        intro la hla
        simpa using hfits.fresh la hla
      have hself : ([AsyncDBGatewayService.freshRecord request env.uuid4 now].find?
          fun la => la.id = env.uuid4) =
          some (AsyncDBGatewayService.freshRecord request env.uuid4 now) := by
        simp [AsyncDBGatewayService.freshRecord]
      simp only [stored, PyDict.find?_set_self, hnone, hself, Option.none_or]
      exact .some (agrees_new hlawful request env now)
    · have hother : ([AsyncDBGatewayService.freshRecord request env.uuid4 now].find?
          fun la => la.id = id) = none := by
        simp [AsyncDBGatewayService.freshRecord, Ne.symm hid]
      simp only [stored, PyDict.find?_set_ne hid, hother, Option.or_none]
      exact h.applications id
  keys key hkey := by
    rw [find?_stored, rowWith, hrows, List.find?_append]
    by_cases heq : request.idempotencyKey = some key
    · have hnone : db.loanApplications.rows.find? (fun la => la.idempotencyKey = some key) = none :=
        rowWith_new h hnew hfits heq
      rw [if_pos (key?_iff.mpr ⟨heq, hkey⟩), hnone]
      simp [AsyncDBGatewayService.freshRecord, heq]
    · have hother : ([AsyncDBGatewayService.freshRecord request env.uuid4 now].find?
          fun la => la.idempotencyKey = some key) = none := by
        simp [AsyncDBGatewayService.freshRecord, heq]
      rw [if_neg fun hk => heq (key?_iff.mp hk).1, hother, Option.or_none]
      exact h.keys key hkey
  parameters key hkey := by
    rw [find?_stored] at hkey
    by_cases heq : request.key? = some key
    · exact AsyncDBGatewayService.parameter_of_varchar (hfits.key key (key?_iff.mp heq).1)
    · rw [if_neg heq] at hkey
      exact h.parameters key hkey

/-- A new application gets the same response from both, and both store it. -/
theorem initiateApplication_new (hlawful : pydantic.Lawful) (h : Related pydantic s db)
    {request : LoanApplicationRequest} {env : Ambient} (hnew : s.existing? request = none)
    (hfits : NewFits db request env.uuid4) (now : Time) :
    s.initiateApplication request env = .ok (initiated request env, stored s request env) ∧
      ∃ db', AsyncDBGatewayService.initiateApplication db request env.uuid4 now =
        .ok (initiated request env, db') ∧ Related pydantic (stored s request env) db' := by
  obtain ⟨table, hwrite⟩ := write_of_valid (newRecord_valid h hnew hfits now)
  have hlookup : AsyncDBGatewayService.existing? db request = .ok none := by
    cases hkey : request.key? with
    | none => simp [AsyncDBGatewayService.existing?, hkey]
    | some key =>
      have hidem := (key?_iff.mp hkey).1
      rw [AsyncDBGatewayService.existing?_eq hkey
        (AsyncDBGatewayService.parameter_of_varchar (hfits.key key hidem)),
        rowWith_new h hnew hfits hidem]
  refine ⟨?_, { db with loanApplications := table }, ?_,
    related_stored hlawful h hnew hfits (write_ok.mp hwrite)⟩
  · rw [BorrowerGatewayService.initiateApplication, hnew]
    rfl
  · simp only [AsyncDBGatewayService.initiateApplication, hlookup, newRecord_eq hfits, hwrite, bind,
      Except.bind, pure, Except.pure, initiated]

theorem initiateApplication_step (driver : Driver) (hlawful : pydantic.Lawful)
    (h : Related pydantic s db)
    {request : LoanApplicationRequest} {env : Ambient}
    (hfits : s.existing? request = none → NewFits db request env.uuid4) :
    (memoryStep pydantic s (.initiateApplication request env)).1 =
        (databaseStep driver db (.initiateApplication request env)).1 ∧
      Related pydantic (memoryStep pydantic s (.initiateApplication request env)).2
        (databaseStep driver db (.initiateApplication request env)).2 := by
  simp only [memoryStep, databaseStep]
  cases hexisting : s.existing? request with
  | some id =>
    obtain ⟨response, hs, hdb⟩ := initiateApplication_existing h hexisting env env.createdAt
    rw [hs, hdb]
    exact ⟨rfl, h⟩
  | none =>
    obtain ⟨hs, db', hdb, hrelated⟩ :=
      initiateApplication_new hlawful h hexisting (hfits hexisting) env.createdAt
    rw [hs, hdb]
    exact ⟨rfl, hrelated⟩

/-! ## `update_gate` -/

section Update

variable {app : Application} {record : LoanApplicationRecord} {gate status : String} {extra : Extra}

theorem find?_updateApplication_or (now : Nat) (key : String) :
    PyDict.find? (BorrowerGatewayService.updateApplication app gate status extra now) key =
      (extra.find? key).or (PyDict.find? (PyDict.set (PyDict.set (PyDict.set app "current_gate"
        (.str gate)) "status" (.str status)) "updated_at" (.datetime now)) key) :=
  PyDict.find?_update extra.nodup

theorem find?_updateApplication (now : Nat) {key : String}
    (hkey : key ∉ ["current_gate", "status", "updated_at"]) :
    PyDict.find? (BorrowerGatewayService.updateApplication app gate status extra now) key =
      (extra.find? key).or (PyDict.find? app key) := by
  simp only [List.mem_cons, List.not_mem_nil, or_false, not_or] at hkey
  obtain ⟨hgate, hstatus, hupdated⟩ := hkey
  rw [find?_updateApplication_or, PyDict.find?_set_ne hupdated, PyDict.find?_set_ne hstatus,
    PyDict.find?_set_ne hgate]

theorem extra_find?_named {key : String} (hkey : key ∈ ["self", "application_id", "gate", "status"]) :
    extra.find? key = none := by
  apply PyDict.find?_eq_none
  intro hmem
  obtain ⟨p, hp, rfl⟩ := List.mem_map.mp hmem
  exact extra.named p hp hkey

/-- A field that keeps its value is found as before. -/
theorem find?_kept {key : String} {v : Value} (hold : PyDict.find? app key = some v)
    (hkept : ∀ v, extra.find? key = some v → PyDict.find? app key = some v) :
    (extra.find? key).or (PyDict.find? app key) = some v := by
  cases hextra : extra.find? key with
  | none => simpa using hold
  | some v' => simpa [hold, eq_comm] using hkept v' hextra

/-- A field that is assigned reads as what was assigned to it. -/
theorem optional_assigned {α : Type} {read : Value → Except String α} {key : String} {old a : Option α}
    (hold : optional read (PyDict.find? app key) = .ok old) (h : assigned extra key read old = .ok a) :
    optional read ((extra.find? key).or (PyDict.find? app key)) = .ok a := by
  unfold assigned at h
  cases hextra : extra.find? key with
  | none =>
    rw [hextra] at h
    obtain rfl := Except.ok.inj h
    exact hold
  | some v =>
    rw [hextra] at h
    cases v <;> exact h

theorem optional_times {key : String} {read : Value → Except String Time} {o : Option Value}
    (hold : ∃ t, optional read o = .ok t)
    (h : ∀ v, extra.find? key = some v → ∃ t, optional read (some v) = .ok t) :
    ∃ t, optional read ((extra.find? key).or o) = .ok t := by
  cases hextra : extra.find? key with
  | none => exact hold
  | some v => exact h v hextra

/-- An update that fits keeps dict and row in agreement. -/
theorem agrees_update (hlawful : pydantic.Lawful) (h : Agrees pydantic app record)
    (hfits : UpdateFits pydantic driver app record gate status extra) (changed : Bool) (now : Nat) :
    ∃ record', AsyncDBGatewayService.updateRecord driver record gate status extra changed now =
        .ok record' ∧ record'.id = record.id ∧ record'.idempotencyKey = record.idempotencyKey ∧
      Agrees pydantic (BorrowerGatewayService.updateApplication app gate status extra now) record' := by
  obtain ⟨amount, hread, hamount⟩ := hfits.amount
  obtain ⟨lender, hreadLender, hlender⟩ := hfits.lender
  obtain ⟨offer, hoffer⟩ := hfits.offer
  obtain ⟨name, hname, hname'⟩ := h.workflowId
  refine ⟨{ record with
    currentGate := some gate
    status := status
    amountSanctioned := amount
    selectedLenderId := lender
    offerData := offer
    updatedAt := if some gate ≠ record.currentGate ∨ status ≠ record.status ∨ changed = true
      then now else record.updatedAt }, ?_, rfl, rfl, ?_⟩
  · unfold AsyncDBGatewayService.updateRecord
    rw [hfits.gateText, hfits.statusText, hamount, hlender, hoffer]
    rfl
  · have hset : ∀ key ∉ ["current_gate", "status", "updated_at"], PyDict.find?
        (BorrowerGatewayService.updateApplication app gate status extra now) key =
          (extra.find? key).or (PyDict.find? app key) := fun key => find?_updateApplication now
    constructor
    · rw [hset _ (by decide), extra_find?_named (by decide)]
      exact h.applicationId
    · rw [hset _ (by decide)]
      exact find?_kept h.invoiceId (hfits.kept _ (by decide))
    · rw [find?_updateApplication_or, extra_find?_named (by decide), Option.none_or,
        PyDict.find?_set_ne (by decide), PyDict.find?_set_self]
    · refine ⟨gate, ?_, rfl⟩
      rw [find?_updateApplication_or, PyDict.find?_set_ne (by decide),
        PyDict.find?_set_ne (by decide), PyDict.find?_set_self]
      cases hextra : extra.find? "current_gate" with
      | none => rfl
      | some v => rw [hfits.currentGate v hextra, Option.some_or]
    · refine ⟨name, ?_, hname'⟩
      rw [hset _ (by decide)]
      exact find?_kept hname (hfits.kept _ (by decide))
    · rw [hset _ (by decide)]
      exact find?_kept h.amountRequested (hfits.kept _ (by decide))
    · rw [hset _ (by decide)]
      exact optional_assigned h.amountSanctioned hread
    · rw [hset _ (by decide)]
      exact optional_assigned h.lenderId hreadLender
    · rw [hset _ (by decide)]
      exact optional_times h.createdAt (hfits.times _ (by decide))
    · rw [find?_updateApplication_or, PyDict.find?_set_self]
      refine optional_times ⟨some now, ?_⟩ (hfits.times _ (by decide))
      rw [optional, hlawful.datetime]
      · rfl
      · exact nofun

theorem related_update (h : Related pydantic s db) {db' : Database} {app' : Application}
    {record' : LoanApplicationRecord} (hrow : rowOf db record.id = some record)
    (hid : record'.id = record.id) (hkey : record'.idempotencyKey = record.idempotencyKey)
    (hagrees : Agrees pydantic app' record') (hrows : db'.loanApplications.rows =
      updateWhere (fun la => la.id = record.id) (fun _ => record') db.loanApplications.rows) :
    Related pydantic { s with applications := PyDict.set s.applications record.id app' } db' := by
  refine ⟨fun id => ?_, fun key hne => ?_, h.parameters⟩
  · by_cases heq : id = record.id
    · rw [heq, PyDict.find?_set_self,
        AsyncDBGatewayService.rowOf_rewritten_self hid hrows hrow]
      exact .some hagrees
    · rw [PyDict.find?_set_ne heq, AsyncDBGatewayService.rowOf_rewritten_ne hid hrows heq]
      exact h.applications id
  · rw [AsyncDBGatewayService.rowWith_rewritten hid hrows hrow hkey]
    exact h.keys key hne

theorem updateGate_step (hlawful : pydantic.Lawful) (h : Related pydantic s db)
    {applicationId : Uuid} {changed : Bool} {now : Nat}
    (hfits : Fits pydantic driver s db (.updateGate applicationId gate status extra changed now)) :
    (memoryStep pydantic s (.updateGate applicationId gate status extra changed now)).1 =
        (databaseStep driver db (.updateGate applicationId gate status extra changed now)).1 ∧
      Related pydantic
        (memoryStep pydantic s (.updateGate applicationId gate status extra changed now)).2
        (databaseStep driver db (.updateGate applicationId gate status extra changed now)).2 := by
  simp only [memoryStep, databaseStep, BorrowerGatewayService.updateGate,
    AsyncDBGatewayService.updateGate, AsyncDBGatewayService.record?_eq]
  rcases h.cases applicationId with ⟨happ, hrow⟩ | ⟨app, record, -, happ, hrow, hagrees⟩
  · rw [happ, hrow]
    exact ⟨rfl, h⟩
  · obtain ⟨hmem, rfl⟩ := AsyncDBGatewayService.rowOf_iff.mp hrow
    obtain ⟨record', hupdate, hid, hkey, hagrees'⟩ := agrees_update hlawful hagrees
      (hfits app happ record hmem rfl) changed now
    have hvalid : LoanApplicationsValid (updateWhere (fun la => la.id = record.id)
        (fun _ => record') db.loanApplications.rows) := by
      apply loanApplicationsValid_updateWhere db.loanApplications.valid
      · exact fun la _ hla => hid.trans (of_decide_eq_true hla).symm
      · intro la hla hlaId
        rw [hkey, List.inj_on_of_nodup_map db.loanApplications.valid.1 hla hmem
          (of_decide_eq_true hlaId)]
    obtain ⟨table, hwrite⟩ := write_of_valid hvalid
    rw [happ, hrow]
    simp only [hupdate, hwrite, bind, Except.bind, pure, Except.pure, answer]
    exact ⟨trivial, related_update h hrow hid hkey hagrees' (write_ok.mp hwrite)⟩

end Update

/-- **Step lemma.** -/
theorem step_related (hlawful : pydantic.Lawful) (s : BorrowerGatewayService) (db : Database)
    (op : GatewayOp) (h : Related pydantic s db) (hfits : Fits pydantic driver s db op) :
    untimed (memoryStep pydantic s op).1 = untimed (databaseStep driver db op).1 ∧
      Related pydantic (memoryStep pydantic s op).2 (databaseStep driver db op).2 := by
  cases op with
  | initiateApplication request env =>
    obtain ⟨hresult, hrelated⟩ := initiateApplication_step driver hlawful h hfits
    exact ⟨congrArg untimed hresult, hrelated⟩
  | getStatus id => exact getStatus_step driver hlawful h id
  | updateGate id gate status extra changed now =>
    obtain ⟨hresult, hrelated⟩ := updateGate_step hlawful h hfits
    exact ⟨congrArg untimed hresult, hrelated⟩

end Refinement

open Durable.Lockstep (Admitted results)

/-- The backends return the same in every run in which the calls fit. -/
theorem results_eq_of_fits (pydantic : Pydantic) (driver : Driver) (hlawful : pydantic.Lawful)
    (ops : List GatewayOp)
    (hfits : Admitted (memoryStep pydantic) (databaseStep driver) (Fits pydantic driver) {} {} ops) :
    (results (memoryStep pydantic) {} ops).map untimed =
      (results (databaseStep driver) {} ops).map untimed :=
  Durable.Lockstep.results_eq (step_related hlawful) related_empty hfits

/-! One application through both backends. -/

def samplePydantic : Pydantic where
  uuid
    | .uuid u => .ok u
    | _ => .error "ValidationError"
  str
    | .str s => .ok s
    | _ => .error "ValidationError"
  decimal
    | .decimal q => .ok q
    | .json (.num q) => .ok q
    | _ => .error "ValidationError"
  datetime
    | .datetime t => .ok t
    | _ => .error "ValidationError"

theorem samplePydantic_lawful : samplePydantic.Lawful where
  uuid _ := rfl
  str _ := rfl
  decimal _ := rfl
  datetime _ := rfl

def sampleDriver : Driver where
  text
    | .str s => .ok s
    | _ => .error "DBAPIError"
  numeric
    | .decimal q => .ok q
    | .json (.num q) => .ok q
    | _ => .error "DBAPIError"
  jsonb
    | .json v => .ok v
    | _ => .error "StatementError"

/-- The request of one application under a key. -/
def keyedRequest (key : String) : LoanApplicationRequest where
  invoiceId := ⟨0⟩
  vendorGstin := "29ABCDE1234F1Z5"
  anchorGstin := "27AABCU9603R1ZM"
  amountRequested := 100000
  idempotencyKey := some key

/-- What a gate sends when a lender has sanctioned the loan, for either backend. -/
def sanctioned : Extra where
  fields := [("amount_sanctioned", .decimal 90000), ("lender_id", .str "lender-1"),
    ("selected_lender_id", .str "lender-1"), ("offer_data", .json (.obj []))]

def sanctionedRun : List GatewayOp :=
  [.initiateApplication (keyedRequest "key-1") { uuid4 := ⟨1⟩ },
    .updateGate ⟨1⟩ "d4_lender_underwriting" "offer_received" sanctioned true 5,
    .getStatus ⟨1⟩, .initiateApplication (keyedRequest "key-1") { uuid4 := ⟨2⟩ }]

theorem keyedRequest_fits : NewFits {} (keyedRequest "key-1") ⟨1⟩ where
  fresh := by
    intro la hla
    cases hla
  vendorGstin := by decide +kernel
  anchorGstin := by decide +kernel
  amountRequested := by decide +kernel
  key := by
    rintro key ⟨⟩
    decide +kernel
  emptyKey := by simp [keyedRequest]

theorem sanctioned_fits (app : Application) (record : LoanApplicationRecord) :
    UpdateFits samplePydantic sampleDriver app record "d4_lender_underwriting" "offer_received"
      sanctioned where
  gateText := by decide +kernel
  statusText := by decide +kernel
  kept key hkey v hv := by
    have hnone : ∀ key ∈ ["invoice_id", "workflow_id", "amount_requested"],
        sanctioned.find? key = none := by
      simp [sanctioned, Extra.find?]
    rw [hnone key hkey] at hv
    cases hv
  currentGate v hv := by simp [sanctioned, Extra.find?] at hv
  times key hkey v hv := by
    have hnone : ∀ key ∈ ["created_at", "updated_at"], sanctioned.find? key = none := by
      simp [sanctioned, Extra.find?]
    rw [hnone key hkey] at hv
    cases hv
  amount := by
    have hnumeric : numeric 90000 = .ok 90000 := by decide +kernel
    refine ⟨some 90000, rfl, ?_⟩
    simp [assigned, sanctioned, Extra.find?, sampleDriver, hnumeric, bind, Except.bind, Functor.map,
      Except.map]
  lender := by
    have hvarchar : varchar 100 "lender-1" = .ok "lender-1" := by decide +kernel
    refine ⟨some "lender-1", rfl, ?_⟩
    simp [assigned, sanctioned, Extra.find?, sampleDriver, hvarchar, bind, Except.bind, Functor.map,
      Except.map]
  offer := ⟨some (.obj []), rfl⟩

theorem results_eq_of_fits_sanctioned :
    (results (memoryStep samplePydantic) {} sanctionedRun).map untimed =
      (results (databaseStep sampleDriver) {} sanctionedRun).map untimed := by
  refine results_eq_of_fits samplePydantic sampleDriver samplePydantic_lawful sanctionedRun ?_
  refine ⟨fun _ => keyedRequest_fits, fun app _ record _ _ => sanctioned_fits app record, trivial,
    fun hnew => absurd hnew ?_, trivial⟩
  decide +kernel

/-- Two applications with the empty key, which counts as no key. -/
def emptyKeys : List GatewayOp :=
  [.initiateApplication (keyedRequest "") { uuid4 := ⟨1⟩ },
    .initiateApplication (keyedRequest "") { uuid4 := ⟨2⟩ }]

/-- The result is no exception. -/
def succeeds (r : Except String GatewayResult) : Bool := r.toOption.isSome

/-- The dict takes both, the table's unique column only one. -/
theorem emptyKeys_differ : (results (memoryStep samplePydantic) {} emptyKeys).map untimed ≠
    (results (databaseStep sampleDriver) {} emptyKeys).map untimed := by
  intro heq
  have hsucceeds := congrArg (List.map succeeds) heq
  exact absurd hsucceeds (by decide +kernel)

end OcenPlatform.Gateway
