import OcenPlatform.Json
import OcenPlatform.Uuid

/-! The in-memory gateway service: a dict of applications and an index of
idempotency keys. -/

namespace OcenPlatform.Gateway

/-! ## Requests, responses and stored applications -/

structure LoanApplicationRequest where
  invoiceId : Uuid
  vendorGstin : String
  anchorGstin : String
  amountRequested : Rat
  idempotencyKey : Option String := none

structure LoanApplicationResponse where
  applicationId : Uuid
  invoiceId : Uuid
  status : String
  workflowId : Option String
  message : String

/-- What an application's dict holds. -/
inductive Value where
  | uuid (u : Uuid)
  | str (s : String)
  | decimal (q : Rat)
  | datetime (t : Nat)
  | none
  | json (v : Json)

abbrev Application := PyDict String Value

/-- `app[key]` for a field that the response declares as a UUID. -/
def Application.uuid (app : Application) (key : String) : Except String Uuid :=
  match PyDict.find? app key with
  | some (.uuid u) => .ok u
  | some _ => .error "ValidationError"
  | none => .error "KeyError"

/-- `app[key]` for a field that the response declares as a string. -/
def Application.str (app : Application) (key : String) : Except String String :=
  match PyDict.find? app key with
  | some (.str s) => .ok s
  | some _ => .error "ValidationError"
  | none => .error "KeyError"

/-- `app[key]` for a field that the response declares as `str | None`. -/
def Application.optionalStr (app : Application) (key : String) : Except String (Option String) :=
  match PyDict.find? app key with
  | some (.str s) => .ok (some s)
  | some .none => .ok none
  | some _ => .error "ValidationError"
  | none => .error "KeyError"

theorem Application.optionalStr_of_str {app : Application} {key text : String}
    (h : Application.str app key = .ok text) : Application.optionalStr app key = .ok (some text) := by
  unfold Application.str at h
  unfold Application.optionalStr
  split at h
  · rename_i hfind
    obtain rfl := Except.ok.inj h
    rw [hfind]
  · cases h
  · cases h

structure BorrowerGatewayService where
  applications : PyDict Uuid Application := []
  idempotencyIndex : PyDict String Uuid := []

/-- What a call takes from outside: `uuid.uuid4()` and two readings of the clock. -/
structure Ambient where
  uuid4 : Uuid
  createdAt : Nat := 0
  updatedAt : Nat := 0

/-! ## `initiate_application` -/

def workflowId (appId : Uuid) : String := "loan-" ++ appId.str

def newApplication (request : LoanApplicationRequest) (env : Ambient) : Application :=
  [("application_id", .uuid env.uuid4), ("invoice_id", .uuid request.invoiceId),
    ("vendor_gstin", .str request.vendorGstin), ("anchor_gstin", .str request.anchorGstin),
    ("amount_requested", .decimal request.amountRequested), ("status", .str "initiated"),
    ("current_gate", .str "d0_kind1"), ("workflow_id", .str (workflowId env.uuid4)),
    ("created_at", .datetime env.createdAt), ("updated_at", .datetime env.updatedAt)]

/-- `request.idempotency_key`, where the empty string counts as no key. -/
def LoanApplicationRequest.key? (request : LoanApplicationRequest) : Option String :=
  request.idempotencyKey.filter (· ≠ "")

namespace BorrowerGatewayService

/-- The application that the request's idempotency key already stands for. -/
def existing? (s : BorrowerGatewayService) (request : LoanApplicationRequest) : Option Uuid := do
  PyDict.find? s.idempotencyIndex (← request.key?)

def existingResponse (s : BorrowerGatewayService) (existingId : Uuid) :
    Except String LoanApplicationResponse := do
  let app ← (PyDict.find? s.applications existingId).elim (.error "KeyError") .ok
  let invoiceId ← Application.uuid app "invoice_id"
  let status ← Application.str app "status"
  let workflowId ← Application.optionalStr app "workflow_id"
  return {
    applicationId := existingId
    invoiceId
    status
    workflowId
    message := "Existing application returned (idempotent)." }

def initiateApplication (s : BorrowerGatewayService) (request : LoanApplicationRequest)
    (env : Ambient) : Except String (LoanApplicationResponse × BorrowerGatewayService) :=
  match s.existing? request with
  | some existingId => do return (← s.existingResponse existingId, s)
  | none =>
    let applications := PyDict.set s.applications env.uuid4 (newApplication request env)
    let idempotencyIndex :=
      match request.key? with
      | some key => PyDict.set s.idempotencyIndex key env.uuid4
      | none => s.idempotencyIndex
    .ok ({
      applicationId := env.uuid4
      invoiceId := request.invoiceId
      status := "initiated"
      workflowId := some (workflowId env.uuid4)
      message := "Loan application initiated. D0 Kind 1 gate evaluation starting." },
      { applications, idempotencyIndex })

/-- Every stored application carries the workflow id that belongs to its own id. -/
def Named (s : BorrowerGatewayService) : Prop :=
  ∀ p ∈ s.applications, Application.str p.2 "workflow_id" = .ok (workflowId p.1)

theorem named_empty : Named {} := by
  intro p hp
  cases hp

theorem existingResponse_workflowId {s : BorrowerGatewayService} {existingId : Uuid}
    {response : LoanApplicationResponse} (hs : s.Named)
    (h : s.existingResponse existingId = .ok response) :
    response.workflowId = some (workflowId response.applicationId) := by
  unfold existingResponse at h
  obtain ⟨app, happ, h⟩ := exists_of_bind_ok h
  obtain ⟨invoiceId, -, h⟩ := exists_of_bind_ok h
  obtain ⟨status, -, h⟩ := exists_of_bind_ok h
  obtain ⟨name, hname, h⟩ := exists_of_bind_ok h
  obtain rfl := Except.ok.inj h
  have hfind : PyDict.find? s.applications existingId = some app := by
    cases hf : PyDict.find? s.applications existingId with
    | none => simp [hf] at happ
    | some app' => simpa [hf] using happ
  have hnamed := hs (existingId, app) (PyDict.mem_of_find? hfind)
  rw [Application.optionalStr_of_str hnamed] at hname
  rw [← Except.ok.inj hname]

theorem existingResponse_applicationId {s : BorrowerGatewayService} {existingId : Uuid}
    {response : LoanApplicationResponse} (h : s.existingResponse existingId = .ok response) :
    response.applicationId = existingId := by
  unfold existingResponse at h
  obtain ⟨app, -, h⟩ := exists_of_bind_ok h
  obtain ⟨invoiceId, -, h⟩ := exists_of_bind_ok h
  obtain ⟨status, -, h⟩ := exists_of_bind_ok h
  obtain ⟨name, -, h⟩ := exists_of_bind_ok h
  obtain rfl := Except.ok.inj h
  rfl

/-- A response names the workflow after its application, new or not, and the
service stays well named. -/
theorem initiateApplication_named {s s' : BorrowerGatewayService}
    {request : LoanApplicationRequest} {env : Ambient} {response : LoanApplicationResponse}
    (hs : s.Named) (h : s.initiateApplication request env = .ok (response, s')) :
    response.workflowId = some (workflowId response.applicationId) ∧ s'.Named := by
  unfold initiateApplication at h
  split at h
  next existingId _ =>
    obtain ⟨response', hresponse, h⟩ := exists_of_bind_ok h
    obtain ⟨rfl, rfl⟩ := Prod.mk.inj (Except.ok.inj h)
    exact ⟨existingResponse_workflowId hs hresponse, hs⟩
  next =>
    obtain ⟨rfl, rfl⟩ := Prod.mk.inj (Except.ok.inj h)
    refine ⟨rfl, fun p hp => ?_⟩
    rcases PyDict.mem_set hp with rfl | hp
    · rfl
    · exact hs p hp

/-- A key stands for the application that its request was answered with. -/
theorem initiateApplication_indexed {s s' : BorrowerGatewayService}
    {request : LoanApplicationRequest} {env : Ambient} {response : LoanApplicationResponse}
    (h : s.initiateApplication request env = .ok (response, s')) {key : String}
    (hkey : request.key? = some key) :
    PyDict.find? s'.idempotencyIndex key = some response.applicationId := by
  unfold initiateApplication at h
  split at h
  next existingId hexisting =>
    obtain ⟨response', hresponse, h⟩ := exists_of_bind_ok h
    obtain ⟨rfl, rfl⟩ := Prod.mk.inj (Except.ok.inj h)
    have hid : response'.applicationId = existingId := existingResponse_applicationId hresponse
    rw [hid, ← hexisting, existing?, hkey]
    rfl
  next =>
    obtain ⟨rfl, rfl⟩ := Prod.mk.inj (Except.ok.inj h)
    simp [hkey]

/-- It stands for it for good. -/
theorem initiateApplication_keeps {s s' : BorrowerGatewayService}
    {request : LoanApplicationRequest} {env : Ambient} {response : LoanApplicationResponse}
    (h : s.initiateApplication request env = .ok (response, s')) {key : String} {appId : Uuid}
    (hindex : PyDict.find? s.idempotencyIndex key = some appId) :
    PyDict.find? s'.idempotencyIndex key = some appId := by
  unfold initiateApplication at h
  split at h
  next existingId _ =>
    obtain ⟨response', -, h⟩ := exists_of_bind_ok h
    obtain ⟨-, rfl⟩ := Prod.mk.inj (Except.ok.inj h)
    exact hindex
  next hnew =>
    obtain ⟨-, rfl⟩ := Prod.mk.inj (Except.ok.inj h)
    cases hkey : request.key? with
    | none => exact hindex
    | some key' =>
      have hne : key ≠ key' := by
        rintro rfl
        simp [existing?, hkey, hindex] at hnew
      simpa [PyDict.find?_set_ne hne] using hindex

end BorrowerGatewayService

end OcenPlatform.Gateway
