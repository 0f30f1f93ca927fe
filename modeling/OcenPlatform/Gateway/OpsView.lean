import OcenPlatform.Gateway.Backends
import OcenPlatform.Gateway.Routing
import OcenPlatform.Sql.Value

/-! The ops view of the applications: its endpoints ask a service of their own. -/

namespace OcenPlatform.Gateway

open Db (Time)

/-! ## The endpoints -/

structure OpsApplicationDetail where
  applicationId : Uuid
  vendorGstin : String := ""
  anchorGstin : String := ""
  amountRequested : Option Rat := none
  status : String
  currentGate : Option String := none
  workflowId : Option String := none
  opsHold : Bool := false
  opsFlags : List Dict := []
  offerData : Option Dict := none
  amountSanctioned : Option Rat := none
  createdAt : Option Time := none
  updatedAt : Option Time := none

structure OpsApplicationList where
  applications : List OpsApplicationDetail
  total : Nat

def terminal : List String := ["closed", "rejected", "expired"]

/-- `app["status"] not in terminal`. -/
def isActive (app : Application) : Except String Bool := do
  match ← Application.item app "status" with
  | .str status => return status ∉ terminal
  | _ => return true

namespace OpsApplicationDetail

def ofApplication (pydantic : Pydantic) (app : Application) : Except String OpsApplicationDetail := do
  let id ← Application.item app "application_id"
  let vendorGstin ← Application.item app "vendor_gstin"
  let anchorGstin ← Application.item app "anchor_gstin"
  let status ← Application.item app "status"
  return {
    applicationId := ← pydantic.uuid id
    vendorGstin := ← pydantic.str vendorGstin
    anchorGstin := ← pydantic.str anchorGstin
    amountRequested := ← optional pydantic.decimal (PyDict.find? app "amount_requested")
    status := ← pydantic.str status
    currentGate := ← optional pydantic.str (PyDict.find? app "current_gate")
    workflowId := ← optional pydantic.str (PyDict.find? app "workflow_id")
    createdAt := ← optional pydantic.datetime (PyDict.find? app "created_at")
    updatedAt := ← optional pydantic.datetime (PyDict.find? app "updated_at") }

/-- The model has no field for the lender, and drops it. -/
def ofStatus (status : LoanApplicationStatus) : OpsApplicationDetail where
  applicationId := status.applicationId
  vendorGstin := ""
  anchorGstin := ""
  amountRequested := status.amountRequested
  status := status.status
  currentGate := status.currentGate
  createdAt := status.createdAt
  updatedAt := status.updatedAt

end OpsApplicationDetail

/-- `get_gateway_service()` for the in-memory backend: every call makes a service. -/
def getGatewayService : BorrowerGatewayService := {}

/-- What the list comprehension makes of one application. -/
def activeDetail (pydantic : Pydantic) (app : Application) :
    Except String (Option OpsApplicationDetail) := do
  if ← isActive app then
    let detail ← OpsApplicationDetail.ofApplication pydantic app
    return some detail
  else return none

/-- `list_active_applications` on a service. -/
def activeApplications (pydantic : Pydantic) (service : BorrowerGatewayService) :
    Except String OpsApplicationList := do
  let listed ← service.applications.mapM fun p => activeDetail pydantic p.2
  let active := listed.filterMap id
  return { applications := active, total := active.length }

/-- `get_application_detail` on a service: a `KeyError` becomes a 404. -/
def applicationDetail (pydantic : Pydantic) (service : BorrowerGatewayService) (applicationId : Uuid) :
    Except String OpsApplicationDetail :=
  match service.getStatus pydantic applicationId with
  | .ok status => .ok (.ofStatus status)
  | .error e => .error (if e.startsWith "KeyError" then "404: " ++ e else e)

/-- `GET /ops/applications/active`. -/
def listActiveApplications (pydantic : Pydantic) : Except String OpsApplicationList :=
  activeApplications pydantic getGatewayService

/-- `GET /ops/applications/{application_id}`. -/
def getApplicationDetail (pydantic : Pydantic) (applicationId : Uuid) :
    Except String OpsApplicationDetail :=
  applicationDetail pydantic getGatewayService applicationId

/-! ## The running gateway -/

inductive LoansEvent where
  /-- `POST /loans/apply` -/
  | apply (request : LoanApplicationRequest) (env : Ambient) (temporal : TemporalOutcome)
  | updateGate (applicationId : Uuid) (gate status : String) (extra : Extra) (now : Nat)

def LoansEvent.isApply : LoansEvent → Bool
  | .apply .. => true
  | .updateGate .. => false

/-- A call that raises leaves the service as it was. -/
def loansStep (taskQueue : String) (s : BorrowerGatewayService) :
    LoansEvent → BorrowerGatewayService
  | .apply request env temporal =>
    match applyForLoan taskQueue s request env temporal with
    | .ok (_, s', _) => s'
    | .error _ => s
  | .updateGate applicationId gate status extra now =>
    match s.updateGate applicationId gate status extra now with
    | .ok s' => s'
    | .error _ => s

/-- `gateway_service` of the app, which `/loans/apply` and `/loans/status` use. -/
def gatewayService (taskQueue : String) (events : List LoansEvent) : BorrowerGatewayService :=
  events.foldl (loansStep taskQueue) getGatewayService

/-! ## What the view should show -/

def Terminal (app : Application) : Prop :=
  ∃ status ∈ terminal, PyDict.find? app "status" = some (.str status)

/-- The current status and gate of the application. -/
structure Shows (pydantic : Pydantic) (detail : OpsApplicationDetail) (app : Application) : Prop where
  status : ∃ v, PyDict.find? app "status" = some v ∧ pydantic.str v = .ok detail.status
  gate : optional pydantic.str (PyDict.find? app "current_gate") = .ok detail.currentGate

/-- Exactly the applications that are not terminal, each once. -/
structure ListsActive (pydantic : Pydantic) (s : BorrowerGatewayService)
    (response : OpsApplicationList) : Prop where
  listed : ∀ applicationId app, PyDict.find? s.applications applicationId = some app →
    ¬ Terminal app → ∃ detail ∈ response.applications, detail.applicationId = applicationId
  only : ∀ detail ∈ response.applications, ∃ app,
    PyDict.find? s.applications detail.applicationId = some app ∧ ¬ Terminal app ∧
      Shows pydantic detail app
  once : (response.applications.map (·.applicationId)).Nodup

/-- The ops view shows the applications of the service. -/
structure Reconciled (pydantic : Pydantic) (s : BorrowerGatewayService) : Prop where
  list : ∃ response, listActiveApplications pydantic = .ok response ∧ ListsActive pydantic s response
  detail : ∀ applicationId status, s.getStatus pydantic applicationId = .ok status →
    ∃ detail, getApplicationDetail pydantic applicationId = .ok detail

/-! ## The service of the endpoints -/

section View

variable {pydantic : Pydantic} {taskQueue : String} {events : List LoansEvent}

theorem listActiveApplications_eq :
    listActiveApplications pydantic = .ok { applications := [], total := 0 } := rfl

theorem getStatus_empty (applicationId : Uuid) :
    BorrowerGatewayService.getStatus pydantic {} applicationId = .error (notFound applicationId) := rfl

theorem updateGate_empty (applicationId : Uuid) (gate status : String) (extra : Extra) (now : Nat) :
    BorrowerGatewayService.updateGate {} applicationId gate status extra now =
      .error (notFound applicationId) := rfl

/-- Without a request there is nothing to update. -/
theorem gatewayService_of_noApply (h : ∀ event ∈ events, event.isApply = false) :
    gatewayService taskQueue events = {} := by
  induction events with
  | nil => rfl
  | cons event events ih =>
    cases event with
    | apply request env temporal => cases h _ (.head _)
    | updateGate applicationId gate status extra now =>
      have hstep : loansStep taskQueue {} (.updateGate applicationId gate status extra now) = {} := by
        rw [loansStep, updateGate_empty]
      rw [gatewayService, List.foldl_cons, getGatewayService, hstep]
      exact ih fun event hevent => h event (.tail _ hevent)

theorem reconciled_empty : Reconciled pydantic {} where
  list := by
    refine ⟨_, listActiveApplications_eq, fun applicationId app hfind => ?_, fun detail hdetail => ?_, .nil⟩
    · simp at hfind
    · exact absurd hdetail List.not_mem_nil
  detail applicationId status hstatus := by
    rw [getStatus_empty] at hstatus
    cases hstatus

/-- An application that is not terminal is not listed. -/
theorem not_reconciled_of_active {s : BorrowerGatewayService} {applicationId : Uuid} {app : Application}
    (hfind : PyDict.find? s.applications applicationId = some app) (hactive : ¬ Terminal app) :
    ¬ Reconciled pydantic s := by
  rintro ⟨⟨response, hresponse, hlists⟩, -⟩
  rw [listActiveApplications_eq] at hresponse
  obtain rfl := Except.ok.inj hresponse
  obtain ⟨detail, hdetail, -⟩ := hlists.listed applicationId app hfind hactive
  cases hdetail

theorem not_terminal_newApplication (request : LoanApplicationRequest) (env : Ambient) :
    ¬ Terminal (newApplication request env) := by
  rintro ⟨status, hstatus, hfind⟩
  obtain rfl : "initiated" = status := by simpa [newApplication] using hfind
  revert hstatus
  decide

/-- The first request stores an application. -/
theorem find?_first (request : LoanApplicationRequest) (env : Ambient) (temporal : TemporalOutcome) :
    PyDict.find? (loansStep taskQueue {} (.apply request env temporal)).applications env.uuid4 =
      some (newApplication request env) := by
  have hexisting : BorrowerGatewayService.existing? {} request = none := by
    unfold BorrowerGatewayService.existing?
    cases request.key? <;> rfl
  simp only [loansStep, applyForLoan, BorrowerGatewayService.initiateApplication, hexisting]
  exact PyDict.find?_set_self

end View

/-- **The ops view shows the applications throughout a run exactly if** nobody applies for a
loan. -/
theorem reconciled_iff_noApply (pydantic : Pydantic) (taskQueue : String) (events : List LoansEvent) :
    (∀ before, before <+: events → Reconciled pydantic (gatewayService taskQueue before)) ↔
      ∀ event ∈ events, event.isApply = false := by
  constructor
  · intro hreconciled event hevent
    by_contra happly
    have hsome : (events.find? LoansEvent.isApply).isSome :=
      List.find?_isSome.mpr ⟨event, hevent, by simpa using happly⟩
    obtain ⟨first, hfirst⟩ := Option.isSome_iff_exists.mp hsome
    obtain ⟨hisApply, before, after, rfl, hbefore⟩ := List.find?_eq_some_iff_append.mp hfirst
    have hempty : gatewayService taskQueue before = {} :=
      gatewayService_of_noApply fun event hevent => by simpa using hbefore event hevent
    have hafter := hreconciled (before ++ [first]) ⟨after, by simp⟩
    rw [gatewayService, List.foldl_append, ← gatewayService, hempty] at hafter
    cases first with
    | updateGate applicationId gate status extra now => cases hisApply
    | apply request env temporal =>
      exact not_reconciled_of_active (find?_first request env temporal)
        (not_terminal_newApplication request env) hafter
  · intro hnoApply before hbefore
    rw [gatewayService_of_noApply fun event hevent => hnoApply event (hbefore.subset hevent)]
    exact reconciled_empty

/-- One application, whose workflow has been started. -/
def appliedOnce : List LoansEvent := [.apply sampleRequest { uuid4 := sampleId } .accepted]

/-- `/loans/status` finds the application; the ops view neither lists nor finds it. -/
theorem appliedOnce_notShown :
    (∃ status, (gatewayService "loan-origination" appliedOnce).getStatus samplePydantic sampleId =
      .ok status ∧ status.status = "initiated") ∧
    listActiveApplications samplePydantic = .ok { applications := [], total := 0 } ∧
    (∃ e, getApplicationDetail samplePydantic sampleId = .error e) ∧
    ¬ Reconciled samplePydantic (gatewayService "loan-origination" appliedOnce) := by
  have hstored : PyDict.find? (gatewayService "loan-origination" appliedOnce).applications sampleId =
      some (newApplication sampleRequest { uuid4 := sampleId }) := rfl
  exact ⟨⟨_, rfl, rfl⟩, rfl, ⟨_, rfl⟩,
    not_reconciled_of_active hstored (not_terminal_newApplication _ _)⟩

/-! ## The endpoints on the gateway's service -/

section Own

/-- Every application is stored once, under its own id. -/
structure Keyed (s : BorrowerGatewayService) : Prop where
  nodup : (s.applications.map Prod.fst).Nodup
  id : ∀ p ∈ s.applications, PyDict.find? p.2 "application_id" = some (.uuid p.1)

theorem keyed_empty : Keyed {} := ⟨.nil, nofun⟩

theorem Keyed.set {s : BorrowerGatewayService} (hs : Keyed s) {applicationId : Uuid}
    {app : Application} (hid : PyDict.find? app "application_id" = some (.uuid applicationId))
    (index : PyDict String Uuid) : Keyed
      { applications := PyDict.set s.applications applicationId app, idempotencyIndex := index } := by
  refine ⟨PyDict.nodup_set hs.nodup, fun p hp => ?_⟩
  rcases PyDict.mem_set hp with rfl | hp
  · exact hid
  · exact hs.id p hp

/-- **Step lemma.** -/
theorem Keyed.step {s : BorrowerGatewayService} (hs : Keyed s) (taskQueue : String)
    (event : LoansEvent) : Keyed (loansStep taskQueue s event) := by
  cases event with
  | apply request env temporal =>
    simp only [loansStep]
    split
    next response s' call happly =>
      have hinitiate := (applyForLoan_ok happly).1
      unfold BorrowerGatewayService.initiateApplication at hinitiate
      split at hinitiate
      · obtain ⟨_, -, hreturn⟩ := exists_of_bind_ok hinitiate
        obtain ⟨-, rfl⟩ := Prod.mk.inj (Except.ok.inj hreturn)
        exact hs
      · obtain ⟨-, rfl⟩ := Prod.mk.inj (Except.ok.inj hinitiate)
        exact hs.set rfl _
    next => exact hs
  | updateGate applicationId gate status extra now =>
    simp only [loansStep, BorrowerGatewayService.updateGate]
    cases hfind : s.application? applicationId with
    | none => exact hs
    | some app =>
      obtain ⟨happ, -⟩ := Option.filter_eq_some_iff.mp hfind
      refine hs.set ?_ _
      rw [find?_updateApplication now (by decide), extra_find?_named (by decide), Option.none_or]
      exact hs.id _ (PyDict.mem_of_find? happ)

/-- **Run lemma.** -/
theorem keyed_gatewayService (taskQueue : String) (events : List LoansEvent) :
    Keyed (gatewayService taskQueue events) := by
  unfold gatewayService
  exact List.foldlRecOn events (loansStep taskQueue) keyed_empty
    fun s hs event _ => hs.step taskQueue event

variable {pydantic : Pydantic} {app : Application} {detail : OpsApplicationDetail}

theorem item_ok {key : String} {v : Value} (h : Application.item app key = .ok v) :
    PyDict.find? app key = some v := by
  unfold Application.item at h
  cases hf : PyDict.find? app key with
  | none => simp [hf] at h
  | some v' => simpa [hf] using h

theorem isActive_ok {b : Bool} (h : isActive app = .ok b) : b = true ↔ ¬ Terminal app := by
  obtain ⟨v, hv, h⟩ := exists_of_bind_ok h
  unfold Terminal
  rw [item_ok hv]
  split at h
  next status =>
    obtain rfl := Except.ok.inj h
    simp
  next hother =>
    obtain rfl := Except.ok.inj h
    refine iff_of_true rfl ?_
    rintro ⟨status, -, hstatus⟩
    exact hother status (Option.some.inj hstatus)

theorem ofApplication_ok (h : OpsApplicationDetail.ofApplication pydantic app = .ok detail) :
    Shows pydantic detail app ∧
      ∃ v, PyDict.find? app "application_id" = some v ∧ pydantic.uuid v = .ok detail.applicationId := by
  obtain ⟨id, hid, h⟩ := exists_of_bind_ok h
  obtain ⟨vendorGstin, -, h⟩ := exists_of_bind_ok h
  obtain ⟨anchorGstin, -, h⟩ := exists_of_bind_ok h
  obtain ⟨status, hstatus, h⟩ := exists_of_bind_ok h
  obtain ⟨applicationId, happlicationId, h⟩ := exists_of_bind_ok h
  obtain ⟨vendorText, -, h⟩ := exists_of_bind_ok h
  obtain ⟨anchorText, -, h⟩ := exists_of_bind_ok h
  obtain ⟨amountRequested, -, h⟩ := exists_of_bind_ok h
  obtain ⟨statusText, hstatusText, h⟩ := exists_of_bind_ok h
  obtain ⟨currentGate, hcurrentGate, h⟩ := exists_of_bind_ok h
  obtain ⟨workflowId, -, h⟩ := exists_of_bind_ok h
  obtain ⟨createdAt, -, h⟩ := exists_of_bind_ok h
  obtain ⟨updatedAt, -, h⟩ := exists_of_bind_ok h
  obtain rfl := Except.ok.inj h
  exact ⟨⟨⟨status, item_ok hstatus, hstatusText⟩, hcurrentGate⟩, id, item_ok hid, happlicationId⟩

/-- An application is listed with its status and gate, unless it is terminal. -/
inductive Lists (pydantic : Pydantic) (p : Uuid × Application) : Option OpsApplicationDetail → Prop
  | skipped (hterminal : Terminal p.2) : Lists pydantic p none
  | listed {detail : OpsApplicationDetail} (hactive : ¬ Terminal p.2)
      (hshows : Shows pydantic detail p.2) (hid : detail.applicationId = p.1) :
      Lists pydantic p (some detail)

theorem activeDetail_ok (hpydantic : pydantic.Lawful) {p : Uuid × Application}
    (hp : PyDict.find? p.2 "application_id" = some (.uuid p.1)) {listed : Option OpsApplicationDetail}
    (h : activeDetail pydantic p.2 = .ok listed) : Lists pydantic p listed := by
  obtain ⟨active, hisActive, h⟩ := exists_of_bind_ok h
  have hactive := isActive_ok hisActive
  split at h
  next htrue =>
    obtain ⟨detail, hdetail, h⟩ := exists_of_bind_ok h
    obtain rfl := Except.ok.inj h
    obtain ⟨hshows, v, hv, hid⟩ := ofApplication_ok hdetail
    obtain rfl := Option.some.inj (hp.symm.trans hv)
    rw [hpydantic.uuid] at hid
    exact .listed (hactive.mp htrue) hshows (Except.ok.inj hid).symm
  next hfalse =>
    obtain rfl := Except.ok.inj h
    exact .skipped (not_not.mp (mt hactive.mpr hfalse))

theorem lists_of_mapM (hpydantic : pydantic.Lawful) {applications : PyDict Uuid Application}
    {listed : List (Option OpsApplicationDetail)}
    (hid : ∀ p ∈ applications, PyDict.find? p.2 "application_id" = some (.uuid p.1))
    (h : applications.mapM (fun p => activeDetail pydantic p.2) = .ok listed) :
    List.Forall₂ (Lists pydantic) applications listed := by
  induction applications generalizing listed with
  | nil =>
    obtain rfl := Except.ok.inj h
    exact .nil
  | cons p applications ih =>
    obtain ⟨result, rest, hresult, hrest, rfl⟩ := Sql.mapM_cons_ok.mp h
    rw [List.forall_mem_cons] at hid
    exact .cons (activeDetail_ok hpydantic hid.1 hresult) (ih hid.2 hrest)

theorem ids_sublist {applications : PyDict Uuid Application} {listed : List (Option OpsApplicationDetail)}
    (h : List.Forall₂ (Lists pydantic) applications listed) :
    ((listed.filterMap id).map (·.applicationId)).Sublist (applications.map Prod.fst) := by
  induction h with
  | nil => exact .slnil
  | cons hfirst _ ih =>
    cases hfirst with
    | skipped hterminal => exact ih.cons _
    | listed hactive hshows hid =>
      simp only [List.filterMap_cons, id_eq, List.map_cons, hid]
      exact ih.cons_cons _

theorem exists_of_forall₂ {α β : Type} {R : α → β → Prop} {as : List α} {bs : List β}
    (h : List.Forall₂ R as bs) : (∀ a ∈ as, ∃ b ∈ bs, R a b) ∧ ∀ b ∈ bs, ∃ a ∈ as, R a b := by
  induction h with
  | nil => exact ⟨nofun, nofun⟩
  | @cons a b as bs hab _ ih =>
    simp only [List.forall_mem_cons]
    refine ⟨⟨⟨b, .head _, hab⟩, fun a' ha' => ?_⟩, ⟨a, .head _, hab⟩, fun b' hb' => ?_⟩
    · obtain ⟨b', hb', hab'⟩ := ih.1 a' ha'
      exact ⟨b', .tail _ hb', hab'⟩
    · obtain ⟨a', ha', hab'⟩ := ih.2 b' hb'
      exact ⟨a', .tail _ ha', hab'⟩

end Own

/-- On the gateway's own service the list would be right, whenever it is made. -/
theorem activeApplications_listsActive (pydantic : Pydantic) (hpydantic : pydantic.Lawful)
    (taskQueue : String) (events : List LoansEvent) (response : OpsApplicationList)
    (h : activeApplications pydantic (gatewayService taskQueue events) = .ok response) :
    ListsActive pydantic (gatewayService taskQueue events) response := by
  have hkeyed := keyed_gatewayService taskQueue events
  generalize gatewayService taskQueue events = s at h hkeyed
  obtain ⟨listed, hlisted, h⟩ := exists_of_bind_ok h
  obtain rfl := Except.ok.inj h
  have hlists := lists_of_mapM hpydantic hkeyed.id hlisted
  constructor
  · intro applicationId app hfind hactive
    obtain ⟨result, hresult, hp⟩ := (exists_of_forall₂ hlists).1 _ (PyDict.mem_of_find? hfind)
    cases hp with
    | skipped hterminal => exact absurd hterminal hactive
    | listed _ _ hid => exact ⟨_, List.mem_filterMap.mpr ⟨_, hresult, rfl⟩, hid⟩
  · intro detail hdetail
    obtain ⟨result, hresult, rfl⟩ := List.mem_filterMap.mp hdetail
    obtain ⟨p, hp, hlists⟩ := (exists_of_forall₂ hlists).2 _ hresult
    cases hlists with
    | listed hactive hshows hid =>
      refine ⟨p.2, ?_, hactive, hshows⟩
      rw [hid]
      exact PyDict.find?_of_mem hkeyed.nodup hp
  · exact (ids_sublist hlists).nodup hkeyed.nodup

end OcenPlatform.Gateway
