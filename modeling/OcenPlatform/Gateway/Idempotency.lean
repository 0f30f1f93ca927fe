import Mathlib.Data.List.Dedup
import Mathlib.Data.List.Induction
import OcenPlatform.Gateway.Backends

/-! Idempotency keys of the in-memory service: what its two dicts hold after any calls. -/

namespace OcenPlatform.Gateway

/-! ## What a call asks for -/

/-- The idempotency key of a request. -/
def GatewayOp.key? : GatewayOp → Option String
  | .initiateApplication request _ => request.key?
  | _ => none

/-- A request without a key. -/
def GatewayOp.keyless : GatewayOp → Bool
  | .initiateApplication request _ => request.key?.isNone
  | _ => false

/-- The id that a request would give to its application. -/
def GatewayOp.uuid4? : GatewayOp → Option Uuid
  | .initiateApplication _ env => some env.uuid4
  | _ => none

def memoryAfter (pydantic : Pydantic) (s : BorrowerGatewayService) (ops : List GatewayOp) :
    BorrowerGatewayService :=
  ops.foldl (fun s op => (memoryStep pydantic s op).2) s

/-! ## What a call can do -/

/-- Whatever an application's dict goes through, a replay finds the three fields that it
reads, and the status is a text. -/
structure Readable (app : Application) : Prop where
  invoiceId : PyDict.find? app "invoice_id" ≠ none
  status : ∃ status, PyDict.find? app "status" = some (.str status)
  workflowId : PyDict.find? app "workflow_id" ≠ none

theorem readable_new (request : LoanApplicationRequest) (env : Ambient) :
    Readable (newApplication request env) where
  invoiceId := by simp [newApplication]
  status := ⟨"initiated", by simp [newApplication]⟩
  workflowId := by simp [newApplication]

theorem Readable.update {app : Application} (h : Readable app) (gate status : String) (extra : Extra)
    (now : Nat) : Readable (BorrowerGatewayService.updateApplication app gate status extra now) where
  invoiceId := by
    rw [find?_updateApplication now (by decide)]
    simp [Option.or_eq_none_iff, h.invoiceId]
  status := ⟨status, by
    rw [find?_updateApplication_or, extra_find?_named (by decide), Option.none_or,
      PyDict.find?_set_ne (by decide), PyDict.find?_set_self]⟩
  workflowId := by
    rw [find?_updateApplication now (by decide)]
    simp [Option.or_eq_none_iff, h.workflowId]

/-- The service after an update of a stored application. -/
def updated (s : BorrowerGatewayService) (id : Uuid) (app : Application) (gate status : String)
    (extra : Extra) (now : Nat) : BorrowerGatewayService := { s with
  applications := PyDict.set s.applications id
    (BorrowerGatewayService.updateApplication app gate status extra now) }

section Step

variable {pydantic : Pydantic} {s : BorrowerGatewayService}

theorem memoryStep_replay {request : LoanApplicationRequest} {env : Ambient} {id : Uuid}
    (h : s.existing? request = some id) :
    memoryStep pydantic s (.initiateApplication request env) =
      (GatewayResult.response <$> s.existingResponse id, s) := by
  simp only [memoryStep, BorrowerGatewayService.initiateApplication, h]
  cases s.existingResponse id <;> rfl

theorem response_eq_ok {x : Except String LoanApplicationResponse} {r : LoanApplicationResponse} :
    GatewayResult.response <$> x = .ok (.response r) ↔ x = .ok r := by
  cases x with
  | error e => exact ⟨nofun, nofun⟩
  | ok r' =>
    constructor
    · rintro ⟨⟩
      rfl
    · rintro ⟨⟩
      rfl

theorem response_eq_error {x : Except String LoanApplicationResponse} {e : String} :
    GatewayResult.response <$> x = .error e ↔ x = .error e := by
  cases x with
  | error e' =>
    constructor
    · rintro ⟨⟩
      rfl
    · rintro ⟨⟩
      rfl
  | ok r => exact ⟨nofun, nofun⟩

theorem memoryStep_new {request : LoanApplicationRequest} {env : Ambient}
    (h : s.existing? request = none) :
    memoryStep pydantic s (.initiateApplication request env) =
      (.ok (.response (initiated request env)), stored s request env) := by
  simp only [memoryStep, BorrowerGatewayService.initiateApplication, h]
  rfl

theorem memoryStep_getStatus (id : Uuid) : (memoryStep pydantic s (.getStatus id)).2 = s := by
  simp only [memoryStep]
  cases s.getStatus pydantic id <;> rfl

/-- An update changes one stored application, or nothing if there is none. -/
theorem memoryStep_updateGate (id : Uuid) (gate status : String) (extra : Extra) (changed : Bool)
    (now : Nat) : (memoryStep pydantic s (.updateGate id gate status extra changed now)).2 = s ∨
      ∃ app, PyDict.find? s.applications id = some app ∧
        (memoryStep pydantic s (.updateGate id gate status extra changed now)).2 =
          updated s id app gate status extra now := by
  cases happ : s.application? id with
  | none =>
    left
    simp only [memoryStep, BorrowerGatewayService.updateGate, happ]
    rfl
  | some app =>
    right
    refine ⟨app, (Option.filter_eq_some_iff.mp happ).1, ?_⟩
    simp only [memoryStep, BorrowerGatewayService.updateGate, happ]
    rfl

theorem existing?_iff {request : LoanApplicationRequest} {id : Uuid} :
    s.existing? request = some id ↔
      ∃ key, request.key? = some key ∧ PyDict.find? s.idempotencyIndex key = some id := by
  simp [BorrowerGatewayService.existing?, Option.bind_eq_some_iff]

end Step

/-! ## Invariant -/

/-- What the two dicts hold after the calls. -/
structure Recorded (s : BorrowerGatewayService) (ops : List GatewayOp) : Prop where
  ids : ∀ id ∈ s.applications.map Prod.fst, id ∈ ops.filterMap GatewayOp.uuid4?
  keys : ∀ key, key ∈ s.idempotencyIndex.map Prod.fst ↔ key ∈ ops.filterMap GatewayOp.key?
  nodup : (s.idempotencyIndex.map Prod.fst).Nodup
  indexed : ∀ p ∈ s.idempotencyIndex, p.2 ∈ s.applications.map Prod.fst
  count : s.applications.length = s.idempotencyIndex.length + ops.countP GatewayOp.keyless
  readable : ∀ p ∈ s.applications, Readable p.2

theorem recorded_nil : Recorded {} [] where
  ids := by simp
  keys := by simp
  nodup := .nil
  indexed := by simp
  count := rfl
  readable := by simp

section Recorded

variable {s : BorrowerGatewayService} {ops : List GatewayOp}

/-- A call that asks for nothing new. -/
theorem Recorded.skip (h : Recorded s ops) {op : GatewayOp} (hkeyless : op.keyless = false)
    (hkey : ∀ key, op.key? = some key → key ∈ s.idempotencyIndex.map Prod.fst) :
    Recorded s (ops ++ [op]) where
  ids id hid := by
    rw [List.filterMap_append]
    exact List.mem_append_left _ (h.ids id hid)
  keys key := by
    rw [h.keys, List.filterMap_append, List.mem_append]
    refine ⟨.inl, fun hmem => hmem.elim id fun hlast => ?_⟩
    cases hop : op.key? with
    | none => simp [hop] at hlast
    | some key' =>
      obtain rfl : key = key' := by simpa [hop] using hlast
      exact (h.keys key).mp (hkey key hop)
  nodup := h.nodup
  indexed := h.indexed
  count := by simp [h.count, hkeyless]
  readable := h.readable

theorem Recorded.update (h : Recorded s ops) {id : Uuid} {app : Application}
    (happ : PyDict.find? s.applications id = some app) (gate status : String) (extra : Extra)
    (now : Nat) : Recorded (updated s id app gate status extra now) ops := by
  have hkeys : (updated s id app gate status extra now).applications.map Prod.fst =
        s.applications.map Prod.fst := by
    rw [updated, PyDict.keys_set, if_pos (PyDict.find?_ne_none_iff.mp (by simp [happ]))]
  refine ⟨?_, h.keys, h.nodup, ?_, ?_, fun p hp => ?_⟩
  · rw [hkeys]
    exact h.ids
  · rw [hkeys]
    exact h.indexed
  · rw [← List.length_map Prod.fst, hkeys, List.length_map]
    exact h.count
  · rcases PyDict.mem_set hp with rfl | hp
    · exact (h.readable _ (PyDict.mem_of_find? happ)).update gate status extra now
    · exact h.readable p hp

/-- A new application has a new id. -/
theorem Recorded.keys_stored (h : Recorded s ops) (request : LoanApplicationRequest) {env : Ambient}
    (hfresh : env.uuid4 ∉ ops.filterMap GatewayOp.uuid4?) :
    (Gateway.stored s request env).applications.map Prod.fst =
      s.applications.map Prod.fst ++ [env.uuid4] := by
  unfold Gateway.stored
  rw [PyDict.keys_set, if_neg fun hid => hfresh (h.ids _ hid)]

/-- A request that finds nothing brings a new key, if it brings one. -/
theorem index_stored {request : LoanApplicationRequest} (hnew : s.existing? request = none)
    (env : Ambient) :
    (stored s request env).idempotencyIndex.map Prod.fst =
      s.idempotencyIndex.map Prod.fst ++ request.key?.toList := by
  cases hkey : request.key? with
  | none => simp [stored, hkey]
  | some key =>
    have hnone : key ∉ s.idempotencyIndex.map Prod.fst := by
      rw [← PyDict.find?_ne_none_iff, not_not]
      simpa [BorrowerGatewayService.existing?, hkey] using hnew
    simp only [stored, hkey, PyDict.keys_set, if_neg hnone, Option.toList]

/-- The index entry of a new application is its id. -/
theorem mem_index_stored {request : LoanApplicationRequest} {env : Ambient} {p : String × Uuid}
    (hp : p ∈ (stored s request env).idempotencyIndex) :
    p ∈ s.idempotencyIndex ∨ p.2 = env.uuid4 := by
  cases hkey : request.key? with
  | none =>
    simp only [stored, hkey] at hp
    exact .inl hp
  | some key =>
    simp only [stored, hkey] at hp
    rcases PyDict.mem_set hp with rfl | hp
    · exact .inr rfl
    · exact .inl hp

theorem Recorded.stored (h : Recorded s ops) {request : LoanApplicationRequest} {env : Ambient}
    (hnew : s.existing? request = none) (hfresh : env.uuid4 ∉ ops.filterMap GatewayOp.uuid4?) :
    Recorded (stored s request env) (ops ++ [.initiateApplication request env]) := by
  have hkeys := h.keys_stored request hfresh
  have hindex := index_stored hnew env
  refine ⟨fun id hid => ?_, fun key => ?_, ?_, fun p hp => ?_, ?_, fun p hp => ?_⟩
  · rw [hkeys] at hid
    rw [List.filterMap_append, List.mem_append]
    exact (List.mem_append.mp hid).imp (h.ids id) fun hlast => by simpa [GatewayOp.uuid4?] using hlast
  · rw [hindex, List.mem_append, h.keys]
    cases hkey : request.key? <;> simp [GatewayOp.key?, hkey]
  · unfold Gateway.stored
    cases request.key? with
    | none => exact h.nodup
    | some key => exact PyDict.nodup_set h.nodup
  · rw [hkeys, List.mem_append]
    exact (mem_index_stored hp).imp (h.indexed p) List.mem_singleton.mpr
  · have happlications := congrArg List.length hkeys
    have hentries := congrArg List.length hindex
    simp only [List.length_map, List.length_append, List.length_singleton] at happlications hentries
    rw [happlications, hentries, h.count, List.countP_append]
    cases hkey : request.key? <;> simp [GatewayOp.keyless, hkey] <;> omega
  · rcases PyDict.mem_set hp with rfl | hp
    · exact readable_new request env
    · exact h.readable p hp

/-- **Step lemma.** -/
theorem Recorded.step (h : Recorded s ops) (pydantic : Pydantic) {op : GatewayOp}
    (hfresh : ∀ id, op.uuid4? = some id → id ∉ ops.filterMap GatewayOp.uuid4?) :
    Recorded (memoryStep pydantic s op).2 (ops ++ [op]) := by
  cases op with
  | initiateApplication request env =>
    cases hexisting : s.existing? request with
    | none =>
      rw [memoryStep_new hexisting]
      exact h.stored hexisting (hfresh _ rfl)
    | some id =>
      rw [memoryStep_replay hexisting]
      obtain ⟨key, hkey, hindex⟩ := existing?_iff.mp hexisting
      refine h.skip (by simp [GatewayOp.keyless, hkey]) fun key' hkey' => ?_
      obtain rfl := Option.some.inj (hkey.symm.trans hkey')
      exact PyDict.find?_ne_none_iff.mp (by simp [hindex])
  | getStatus id =>
    rw [memoryStep_getStatus]
    exact h.skip rfl fun _ hkey => by cases hkey
  | updateGate id gate status extra changed now =>
    have hskip : Recorded s (ops ++ [.updateGate id gate status extra changed now]) :=
      h.skip rfl fun _ hkey => by cases hkey
    rcases memoryStep_updateGate id gate status extra changed now with hsame | ⟨app, happ, hset⟩
    · rwa [hsame]
    · rw [hset]
      exact hskip.update happ gate status extra now

end Recorded

/-! ## Every run -/

/-- The ids that the requests would give are distinct. -/
def Fresh (ops : List GatewayOp) : Prop := (ops.filterMap GatewayOp.uuid4?).Nodup

instance (ops : List GatewayOp) : Decidable (Fresh ops) := inferInstanceAs (Decidable (List.Nodup _))

/-- The update writes no other workflow id over the application's own and, if it writes an
invoice id, a UUID. -/
def GatewayOp.Keeps : GatewayOp → Prop
  | .updateGate id _ _ extra _ _ =>
    (∀ v, extra.find? "workflow_id" = some v → v = .str (workflowId id)) ∧
      ∀ v, extra.find? "invoice_id" = some v → ∃ u, v = .uuid u
  | _ => True

/-- Every request of the run, in the state that it meets, with its result and the state that
it leaves. -/
def Served (pydantic : Pydantic) (ops : List GatewayOp)
    (P : BorrowerGatewayService → LoanApplicationRequest → Except String GatewayResult →
      BorrowerGatewayService → Prop) : Prop :=
  ∀ before request env rest, ops = before ++ .initiateApplication request env :: rest →
    P (memoryAfter pydantic {} before) request
      (memoryStep pydantic (memoryAfter pydantic {} before) (.initiateApplication request env)).1
      (memoryStep pydantic (memoryAfter pydantic {} before) (.initiateApplication request env)).2

/-- The response shows the stored application as it is. -/
structure ShowsCurrent (app : Application) (r : LoanApplicationResponse) : Prop where
  status : Application.str app "status" = .ok r.status
  workflowId : Application.optionalStr app "workflow_id" = .ok r.workflowId

section Run

variable {pydantic : Pydantic} {s : BorrowerGatewayService} {ops : List GatewayOp}

theorem memoryAfter_append (ops ops' : List GatewayOp) :
    memoryAfter pydantic s (ops ++ ops') = memoryAfter pydantic (memoryAfter pydantic s ops) ops' :=
  List.foldl_append

/-- **Run lemma.** -/
theorem recorded_after (pydantic : Pydantic) (hfresh : Fresh ops) :
    Recorded (memoryAfter pydantic {} ops) ops := by
  induction ops using List.reverseRecOn with
  | nil => exact recorded_nil
  | append_singleton ops op ih =>
    rw [Fresh, List.filterMap_append, List.nodup_append] at hfresh
    obtain ⟨hops, -, hne⟩ := hfresh
    rw [memoryAfter_append]
    refine (ih hops).step pydantic fun id hid hmem => hne id hmem id ?_ rfl
    simp [hid]

/-- A replay cannot miss a field, and what it answers is current. -/
theorem Recorded.replay (h : Recorded s ops) {id : Uuid} (hid : id ∈ s.applications.map Prod.fst) :
    s.existingResponse id ≠ .error "KeyError" ∧ ∃ app, PyDict.find? s.applications id = some app ∧
      ∀ r, s.existingResponse id = .ok r → r.applicationId = id ∧ ShowsCurrent app r := by
  obtain ⟨app, happ⟩ := Option.ne_none_iff_exists'.mp (PyDict.find?_ne_none_iff.mpr hid)
  obtain ⟨hinvoice, ⟨status, hstatus⟩, hworkflow⟩ := h.readable _ (PyDict.mem_of_find? happ)
  have hstr : Application.str app "status" = .ok status := by
    simp only [Application.str, hstatus]
  have huuid : Application.uuid app "invoice_id" ≠ .error "KeyError" := by
    unfold Application.uuid
    split <;> simp_all
  have hoptional : Application.optionalStr app "workflow_id" ≠ .error "KeyError" := by
    unfold Application.optionalStr
    split <;> simp_all
  simp only [BorrowerGatewayService.existingResponse, happ, Option.elim, bind, Except.bind, pure,
    Except.pure]
  cases hu : Application.uuid app "invoice_id" with
  | error e =>
    refine ⟨fun heq => huuid (hu.trans (congrArg _ (Except.error.inj heq))), app, rfl, fun r hr => ?_⟩
    cases hr
  | ok invoiceId =>
    simp only [hstr]
    cases hw : Application.optionalStr app "workflow_id" with
    | error e =>
      refine ⟨fun heq => hoptional (hw.trans (congrArg _ (Except.error.inj heq))), app, rfl,
        fun r hr => ?_⟩
      cases hr
    | ok name =>
      refine ⟨fun heq => ?_, app, rfl, fun r hr => ?_⟩
      · cases heq
      obtain rfl := Except.ok.inj hr
      exact ⟨rfl, hstr, hw⟩

/-- A key stands for its application for good. -/
theorem memoryStep_index {op : GatewayOp} {key : String} {id : Uuid}
    (h : PyDict.find? s.idempotencyIndex key = some id) :
    PyDict.find? (memoryStep pydantic s op).2.idempotencyIndex key = some id := by
  cases op with
  | initiateApplication request env =>
    cases hexisting : s.existing? request with
    | none =>
      rw [memoryStep_new hexisting, find?_stored]
      split
      · rename_i hkey
        simp [BorrowerGatewayService.existing?, hkey, h] at hexisting
      · exact h
    | some id' => rwa [memoryStep_replay hexisting]
  | getStatus id' => rwa [memoryStep_getStatus]
  | updateGate id' gate status extra changed now =>
    rcases memoryStep_updateGate id' gate status extra changed now with hsame | ⟨app, -, hset⟩
    · rwa [hsame]
    · rw [hset]
      exact h

theorem memoryAfter_index {key : String} {id : Uuid}
    (h : PyDict.find? s.idempotencyIndex key = some id) (ops : List GatewayOp) :
    PyDict.find? (memoryAfter pydantic s ops).idempotencyIndex key = some id := by
  induction ops generalizing s with
  | nil => exact h
  | cons op ops ih => exact ih (memoryStep_index h)

/-! ## Updates that keep the workflow id -/

/-- Every stored application is named after its id and has a UUID as its invoice. -/
def Answerable (s : BorrowerGatewayService) : Prop :=
  ∀ p ∈ s.applications, PyDict.find? p.2 "workflow_id" = some (.str (workflowId p.1)) ∧
    ∃ u, PyDict.find? p.2 "invoice_id" = some (.uuid u)

theorem Answerable.step (h : Answerable s) (pydantic : Pydantic) {op : GatewayOp} (hop : op.Keeps) :
    Answerable (memoryStep pydantic s op).2 := by
  cases op with
  | initiateApplication request env =>
    cases hexisting : s.existing? request with
    | some id => rwa [memoryStep_replay hexisting]
    | none =>
      rw [memoryStep_new hexisting]
      intro p hp
      rcases PyDict.mem_set hp with rfl | hp
      · exact ⟨by simp [newApplication], request.invoiceId, by simp [newApplication]⟩
      · exact h p hp
  | getStatus id => rwa [memoryStep_getStatus]
  | updateGate id gate status extra changed now =>
    rcases memoryStep_updateGate id gate status extra changed now with hsame | ⟨app, happ, hset⟩
    · rwa [hsame]
    · rw [hset]
      intro p hp
      rcases PyDict.mem_set hp with rfl | hp
      · obtain ⟨hname, u, hu⟩ := h _ (PyDict.mem_of_find? happ)
        obtain ⟨hkeepsName, hkeepsInvoice⟩ := hop
        simp only
        rw [find?_updateApplication now (by decide), find?_updateApplication now (by decide)]
        refine ⟨?_, ?_⟩
        · cases hextra : extra.find? "workflow_id" with
          | none => simpa using hname
          | some v => simp [hkeepsName v hextra]
        · cases hextra : extra.find? "invoice_id" with
          | none => simpa using ⟨u, hu⟩
          | some v => simpa using hkeepsInvoice v hextra
      · exact h p hp

theorem answerable_after (pydantic : Pydantic) (hops : ∀ op ∈ ops, op.Keeps) :
    Answerable (memoryAfter pydantic {} ops) := by
  induction ops using List.reverseRecOn with
  | nil => exact nofun
  | append_singleton ops op ih =>
    rw [memoryAfter_append]
    exact (ih fun op' hop' => hops op' (List.mem_append_left _ hop')).step pydantic (hops op (by simp))

theorem Answerable.response (h : Answerable s) {status : String} {id : Uuid} {app : Application}
    (happ : PyDict.find? s.applications id = some app)
    (hstatus : PyDict.find? app "status" = some (.str status)) :
    ∃ r, s.existingResponse id = .ok r ∧ r.workflowId = some (workflowId id) := by
  obtain ⟨hname, u, hu⟩ : PyDict.find? app "workflow_id" = some (.str (workflowId id)) ∧
      ∃ u, PyDict.find? app "invoice_id" = some (.uuid u) := h _ (PyDict.mem_of_find? happ)
  simp only [BorrowerGatewayService.existingResponse, happ, Option.elim, Application.uuid, hu,
    Application.str, hstatus, Application.optionalStr, hname, bind, Except.bind, pure, Except.pure]
  exact ⟨_, rfl, rfl⟩

theorem recorded_before (pydantic : Pydantic) (hfresh : Fresh ops) {before rest : List GatewayOp}
    {op : GatewayOp} (hops : ops = before ++ op :: rest) :
    Recorded (memoryAfter pydantic {} before) before := by
  subst hops
  rw [Fresh, List.filterMap_append, List.nodup_append] at hfresh
  exact recorded_after pydantic hfresh.1

/-- No request misses a field, and an existing application is shown as it is. -/
theorem served_current (pydantic : Pydantic) (hfresh : Fresh ops) :
    Served pydantic ops fun s request result s' => result ≠ .error "KeyError" ∧
      ∀ id, s.existing? request = some id → s' = s ∧ ∃ app,
        PyDict.find? s.applications id = some app ∧
        ∀ r, result = .ok (.response r) → r.applicationId = id ∧ ShowsCurrent app r := by
  intro before request env rest hops
  have hrecorded := recorded_before pydantic hfresh hops
  cases hexisting : (memoryAfter pydantic {} before).existing? request with
  | none =>
    rw [memoryStep_new hexisting]
    exact ⟨nofun, nofun⟩
  | some id =>
    rw [memoryStep_replay hexisting]
    obtain ⟨key, hkey, hindex⟩ := existing?_iff.mp hexisting
    obtain ⟨hfield, app, happ, hcurrent⟩ :=
      hrecorded.replay (hrecorded.indexed _ (PyDict.mem_of_find? hindex))
    refine ⟨fun heq => hfield (response_eq_error.mp heq), fun id' hid => ?_⟩
    obtain rfl := Option.some.inj hid
    exact ⟨rfl, app, happ, fun r hr => hcurrent r (response_eq_ok.mp hr)⟩

/-- All requests with a key get the application that it stands for in the end. -/
theorem served_sameId (pydantic : Pydantic) (hfresh : Fresh ops) (key : String) :
    ∃ id, Served pydantic ops fun _ request result _ => request.key? = some key →
      (∀ r, result = .ok (.response r) → r.applicationId = id) ∧
      ((∀ op ∈ ops, op.Keeps) →
        ∃ r, result = .ok (.response r) ∧ r.workflowId = some (workflowId id)) := by
  refine ⟨(PyDict.find? (memoryAfter pydantic {} ops).idempotencyIndex key).getD ⟨0⟩, ?_⟩
  intro before request env rest hops hkey
  have hrecorded := recorded_before pydantic hfresh hops
  -- The key stands for the application that answers the request, up to the end of the run.
  have hindexed : ∀ id, PyDict.find? (memoryStep pydantic (memoryAfter pydantic {} before)
      (.initiateApplication request env)).2.idempotencyIndex key = some id →
        (PyDict.find? (memoryAfter pydantic {} ops).idempotencyIndex key).getD ⟨0⟩ = id := by
    intro id hid
    rw [hops, memoryAfter_append]
    exact congrArg (Option.getD · ⟨0⟩) (memoryAfter_index hid rest)
  cases hexisting : (memoryAfter pydantic {} before).existing? request with
  | none =>
    have hid := hindexed env.uuid4 (by rw [memoryStep_new hexisting, find?_stored, if_pos hkey])
    rw [memoryStep_new hexisting, hid]
    refine ⟨fun r hr => ?_, fun _ => ⟨_, rfl, rfl⟩⟩
    cases hr
    rfl
  | some id =>
    obtain ⟨key', hkey', hindex⟩ := existing?_iff.mp hexisting
    obtain rfl := Option.some.inj (hkey.symm.trans hkey')
    have hid := hindexed id (memoryStep_index hindex)
    obtain ⟨-, app, happ, hcurrent⟩ :=
      hrecorded.replay (hrecorded.indexed _ (PyDict.mem_of_find? hindex))
    rw [memoryStep_replay hexisting, hid]
    refine ⟨fun r hr => (hcurrent r (response_eq_ok.mp hr)).1, fun hkeeps => ?_⟩
    have hanswerable : Answerable (memoryAfter pydantic {} before) :=
      answerable_after pydantic fun op hop => hkeeps op (hops ▸ List.mem_append_left _ hop)
    obtain ⟨status, hstatus⟩ := (hrecorded.readable _ (PyDict.mem_of_find? happ)).status
    obtain ⟨r, hr, hname⟩ := hanswerable.response happ hstatus
    exact ⟨r, response_eq_ok.mpr hr, hname⟩

end Run

/-! ## Idempotency -/

/-- After any calls every key of the index stands for a stored application, and there are as
many applications as keys and keyless requests. No request misses a field, and a replay
shows the application as it is and leaves the store alone. The requests with one key that
are answered get one application, and as long as the updates keep the workflow ids, all are
answered with its workflow. -/
theorem idempotency (pydantic : Pydantic) (ops : List GatewayOp) (hfresh : Fresh ops) :
    (∀ key id, PyDict.find? (memoryAfter pydantic {} ops).idempotencyIndex key = some id →
      PyDict.find? (memoryAfter pydantic {} ops).applications id ≠ none) ∧
    (memoryAfter pydantic {} ops).applications.length =
      (ops.filterMap GatewayOp.key?).dedup.length + ops.countP GatewayOp.keyless ∧
    (Served pydantic ops fun s request result s' => result ≠ .error "KeyError" ∧
      ∀ id, s.existing? request = some id → s' = s ∧ ∃ app,
        PyDict.find? s.applications id = some app ∧
        ∀ r, result = .ok (.response r) → r.applicationId = id ∧ ShowsCurrent app r) ∧
    ∀ key, ∃ id, Served pydantic ops fun _ request result _ => request.key? = some key →
      (∀ r, result = .ok (.response r) → r.applicationId = id) ∧
      ((∀ op ∈ ops, op.Keeps) →
        ∃ r, result = .ok (.response r) ∧ r.workflowId = some (workflowId id)) := by
  have hrecorded := recorded_after pydantic hfresh
  refine ⟨fun key id hindex => ?_, ?_, served_current pydantic hfresh, served_sameId pydantic hfresh⟩
  · exact PyDict.find?_ne_none_iff.mpr (hrecorded.indexed _ (PyDict.mem_of_find? hindex))
  · rw [hrecorded.count, ← List.length_map Prod.fst]
    congr 1
    refine ((List.perm_ext_iff_of_nodup hrecorded.nodup (List.nodup_dedup _)).mpr fun key => ?_).length_eq
    rw [hrecorded.keys, List.mem_dedup]

/-! A request, an update of its application, and the request again. -/

def updatedBetween (extra : Extra) : List GatewayOp :=
  [.initiateApplication (keyedRequest "key-1") { uuid4 := ⟨1⟩ },
    .updateGate ⟨1⟩ "d1_data_sufficiency" "in_progress" extra true 5,
    .initiateApplication (keyedRequest "key-1") { uuid4 := ⟨2⟩ }]

theorem idempotency_sanctioned :
    (memoryAfter samplePydantic {} (updatedBetween sanctioned)).applications.length = 1 ∧
      Fresh (updatedBetween sanctioned) := by
  have hfresh : Fresh (updatedBetween sanctioned) := by decide +kernel
  exact ⟨(idempotency samplePydantic (updatedBetween sanctioned) hfresh).2.1.trans (by decide +kernel),
    hfresh⟩

/-- An update that writes another workflow id. -/
def renamed : Extra where
  fields := [("workflow_id", .str "loan-other")]

/-- The replay then shows another workflow than the first response. -/
theorem renamed_differs : Fresh (updatedBetween renamed) ∧
    ¬ ∃ name, Served samplePydantic (updatedBetween renamed) fun _ request result _ =>
      request.key? = some "key-1" → ∀ r, result = .ok (.response r) → r.workflowId = name := by
  refine ⟨by decide +kernel, fun ⟨name, hserved⟩ => ?_⟩
  have hfirst := hserved [] (keyedRequest "key-1") { uuid4 := ⟨1⟩ } _ rfl rfl _ rfl
  have hreplay := hserved ((updatedBetween renamed).take 2) (keyedRequest "key-1") { uuid4 := ⟨2⟩ } []
    rfl rfl _ rfl
  rw [← hfirst] at hreplay
  exact absurd hreplay (by decide +kernel)

end OcenPlatform.Gateway
