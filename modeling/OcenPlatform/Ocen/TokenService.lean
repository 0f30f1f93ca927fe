import Mathlib.Algebra.Order.Ring.Rat
import Mathlib.Data.List.Induction
import Mathlib.Logic.Function.Basic
import Mathlib.Tactic.Linarith
import OcenPlatform.Durable.Program
import OcenPlatform.Json

/-! `OcenTokenService`: a bearer token with the time from which it is not used any more, and the
calls that share it. Several of them may refresh it at once. -/

namespace OcenPlatform.Ocen

open Durable (EachEntry eachEntry_nil eachEntry_snoc)

/-! ## The service -/

structure OcenTokenService where
  clientId : String
  clientSecret : String
  tokenUrl : String
  cachedToken : Json := .null
  tokenExpiry : Rat := 0

def defaultTokenUrl : String :=
  "https://auth.ocen.network/realms/dev/protocol/openid-connect/token"

/-- `value or default`. -/
def orDefault (value : Option String) (default : String) : String :=
  match value with
  | some s => if s = "" then default else s
  | none => default

/-- The data of the POST to the identity provider. -/
structure TokenPost where
  url : String
  data : List (String × String)

/-- A number that is added to a clock reading. -/
def number : Json → Except String Rat
  | .num q => .ok q
  | .bool b => .ok (if b then 1 else 0)
  | _ => .error "TypeError"

namespace OcenTokenService

/-- `OcenTokenService(client_id, client_secret, token_url)`. -/
def new (environ : PyDict String String) (clientId clientSecret tokenUrl : Option String) :
    OcenTokenService where
  clientId := orDefault clientId (PyDict.get environ "OCEN_CLIENT_ID" "")
  clientSecret := orDefault clientSecret (PyDict.get environ "OCEN_CLIENT_SECRET" "")
  tokenUrl := orDefault tokenUrl (PyDict.get environ "OCEN_TOKEN_URL" defaultTokenUrl)

variable (service : OcenTokenService)

/-- The answer of `get_bearer_token` from the cache, if it has one. -/
def cached? (now : Rat) : Option Json :=
  if service.cachedToken.truthy && now < service.tokenExpiry then some service.cachedToken else none

def post : TokenPost where
  url := service.tokenUrl
  data := [("grant_type", "client_credentials"), ("client_id", service.clientId),
    ("client_secret", service.clientSecret)]

/-- `get_bearer_token` once it has the data of a response. No other call runs meanwhile, but the
token is stored before the expiry, which may raise. -/
def store (tokenData : Json) (now : Rat) : Except String Json × OcenTokenService :=
  match tokenData.subscript "access_token" with
  | .error e => (.error e, service)
  | .ok token =>
    let service := { service with cachedToken := token }
    match (do number (← tokenData.get "expires_in" (.num 300)) : Except String Rat) with
    | .error e => (.error e, service)
    | .ok expiresIn => (.ok token, { service with tokenExpiry := now + expiresIn - 30 })

end OcenTokenService

/-! ## Concurrent calls -/

/-- A response of the identity provider, with what `raise_for_status` and `json` make of it. -/
structure TokenResponse where
  issuedAt : Rat
  tokenData : Except String Json

/-- Where a call of `get_bearer_token` is. -/
inductive TokenCall where
  | idle
  | posting
  | answered (response : TokenResponse)
  | returned (token : Json)
  | raised (e : String)

inductive TokenAct where
  | call (id : Nat)
  /-- The provider answers the post of the call. -/
  | issue (id : Nat) (tokenData : Except String Json)
  /-- The response does not reach the call. -/
  | fail (id : Nat) (e : String)
  /-- The call goes on with its response. -/
  | resume (id : Nat)

structure TokenEvent where
  now : Rat
  act : TokenAct

inductive TokenEntry where
  | posted (id : Nat) (post : TokenPost)
  | stored (id : Nat) (response : TokenResponse) (now : Rat)
  /-- The call has been answered from the cache. -/
  | served (id : Nat) (token : Json) (now : Rat)

structure TokenRun where
  service : OcenTokenService
  calls : Nat → TokenCall := fun _ => .idle
  trace : List TokenEntry := []

namespace TokenRun

/-- One step. What cannot happen in this state is dropped. -/
def step (s : TokenRun) (event : TokenEvent) : TokenRun :=
  match event.act with
  | .call id =>
    match s.calls id with
    | .idle =>
      match s.service.cached? event.now with
      | some token => { s with
          calls := Function.update s.calls id (.returned token)
          trace := s.trace ++ [.served id token event.now] }
      | none => { s with
          calls := Function.update s.calls id .posting
          trace := s.trace ++ [.posted id s.service.post] }
    | _ => s
  | .issue id tokenData =>
    match s.calls id with
    | .posting => { s with
        calls := Function.update s.calls id (.answered { issuedAt := event.now, tokenData }) }
    | _ => s
  | .fail id e =>
    match s.calls id with
    | .posting | .answered _ => { s with calls := Function.update s.calls id (.raised e) }
    | _ => s
  | .resume id =>
    match s.calls id with
    | .answered response =>
      match response.tokenData with
      | .error e => { s with calls := Function.update s.calls id (.raised e) }
      | .ok tokenData =>
        match s.service.store tokenData event.now with
        | (.error e, service) => { s with
            service
            calls := Function.update s.calls id (.raised e) }
        | (.ok token, service) =>
          { service
            calls := Function.update s.calls id (.returned token)
            trace := s.trace ++ [.stored id response event.now] }
    | _ => s

def run (service : OcenTokenService) (events : List TokenEvent) : TokenRun :=
  events.foldl step { service }

end TokenRun

/-! ## What a token stems from -/

/-- The response states how long its token lives. -/
def StatesLifetime (tokenData : Except String Json) : Prop :=
  ∀ data, tokenData = .ok data → ∃ fields lifetime, data = .obj fields ∧
    PyDict.find? fields "expires_in" = some (.num lifetime)

/-- The response has this token with this lifetime. -/
def TokenResponse.Gives (response : TokenResponse) (token : Json) (lifetime : Rat) : Prop :=
  ∃ fields, response.tokenData = .ok (.obj fields) ∧
    PyDict.find? fields "access_token" = some token ∧
    PyDict.find? fields "expires_in" = some (.num lifetime)

def TokenEntry.stored? : TokenEntry → Option (TokenResponse × Rat)
  | .stored _ response now => some (response, now)
  | _ => none

/-- The response that was stored last, and when. -/
def lastStored (trace : List TokenEntry) : Option (TokenResponse × Rat) :=
  (trace.filterMap TokenEntry.stored?).getLast?

/-- The cached token and its expiry are those of the response that was stored last. -/
def TokenRun.Stems (s : TokenRun) : Prop :=
  match lastStored s.trace with
  | none => s.service.cachedToken = .null ∧ s.service.tokenExpiry = 0
  | some (response, storedAt) => ∃ lifetime, response.Gives s.service.cachedToken lifetime ∧
      s.service.tokenExpiry = storedAt + lifetime - 30

/-- What is served is the token of the response that was stored last. It lives for more than 30
seconds and has not ended yet. -/
def Alive (before : List TokenEntry) : TokenEntry → Prop
  | .served _ token now => ∃ response storedAt lifetime,
      lastStored before = some (response, storedAt) ∧ response.Gives token lifetime ∧
        now < response.issuedAt + lifetime ∧ 30 < lifetime
  | _ => True

section Steps

variable {service : OcenTokenService} {s s' : TokenRun} {event : TokenEvent}

theorem lastStored_snoc (trace : List TokenEntry) (entry : TokenEntry) :
    lastStored (trace ++ [entry]) = entry.stored?.or (lastStored trace) := by
  unfold lastStored
  rw [List.filterMap_append, List.getLast?_append]
  cases entry <;> rfl

theorem cached?_some {token : Json} {now : Rat} (h : service.cached? now = some token) :
    service.cachedToken = token ∧ token.truthy = true ∧ now < service.tokenExpiry := by
  unfold OcenTokenService.cached? at h
  split at h
  · rename_i hcached
    obtain rfl := Option.some.inj h
    rw [Bool.and_eq_true, decide_eq_true_eq] at hcached
    exact ⟨rfl, hcached⟩
  · cases h

/-- With a lifetime, either both are stored or neither is. -/
theorem store_of_lifetime {fields : Dict} {lifetime : Rat}
    (h : PyDict.find? fields "expires_in" = some (.num lifetime)) (now : Rat) :
    service.store (.obj fields) now =
      match PyDict.find? fields "access_token" with
      | none => (.error "KeyError", service)
      | some token => (.ok token,
          { service with cachedToken := token, tokenExpiry := now + lifetime - 30 }) := by
  have hget : PyDict.get fields "expires_in" (.num 300) = .num lifetime := by
    rw [PyDict.get, h, Option.getD_some]
  cases htoken : PyDict.find? fields "access_token" with
  | none => simp only [OcenTokenService.store, Json.subscript, htoken]
  | some token =>
    simp only [OcenTokenService.store, Json.subscript, htoken, Json.get, hget]
    rfl

def TokenCall.response? : TokenCall → Option TokenResponse
  | .answered response => some response
  | _ => none

/-- The responses that are on their way state a lifetime. -/
def InFlight (calls : Nat → TokenCall) : Prop :=
  ∀ id response, calls id = .answered response → StatesLifetime response.tokenData

theorem InFlight.set {calls : Nat → TokenCall} (h : InFlight calls) (id : Nat) {call : TokenCall}
    (hcall : ∀ response, call = .answered response → StatesLifetime response.tokenData) :
    InFlight (Function.update calls id call) := by
  intro id' response hanswered
  by_cases hid : id' = id
  · rw [hid, Function.update_self] at hanswered
    exact hcall response hanswered
  · rw [Function.update_of_ne hid] at hanswered
    exact h id' response hanswered

theorem InFlight.answered {calls : Nat → TokenCall} (h : InFlight calls) (id : Nat)
    {response : TokenResponse} (hresponse : StatesLifetime response.tokenData) :
    InFlight (Function.update calls id (.answered response)) := by
  refine h.set id fun response' hsame => ?_
  obtain rfl := TokenCall.answered.inj hsame
  exact hresponse

/-- A call that has no response at hand. -/
theorem InFlight.update {calls : Nat → TokenCall} (h : InFlight calls) (id : Nat) {call : TokenCall}
    (hcall : call.response? = none) : InFlight (Function.update calls id call) := by
  refine h.set id fun response hanswered => ?_
  rw [hanswered] at hcall
  cases hcall

/-- **What a step can do** to the service and to the trace. -/
inductive TokenRun.Moves (s : TokenRun) (now : Rat) : TokenRun → Prop
  | quiet (calls : Nat → TokenCall) : Moves s now { s with calls }
  | posted (calls : Nat → TokenCall) (id : Nat) : Moves s now { s with
      calls
      trace := s.trace ++ [.posted id s.service.post] }
  | served (calls : Nat → TokenCall) (id : Nat) {token : Json}
      (hcached : s.service.cached? now = some token) : Moves s now { s with
        calls
        trace := s.trace ++ [.served id token now] }
  | stored (calls : Nat → TokenCall) (id : Nat) {response : TokenResponse} {token : Json}
      {lifetime : Rat} (hgives : response.Gives token lifetime) : Moves s now {
        service := { s.service with cachedToken := token, tokenExpiry := now + lifetime - 30 }
        calls
        trace := s.trace ++ [.stored id response now] }

/-- Inversion of a step. -/
theorem moves (hflight : InFlight s.calls)
    (hissue : ∀ id tokenData, event.act = .issue id tokenData → StatesLifetime tokenData) :
    InFlight (s.step event).calls ∧ s.Moves event.now (s.step event) := by
  have hsame : InFlight s.calls ∧ s.Moves event.now s := ⟨hflight, .quiet s.calls⟩
  cases hact : event.act with
  | call id =>
    cases hcall : s.calls id with
    | idle =>
      cases hcached : s.service.cached? event.now with
      | some token =>
        simp only [TokenRun.step, hact, hcall, hcached]
        exact ⟨hflight.update id rfl, .served _ id hcached⟩
      | none =>
        simp only [TokenRun.step, hact, hcall, hcached]
        exact ⟨hflight.update id rfl, .posted _ id⟩
    | _ => simpa only [TokenRun.step, hact, hcall] using hsame
  | issue id tokenData =>
    cases hcall : s.calls id with
    | posting =>
      simp only [TokenRun.step, hact, hcall]
      exact ⟨hflight.answered id (hissue id tokenData hact), .quiet _⟩
    | _ => simpa only [TokenRun.step, hact, hcall] using hsame
  | fail id e =>
    cases hcall : s.calls id with
    | posting | answered =>
      simp only [TokenRun.step, hact, hcall]
      exact ⟨hflight.update id rfl, .quiet _⟩
    | _ => simpa only [TokenRun.step, hact, hcall] using hsame
  | resume id =>
    cases hcall : s.calls id with
    | answered response =>
      cases hdata : response.tokenData with
      | error e =>
        simp only [TokenRun.step, hact, hcall, hdata]
        exact ⟨hflight.update id rfl, .quiet _⟩
      | ok tokenData =>
        obtain ⟨fields, lifetime, rfl, hlifetime⟩ := hflight id response hcall tokenData hdata
        cases htoken : PyDict.find? fields "access_token" with
        | none =>
          simp only [TokenRun.step, hact, hcall, hdata, store_of_lifetime hlifetime, htoken]
          exact ⟨hflight.update id rfl, .quiet _⟩
        | some token =>
          simp only [TokenRun.step, hact, hcall, hdata, store_of_lifetime hlifetime, htoken]
          exact ⟨hflight.update id rfl, .stored _ id ⟨fields, hdata, htoken, hlifetime⟩⟩
    | _ => simpa only [TokenRun.step, hact, hcall] using hsame

/-- The trace only grows. -/
theorem TokenRun.Moves.trace_grows {now : Rat} (h : s.Moves now s') : s.trace <+: s'.trace := by
  cases h with
  | quiet => exact List.prefix_refl _
  | posted | served | stored => exact List.prefix_append _ _

/-- What is stored was there before or is stored now. -/
theorem TokenRun.Moves.mem_stored {now storedAt : Rat} {id : Nat} {response : TokenResponse}
    (h : s.Moves now s') (hmem : .stored id response storedAt ∈ s'.trace) :
    .stored id response storedAt ∈ s.trace ∨ storedAt = now := by
  cases h with
  | quiet => exact .inl hmem
  | posted | served => exact .inl (by simpa using hmem)
  | stored =>
    rcases List.mem_append.mp hmem with hold | hnew
    · exact .inl hold
    · obtain ⟨-, -, rfl⟩ := TokenEntry.stored.inj (List.mem_singleton.mp hnew)
      exact .inr rfl

theorem TokenRun.Stems.moves {now : Rat} (hstems : s.Stems) (h : s.Moves now s') : s'.Stems := by
  unfold TokenRun.Stems at hstems ⊢
  cases h with
  | quiet => exact hstems
  | posted | served =>
    rw [lastStored_snoc]
    exact hstems
  | stored _ _ hgives =>
    rw [lastStored_snoc]
    exact ⟨_, hgives, rfl⟩

theorem mem_of_lastStored {trace : List TokenEntry} {response : TokenResponse} {storedAt : Rat}
    (h : lastStored trace = some (response, storedAt)) :
    ∃ id, .stored id response storedAt ∈ trace := by
  obtain ⟨entry, hmem, hstored⟩ := List.mem_filterMap.mp (List.mem_of_getLast? h)
  cases entry with
  | stored id response' now =>
    obtain ⟨rfl, rfl⟩ := Prod.mk.inj (Option.some.inj hstored)
    exact ⟨id, hmem⟩
  | posted | served => cases hstored

/-- The margin of 30 seconds: an answer from the cache is a token that still lives. -/
theorem alive_of_cached {token : Json} {now : Rat} {id : Nat} (hstems : s.Stems)
    (hpast : ∀ id response storedAt, .stored id response storedAt ∈ s.trace → storedAt ≤ now)
    (hprompt : ∀ id response storedAt, .stored id response storedAt ∈ s.trace →
      storedAt - response.issuedAt < 30)
    (hcached : s.service.cached? now = some token) : Alive s.trace (.served id token now) := by
  obtain ⟨rfl, htruthy, hnow⟩ := cached?_some hcached
  unfold TokenRun.Stems at hstems
  cases hlast : lastStored s.trace with
  | none =>
    simp only [hlast] at hstems
    rw [hstems.1] at htruthy
    cases htruthy
  | some last =>
    obtain ⟨response, storedAt⟩ := last
    simp only [hlast] at hstems
    obtain ⟨lifetime, hgives, hexpiry⟩ := hstems
    obtain ⟨id', hmem⟩ := mem_of_lastStored hlast
    have hstored := hpast id' response storedAt hmem
    have hdelay := hprompt id' response storedAt hmem
    rw [hexpiry] at hnow
    exact ⟨response, storedAt, lifetime, hlast, hgives, by linarith, by linarith⟩

end Steps

/-! ## Every run -/

namespace TokenRun

/-- What holds in every state of a run until the times `nows`. -/
structure Inv (s : TokenRun) (nows : List Rat) : Prop where
  inFlight : InFlight s.calls
  stems : s.Stems
  times : ∀ id response storedAt, .stored id response storedAt ∈ s.trace → storedAt ∈ nows
  alive : EachEntry Alive s.trace

/-- The responses that are stored have been issued less than 30 seconds before. -/
def Prompt (s : TokenRun) : Prop :=
  ∀ id response storedAt, .stored id response storedAt ∈ s.trace → storedAt - response.issuedAt < 30

variable {s s' : TokenRun} {nows : List Rat} {event : TokenEvent}

theorem Prompt.of_grows (h : s'.Prompt) (hgrows : s.trace <+: s'.trace) : s.Prompt :=
  fun id response storedAt hmem => h id response storedAt (hgrows.subset hmem)

/-- **Step lemma.** -/
theorem Inv.step (h : s.Inv nows) (hprompt : s.Prompt) (hpast : ∀ now ∈ nows, now ≤ event.now)
    (hissue : ∀ id tokenData, event.act = .issue id tokenData → StatesLifetime tokenData) :
    (s.step event).Inv (nows ++ [event.now]) := by
  obtain ⟨hflight, hmoves⟩ := moves h.inFlight hissue
  refine ⟨hflight, h.stems.moves hmoves, fun id response storedAt hmem => ?_, ?_⟩
  · rcases hmoves.mem_stored hmem with hold | rfl
    · exact List.mem_append_left _ (h.times id response storedAt hold)
    · exact List.mem_append_right _ (.head _)
  · generalize s.step event = s' at hmoves ⊢
    cases hmoves with
    | quiet => exact h.alive
    | posted | stored => exact (eachEntry_snoc _).mpr ⟨h.alive, trivial⟩
    | served _ id hcached =>
      refine (eachEntry_snoc _).mpr ⟨h.alive, alive_of_cached h.stems ?_ hprompt hcached⟩
      exact fun id response storedAt hmem => hpast storedAt (h.times id response storedAt hmem)

theorem inv_new (service : OcenTokenService) (hnew : service.cachedToken = .null)
    (hexpiry : service.tokenExpiry = 0) : ({ service } : TokenRun).Inv [] where
  inFlight := nofun
  stems := ⟨hnew, hexpiry⟩
  times := nofun
  alive := eachEntry_nil

theorem run_snoc (service : OcenTokenService) (events : List TokenEvent) (event : TokenEvent) :
    run service (events ++ [event]) = (run service events).step event := by
  rw [run, List.foldl_append]
  rfl

/-- Every response states a lifetime. -/
def StateLifetimes (events : List TokenEvent) : Prop :=
  ∀ event ∈ events, ∀ id tokenData, event.act = .issue id tokenData → StatesLifetime tokenData

theorem StateLifetimes.snoc {events : List TokenEvent} (h : StateLifetimes (events ++ [event])) :
    StateLifetimes events ∧ ∀ id tokenData, event.act = .issue id tokenData → StatesLifetime tokenData :=
  ⟨fun e he => h e (List.mem_append_left _ he), h event (List.mem_append_right _ (.head _))⟩

theorem inFlight_run (service : OcenTokenService) {events : List TokenEvent}
    (h : StateLifetimes events) : InFlight (run service events).calls := by
  induction events using List.reverseRecOn with
  | nil => exact nofun
  | append_singleton events event ih =>
    rw [run_snoc]
    exact (moves (ih h.snoc.1) h.snoc.2).1

/-- **Run lemma.** -/
theorem inv_run {service : OcenTokenService} (hnew : service.cachedToken = .null)
    (hexpiry : service.tokenExpiry = 0) {events : List TokenEvent}
    (hclock : events.Pairwise fun e e' => e.now ≤ e'.now) (hissue : StateLifetimes events)
    (hprompt : (run service events).Prompt) : (run service events).Inv (events.map TokenEvent.now) := by
  induction events using List.reverseRecOn with
  | nil => exact inv_new service hnew hexpiry
  | append_singleton events event ih =>
    rw [run_snoc] at hprompt ⊢
    obtain ⟨hbefore, -, hlast⟩ := List.pairwise_append.mp hclock
    have hmoves := (moves (inFlight_run service hissue.snoc.1) hissue.snoc.2).2
    have hprompt' := hprompt.of_grows hmoves.trace_grows
    rw [List.map_append]
    refine (ih hbefore hissue.snoc.1 hprompt').step hprompt' (fun now hnow => ?_) hissue.snoc.2
    obtain ⟨e, he, rfl⟩ := List.mem_map.mp hnow
    exact hlast e he event (.head _)

end TokenRun

/-- **No call is answered from the cache with a token whose life has ended:** in every run with
non-decreasing times, the cached token and its expiry stem from one response, and what is served
from the cache is the token of that response, while it lives and only if it lives for more than 30
seconds. -/
theorem cached_alive (environ : PyDict String String) (clientId clientSecret tokenUrl : Option String)
    (events : List TokenEvent) (hclock : events.Pairwise fun e e' => e.now ≤ e'.now)
    (hissue : TokenRun.StateLifetimes events)
    (hprompt : (TokenRun.run (.new environ clientId clientSecret tokenUrl) events).Prompt) :
    (TokenRun.run (.new environ clientId clientSecret tokenUrl) events).Stems ∧
      EachEntry Alive (TokenRun.run (.new environ clientId clientSecret tokenUrl) events).trace :=
  have hinv := TokenRun.inv_run rfl rfl hclock hissue hprompt
  ⟨hinv.stems, hinv.alive⟩

/-! Two calls that refresh at once: the older response is stored last, and a third call is served
its token. -/

def tokenData (token : String) (lifetime : Rat) : Except String Json :=
  .ok (.obj [("access_token", .str token), ("expires_in", .num lifetime)])

def sampleEvents : List TokenEvent := [
  { now := 100, act := .call 0 },
  { now := 100, act := .call 1 },
  { now := 101, act := .issue 0 (tokenData "tok-1" 60) },
  { now := 102, act := .issue 1 (tokenData "tok-2" 300) },
  { now := 103, act := .resume 1 },
  { now := 110, act := .resume 0 },
  { now := 139, act := .call 2 },
  { now := 140, act := .call 3 }]

def sampleRun : TokenRun := TokenRun.run (.new [] none none none) sampleEvents

def TokenEntry.served? : TokenEntry → Option (Nat × Rat)
  | .served id _ now => some (id, now)
  | _ => none

example : sampleRun.trace.filterMap TokenEntry.served? = [(2, 139)] := by decide +kernel

theorem cached_alive_overwritten : sampleRun.Stems ∧ EachEntry Alive sampleRun.trace := by
  refine cached_alive [] none none none sampleEvents (by decide +kernel) ?_ ?_
  · intro event hevent id tokenData hact data hdata
    simp only [sampleEvents, List.mem_cons, List.not_mem_nil, or_false] at hevent
    rcases hevent with rfl | rfl | rfl | rfl | rfl | rfl | rfl | rfl <;> cases hact <;> cases hdata
    · exact ⟨_, 60, rfl, rfl⟩
    · exact ⟨_, 300, rfl, rfl⟩
  · intro id response storedAt hmem
    have hall : (sampleRun.trace.filterMap TokenEntry.stored?).all
        (fun p => p.2 - p.1.issuedAt < 30) = true := by decide +kernel
    have hstored : (response, storedAt) ∈ sampleRun.trace.filterMap TokenEntry.stored? :=
      List.mem_filterMap.mpr ⟨_, hmem, rfl⟩
    exact of_decide_eq_true (List.all_eq_true.mp hall _ hstored)

end OcenPlatform.Ocen
