import OcenPlatform.Common.RateLimit
import OcenPlatform.Common.Rbac

/-! Who gets to the ops endpoints: the rate limiter is outside, the role check behind it, and the
endpoints ask for an API key in the header that the role check has read as a token. -/

namespace OcenPlatform.Gateway

open Common

/-! ## `verify_ops_api_key` -/

/-- How a request ends: with an exception outside of the application's handlers, with a response on
the way, or at an ops endpoint or another route. -/
inductive HttpOutcome where
  | raised (error : String)
  | responded (statusCode : Nat) (detail : String)
  | opsEndpoint
  | elsewhere
  deriving DecidableEq, Repr

def isAscii (s : String) : Bool := s.toList.all fun c => c.toNat < 128

/-- `secrets.compare_digest` of two strings. -/
def compareDigest (a b : String) : Except String Bool :=
  if isAscii a && isAscii b then .ok (a = b)
  else .error "comparing strings with non-ASCII characters is not supported"

/-- The dependency of the ops endpoints. A missing header is a validation error. -/
def verifyOpsApiKey (opsApiKey : String) : Option String → HttpOutcome
  | none => .responded 422 "Field required"
  | some authorization =>
    if !startsWith authorization "Bearer " then .responded 401 "Invalid authorization header"
    else
      match compareDigest (String.ofList (authorization.toList.drop 7)) opsApiKey with
      | .error error => .raised error
      | .ok false => .responded 401 "Invalid API key"
      | .ok true => .opsEndpoint

theorem bearer_iff (authorization key : String) :
    startsWith authorization "Bearer " = true ∧
        String.ofList (authorization.toList.drop 7) = key ↔
      authorization = "Bearer " ++ key := by
  constructor
  · rintro ⟨hstarts, rfl⟩
    obtain ⟨rest, hrest⟩ := List.isPrefixOf_iff_prefix.mp hstarts
    have hdrop : authorization.toList.drop 7 = rest := by
      rw [← hrest]
      rfl
    apply String.toList_injective
    rw [hdrop, String.toList_append, ← hrest]
    exact congrArg _ String.toList_ofList.symm
  · rintro rfl
    refine ⟨List.isPrefixOf_iff_prefix.mpr ?_, ?_⟩
    · rw [String.toList_append]
      exact List.prefix_append _ _
    · rw [String.toList_append]
      exact String.ofList_toList

theorem verifyOpsApiKey_opsEndpoint_iff {key : String} {authorization : Option String} :
    verifyOpsApiKey key authorization = .opsEndpoint ↔
      authorization = some ("Bearer " ++ key) ∧ isAscii key = true := by
  cases authorization with
  | none => simp [verifyOpsApiKey]
  | some authorization =>
    rw [Option.some_inj, ← bearer_iff]
    simp only [verifyOpsApiKey, compareDigest]
    cases startsWith authorization "Bearer " with
    | false => simp
    | true =>
      by_cases hkey : String.ofList (authorization.toList.drop 7) = key
      · cases hascii : isAscii key <;> simp [hkey, hascii]
      · cases isAscii key <;>
          cases isAscii (String.ofList (authorization.toList.drop 7)) <;> simp [hkey]

/-! ## The stack -/

structure GatewayConfig where
  rateLimitEnabled : Bool
  rpm : Int := 60
  rbac : RbacConfig
  opsApiKey : String := "dev-ops-key-change-in-production"

structure HttpRequest where
  host : Option String
  now : Rat
  method : String
  path : String
  authorization : Option String

namespace HttpRequest

def arrival (r : HttpRequest) : Arrival := ⟨r.host, r.now⟩

/-- The routes of `ops_router`. -/
def isOps (r : HttpRequest) : Bool :=
  [("POST", "/ops/hold"), ("POST", "/ops/release"), ("POST", "/ops/flag"),
    ("POST", "/ops/escalate"), ("POST", "/ops/vendor/invite"), ("POST", "/ops/anchor/onboard"),
    ("GET", "/ops/applications/active")].contains (r.method, r.path) ||
  let applicationId := (removePrefix r.path "/ops/applications/").toList
  r.method = "GET" && startsWith r.path "/ops/applications/" && applicationId ≠ [] &&
    '/' ∉ applicationId

end HttpRequest

section Stack

variable {Key Claims Roles : Type} (config : GatewayConfig) (lib : RbacLibrary Key Claims Roles)

/-- What comes behind the limiter. -/
def behindLimiter (r : HttpRequest) : HttpOutcome :=
  match dispatch config.rbac lib ⟨r.path, r.authorization⟩ with
  | .respond statusCode detail => .responded statusCode detail
  | .callNext => if r.isOps then verifyOpsApiKey config.opsApiKey r.authorization else .elsewhere

/-- The limiter is the middleware that was added last, so the first that a request comes to. -/
def serve (m : RateLimitMiddleware) (r : HttpRequest) : HttpOutcome × RateLimitMiddleware :=
  match m.dispatch config.rateLimitEnabled r.arrival with
  | (.rejected e, m') => (.raised e.detail, m')
  | (_, m') => (behindLimiter config lib r, m')

/-- The limiter after these requests. -/
def limiterAfter (requests : List HttpRequest) : RateLimitMiddleware :=
  requests.foldl (fun m r => (serve config lib m r).2) { rpm := config.rpm }

/-- Each request with how it ended. -/
def outcomes (m : RateLimitMiddleware) : List HttpRequest → List (HttpRequest × HttpOutcome)
  | [] => []
  | r :: requests => (r, (serve config lib m r).1) :: outcomes (serve config lib m r).2 requests

/-- When requests of the client got to an ops endpoint. -/
def opsTimes (clientIp : String) (requests : List HttpRequest) : List Rat :=
  ((outcomes config lib { rpm := config.rpm } requests).filter fun o =>
    o.2 = .opsEndpoint ∧ o.1.arrival.clientIp = clientIp).map fun o => o.1.now

/-- The role check does not stop a request that has the API key for a token. -/
def KeyPasses (path : String) : Prop :=
  let request : RbacRequest := ⟨path, some ("Bearer " ++ config.opsApiKey)⟩
  config.rbac.enabled = true → authorize config.rbac lib request = .ok true ∨
    authorize config.rbac lib request = .error .other

variable {config lib} {m : RateLimitMiddleware} {r : HttpRequest} {requests : List HttpRequest}

/-! ## One request -/

theorem dispatch_bearer_iff {path key : String} :
    dispatch config.rbac lib ⟨path, some ("Bearer " ++ key)⟩ = .callNext ↔
      (config.rbac.enabled = true →
        authorize config.rbac lib ⟨path, some ("Bearer " ++ key)⟩ = .ok true ∨
        authorize config.rbac lib ⟨path, some ("Bearer " ++ key)⟩ = .error .other) := by
  have hbearer : (⟨path, some ("Bearer " ++ key)⟩ : RbacRequest).isBearer = true :=
    ((bearer_iff _ key).mpr rfl).1
  cases henabled : config.rbac.enabled with
  | false => simp [dispatch, henabled]
  | true =>
    rw [dispatch_of_bearer henabled hbearer]
    rcases authorize config.rbac lib ⟨path, some ("Bearer " ++ key)⟩ with (_ | _) | (_ | _) <;>
      simp

theorem behindLimiter_opsEndpoint_iff : behindLimiter config lib r = .opsEndpoint ↔
    r.isOps = true ∧ r.authorization = some ("Bearer " ++ config.opsApiKey) ∧
      isAscii config.opsApiKey = true ∧ KeyPasses config lib r.path := by
  constructor
  · intro h
    simp only [behindLimiter] at h
    split at h
    · cases h
    · rename_i hnext
      split at h
      · rename_i hops
        obtain ⟨hkey, hascii⟩ := verifyOpsApiKey_opsEndpoint_iff.mp h
        rw [hkey] at hnext
        exact ⟨hops, hkey, hascii, dispatch_bearer_iff.mp hnext⟩
      · cases h
  · rintro ⟨hops, hkey, hascii, hpasses⟩
    have hnext : dispatch config.rbac lib ⟨r.path, r.authorization⟩ = .callNext := by
      rw [hkey]
      exact dispatch_bearer_iff.mpr hpasses
    simp only [behindLimiter, hnext, hops, if_true]
    exact verifyOpsApiKey_opsEndpoint_iff.mpr ⟨hkey, hascii⟩

theorem serve_snd : (serve config lib m r).2 = (m.dispatch config.rateLimitEnabled r.arrival).2 := by
  unfold serve
  split <;> rename_i h <;> rw [h]

theorem serve_opsEndpoint_iff : (serve config lib m r).1 = .opsEndpoint ↔
    (∀ e, (m.dispatch config.rateLimitEnabled r.arrival).1 ≠ .rejected e) ∧
      behindLimiter config lib r = .opsEndpoint := by
  unfold serve
  split
  · rename_i e m' h
    simp [h]
  · rename_i outcome m' hne h
    rw [h]
    exact ⟨fun hserved => ⟨hne, hserved⟩, fun h => h.2⟩

/-! ## Runs -/

theorem limiterAfter_enabled (henabled : config.rateLimitEnabled = true) :
    limiterAfter config lib requests =
      RateLimitMiddleware.after config.rpm (requests.map HttpRequest.arrival) := by
  simp only [limiterAfter, RateLimitMiddleware.after, List.foldl_map, serve_snd, henabled]

/-- What the limiter does with a request depends on the client's own requests. -/
theorem dispatch_limiterAfter :
    ((limiterAfter config lib requests).dispatch config.rateLimitEnabled r.arrival).1 =
      ((RateLimitMiddleware.after config.rpm ((requests.map HttpRequest.arrival).filter
        fun a => a.clientIp = r.arrival.clientIp)).dispatch config.rateLimitEnabled r.arrival).1 := by
  cases henabled : config.rateLimitEnabled with
  | false => rfl
  | true =>
    rw [limiterAfter_enabled henabled]
    exact RateLimitMiddleware.dispatch_own _ _

theorem admitted_of_opsEndpoint (henabled : config.rateLimitEnabled = true)
    (h : (serve config lib m r).1 = .opsEndpoint) : (m.dispatch true r.arrival).1 = .admitted := by
  have hne := (serve_opsEndpoint_iff.mp h).1
  rw [henabled] at hne
  rw [RateLimitMiddleware.dispatch_admitted_iff]
  by_contra hoffer
  obtain ⟨e, he⟩ := RateLimitMiddleware.dispatch_rejected_iff.mpr (Bool.eq_false_iff.mpr hoffer)
  exact hne e he

/-- Whoever gets to an ops endpoint has been counted. -/
theorem opsTimes_sublist (henabled : config.rateLimitEnabled = true) (clientIp : String) :
    (opsTimes config lib clientIp requests).Sublist
      (RateLimitMiddleware.admitted config.rpm clientIp (requests.map HttpRequest.arrival)) := by
  unfold opsTimes RateLimitMiddleware.admitted
  generalize ({ rpm := config.rpm } : RateLimitMiddleware) = m
  induction requests generalizing m with
  | nil => exact .slnil
  | cons r requests ih =>
    have hrest := ih (m.dispatch true r.arrival).2
    simp only [outcomes, List.map_cons, RateLimitMiddleware.decisions, serve_snd, henabled,
      List.filter_cons, decide_eq_true_eq]
    by_cases hserved : (serve config lib m r).1 = .opsEndpoint ∧ r.arrival.clientIp = clientIp
    · rw [if_pos hserved, if_pos ⟨hserved.2, admitted_of_opsEndpoint henabled hserved.1⟩]
      exact hrest.cons_cons _
    · rw [if_neg hserved]
      split
      · exact hrest.cons _
      · exact hrest

theorem ne_opsEndpoint_of_mem {o : HttpRequest × HttpOutcome}
    (h : ∀ r, behindLimiter config lib r ≠ .opsEndpoint)
    (ho : o ∈ outcomes config lib m requests) : o.2 ≠ .opsEndpoint := by
  induction requests generalizing m with
  | nil => cases ho
  | cons r requests ih =>
    rcases List.mem_cons.mp ho with rfl | ho
    · exact fun hserved => h r (serve_opsEndpoint_iff.mp hserved).2
    · exact ih ho

/-- With Keycloak the API key is no token, and no token is the API key. -/
theorem behindLimiter_ne_of_invalidToken (henabled : config.rbac.enabled = true)
    (hjwks : config.rbac.keycloakJwksUrl ≠ "")
    (hkey : lib.jwt.getSigningKeyFromJwt config.rbac.keycloakJwksUrl config.opsApiKey =
      .error .invalidToken) : behindLimiter config lib r ≠ .opsEndpoint := by
  intro h
  obtain ⟨-, -, -, hpasses⟩ := behindLimiter_opsEndpoint_iff.mp h
  have htoken : (⟨r.path, some ("Bearer " ++ config.opsApiKey)⟩ : RbacRequest).token =
      config.opsApiKey := by
    obtain ⟨hstarts, hdrop⟩ := (bearer_iff _ config.opsApiKey).mpr rfl
    simp only [RbacRequest.token, RbacRequest.authHeader, Option.getD_some, removePrefix, hstarts,
      if_true]
    exact hdrop
  have hdecode : decodeToken config.rbac lib.jwt config.opsApiKey =
      .error (.authError "Invalid token") := by
    unfold decodeToken
    rw [if_pos hjwks, hkey]
    rfl
  have hauthorize : authorize config.rbac lib ⟨r.path, some ("Bearer " ++ config.opsApiKey)⟩ =
      .error (.authError "Invalid token") := by
    simp [authorize, htoken, hdecode]
  rcases hpasses henabled with h | h <;> rw [hauthorize] at h <;> cases h

end Stack

/-- After any requests, the next one gets to an ops endpoint if the limiter admits it next to the
client's own requests, it has the API key, and the role check has no objection to the key as a
token. Once Keycloak checks tokens, it objects. -/
theorem ops_access {Key Claims Roles : Type} (config : GatewayConfig)
    (lib : RbacLibrary Key Claims Roles) (requests : List HttpRequest) :
    (∀ r, (serve config lib (limiterAfter config lib requests) r).1 = .opsEndpoint ↔
      (∀ e, ((RateLimitMiddleware.after config.rpm ((requests.map HttpRequest.arrival).filter
        fun a => a.clientIp = r.arrival.clientIp)).dispatch config.rateLimitEnabled r.arrival).1 ≠
          .rejected e) ∧
      r.isOps = true ∧ r.authorization = some ("Bearer " ++ config.opsApiKey) ∧
      isAscii config.opsApiKey = true ∧ KeyPasses config lib r.path) ∧
    (config.rateLimitEnabled = true → 1 ≤ config.rpm → requests.Pairwise (·.now ≤ ·.now) →
      ∀ clientIp start, ((opsTimes config lib clientIp requests).filter fun t =>
        start ≤ t ∧ t < start + RateLimitMiddleware.windowSeconds).length ≤ config.rpm) ∧
    (config.rbac.enabled = true → config.rbac.keycloakJwksUrl ≠ "" →
      lib.jwt.getSigningKeyFromJwt config.rbac.keycloakJwksUrl config.opsApiKey =
        .error .invalidToken →
      ∀ o ∈ outcomes config lib { rpm := config.rpm } requests, o.2 ≠ .opsEndpoint) := by
  refine ⟨fun r => ?_, ?_, ?_⟩
  · rw [serve_opsEndpoint_iff, dispatch_limiterAfter, behindLimiter_opsEndpoint_iff]
  · intro henabled hrpm hclock clientIp start
    have hadmitted : ((RateLimitMiddleware.admitted config.rpm clientIp
        (requests.map HttpRequest.arrival)).filter fun t =>
          start ≤ t ∧ t < start + RateLimitMiddleware.windowSeconds).length ≤ config.rpm := by
      apply RateLimitMiddleware.admitted_within hrpm (List.pairwise_map.mpr hclock)
      intro s t hs ht
      simp only [decide_eq_true_eq] at hs ht
      linarith
    have hsublist : (opsTimes config lib clientIp requests).Sublist
        (RateLimitMiddleware.admitted config.rpm clientIp (requests.map HttpRequest.arrival)) :=
      opsTimes_sublist henabled clientIp
    have hle := (hsublist.filter fun t =>
      decide (start ≤ t ∧ t < start + RateLimitMiddleware.windowSeconds)).length_le
    omega
  · intro henabled hjwks hkey o
    exact ne_opsEndpoint_of_mem fun r => behindLimiter_ne_of_invalidToken henabled hjwks hkey

/-! The cutover from the API key to tokens, of which the key server knows the key. -/

def sampleKeycloak : RbacLibrary Unit Unit Unit where
  jwt := {
    getSigningKeyFromJwt := fun _ token => if threeParts token then .ok () else .error .invalidToken
    decode := fun _ _ _ => .ok ()
    decodeUnverified := fun token => if threeParts token then .ok () else .error .invalidToken }
  extractRolesFromToken := fun _ => .ok ()
  checkRoleAccess := fun _ _ => .ok true

def beforeCutover : GatewayConfig := { rateLimitEnabled := true, rbac := { enabled := false } }

def afterCutover : GatewayConfig := { rateLimitEnabled := true, rbac := productionConfig }

/-- A hold with the API key, and one with a token. -/
def sampleHolds : List HttpRequest :=
  [⟨some "10.0.0.1", 0, "POST", "/ops/hold", some "Bearer dev-ops-key-change-in-production"⟩,
    ⟨some "10.0.0.1", 1, "POST", "/ops/hold", some ("Bearer " ++ sampleToken)⟩]

theorem ops_access_cutover :
    (outcomes beforeCutover sampleKeycloak { } sampleHolds).map Prod.snd =
      [.opsEndpoint, .responded 401 "Invalid API key"] ∧
    (outcomes afterCutover sampleKeycloak { } sampleHolds).map Prod.snd =
      [.responded 401 "Invalid token", .responded 401 "Invalid API key"] ∧
    ∀ o ∈ outcomes afterCutover sampleKeycloak { } sampleHolds, o.2 ≠ .opsEndpoint :=
  ⟨by decide +kernel, by decide +kernel,
    (ops_access afterCutover sampleKeycloak sampleHolds).2.2 rfl (by decide) (by decide +kernel)⟩

end OcenPlatform.Gateway
