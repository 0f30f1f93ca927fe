import OcenPlatform.Gateway.Callback
import OcenPlatform.Ocen.Jws

/-! The `createLoanResponse` endpoint in front of the callback: the body is parsed,
then a signature is verified if the request carries one. -/

namespace OcenPlatform.Gateway

open Ocen

/-- A request as the handlers see it; header names are in lower case. -/
structure Request where
  headers : List (String × String)
  body : List UInt8

/-- `request.headers.get(name)`: the first header of that name. -/
def Request.header? (request : Request) (name : String) : Option String :=
  PyDict.find? request.headers name

inductive HttpResult where
  | ack (body : OcenAckResponse)
  | unauthorized (detail : String)
  | unprocessable

section Endpoint

variable {Priv Pub : Type} (rsa : Rsa Priv Pub) (signer : OcenJWSSigner Priv)

/-- `_verify_jws`. -/
def verifyJws (request : Request) : Bool :=
  match request.header? "x-jws-signature" with
  | none => true  -- no signature: dev mode, allow through
  | some signature => if signature = "" then true else signer.verify rsa signature request.body

/-- `POST /v4.0.0alpha/loanApplications/createLoanResponse`. `parse` is the validation
of the body, which comes before the handler. -/
def createLoanResponseEndpoint (parse : List UInt8 → Option CreateLoanApplicationResponse)
    (request : Request) (temporal : Nat → TemporalOutcome) (now : String) :
    HttpResult × List SignalCall :=
  match parse request.body with
  | none => (.unprocessable, [])
  | some response =>
    if verifyJws rsa signer request then
      let (ack, calls) := createLoanResponse response temporal now
      (.ack ack, calls)
    else (.unauthorized "Invalid JWS signature", [])

/-- The request carries a signature of its body that verifies under `key`. -/
def SignedUnder (key : Pub) (request : Request) : Prop :=
  ∃ signature, request.header? "x-jws-signature" = some signature ∧
    Verifies rsa key signature request.body

/-- The request carries no signature, or an empty one. -/
def Unsigned (request : Request) : Prop :=
  request.header? "x-jws-signature" = none ∨ request.header? "x-jws-signature" = some ""

/-- What the endpoint's check makes of a request: the key is the one that the
endpoint verifies with. -/
structure SignatureChecked (parse : List UInt8 → Option CreateLoanApplicationResponse)
    (request : Request) (temporal : Nat → TemporalOutcome) (now : String) : Prop where
  /-- Signals are sent for a parsed body that is unsigned or whose signature verifies. -/
  authentic : (createLoanResponseEndpoint rsa signer parse request temporal now).2 ≠ [] →
    Unsigned request ∨ SignedUnder rsa (rsa.publicKey signer.privateKey) request
  refused : ¬ Unsigned request → ¬ SignedUnder rsa (rsa.publicKey signer.privateKey) request →
    ∀ response, parse request.body = some response →
      createLoanResponseEndpoint rsa signer parse request temporal now =
        (.unauthorized "Invalid JWS signature", [])
  /-- A body signed with the private key is acknowledged and its signals are sent. -/
  accepted : ∀ response, parse request.body = some response →
    request.header? "x-jws-signature" = some (signer.sign rsa request.body) →
    createLoanResponseEndpoint rsa signer parse request temporal now =
      (.ack (createLoanResponse response temporal now).1, lenderSignals response temporal)

variable {rsa signer}

theorem verifyJws_iff {request : Request} : verifyJws rsa signer request = true ↔
    Unsigned request ∨ SignedUnder rsa (rsa.publicKey signer.privateKey) request := by
  unfold verifyJws Unsigned SignedUnder
  cases hheader : request.header? "x-jws-signature" with
  | none => simp
  | some signature =>
    by_cases hempty : signature = ""
    · simp [hempty]
    · simp only [hempty, if_false, OcenJWSSigner.verify, verifyUnder_iff]
      simp [hempty]

theorem endpoint_of_verified {parse : List UInt8 → Option CreateLoanApplicationResponse}
    {request : Request} {response : CreateLoanApplicationResponse}
    (hparse : parse request.body = some response) (hverify : verifyJws rsa signer request = true)
    (temporal : Nat → TemporalOutcome) (now : String) :
    createLoanResponseEndpoint rsa signer parse request temporal now =
      (.ack (createLoanResponse response temporal now).1, lenderSignals response temporal) := by
  simp [createLoanResponseEndpoint, hparse, hverify, createLoanResponse]

theorem endpoint_of_unverified {parse : List UInt8 → Option CreateLoanApplicationResponse}
    {request : Request} {response : CreateLoanApplicationResponse}
    (hparse : parse request.body = some response) (hverify : verifyJws rsa signer request = false)
    (temporal : Nat → TemporalOutcome) (now : String) :
    createLoanResponseEndpoint rsa signer parse request temporal now =
      (.unauthorized "Invalid JWS signature", []) := by
  simp [createLoanResponseEndpoint, hparse, hverify]

theorem endpoint_of_unparsed {parse : List UInt8 → Option CreateLoanApplicationResponse}
    {request : Request} (hparse : parse request.body = none)
    (temporal : Nat → TemporalOutcome) (now : String) :
    createLoanResponseEndpoint rsa signer parse request temporal now = (.unprocessable, []) := by
  simp [createLoanResponseEndpoint, hparse]

end Endpoint

/-- With signature checking by a correct RSA, signals are sent only for unsigned or
verifying requests, every other request is refused, and a genuine signature is
accepted. -/
theorem createLoanResponse_signatureChecked {Priv Pub : Type} (rsa : Rsa Priv Pub)
    (hrsa : rsa.Correct) (signer : OcenJWSSigner Priv)
    (parse : List UInt8 → Option CreateLoanApplicationResponse) (request : Request)
    (temporal : Nat → TemporalOutcome) (now : String) :
    SignatureChecked rsa signer parse request temporal now where
  authentic := by
    intro hcalls
    cases hparse : parse request.body with
    | none =>
      rw [endpoint_of_unparsed hparse] at hcalls
      exact absurd rfl hcalls
    | some response =>
      cases hverify : verifyJws rsa signer request with
      | true => exact verifyJws_iff.mp hverify
      | false =>
        rw [endpoint_of_unverified hparse hverify] at hcalls
        exact absurd rfl hcalls
  refused := by
    intro hsigned hkey response hparse
    cases hverify : verifyJws rsa signer request with
    | true => exact absurd (verifyJws_iff.mp hverify) (not_or.mpr ⟨hsigned, hkey⟩)
    | false => exact endpoint_of_unverified hparse hverify temporal now
  accepted := by
    intro response hparse hheader
    refine endpoint_of_verified hparse (verifyJws_iff.mpr (.inr ⟨_, hheader, ?_⟩)) temporal now
    exact verifyUnder_iff.mp (verify_sign hrsa signer request.body)

/-! A scheme whose signatures are the data behind the key, and two requests. -/

def toyRsa : Rsa (List UInt8) (List UInt8) where
  publicKey key := key
  sign key data := key ++ data
  verify key signature data := signature == key ++ data

theorem toyRsa_correct : toyRsa.Correct := by
  intro key data
  simp [toyRsa]

def toySigner : OcenJWSSigner (List UInt8) where
  privateKey := [1, 2, 3]
  kid := "dev-key-1"

def sampleCallback : CreateLoanApplicationResponse where
  metadata := {
    originatorOrgId := "lender-001"
    originatorParticipantId := "lender-001"
    traceId := "trace-1"
    requestId := "request-1" }
  response := {}
  loanApplications := [{ loanApplicationId := "LA-1" }]

def signedRequest : Request where
  headers := [("x-jws-signature", toySigner.sign toyRsa [123, 125])]
  body := [123, 125]

theorem createLoanResponse_signatureChecked_signed :
    SignatureChecked toyRsa toySigner (fun _ => some sampleCallback) signedRequest
      (fun _ => .accepted) "2026-01-01T00:00:00+00:00" :=
  createLoanResponse_signatureChecked toyRsa toyRsa_correct toySigner _ _ _ _

/-- A request without a signature gets its signals sent. -/
theorem unsigned_request_signalled :
    (createLoanResponseEndpoint toyRsa toySigner (fun _ => some sampleCallback)
      { headers := [], body := [123, 125] } (fun _ => .accepted)
      "2026-01-01T00:00:00+00:00").2 ≠ [] ∧
    ¬ ∃ lenderKey, SignedUnder toyRsa lenderKey { headers := [], body := [123, 125] } := by
  constructor
  · decide
  · rintro ⟨lenderKey, signature, hheader, -⟩
    cases hheader

end OcenPlatform.Gateway
