import OcenPlatform.Durable.Retry
import OcenPlatform.Ocen.NetworkClient
import OcenPlatform.Origination.Consent

/-! The workflow with its activities down to the OCEN network. The rules engine may
return anything, so that the results are about every decision of D0 to D3. -/

namespace OcenPlatform.Origination

open Durable Ocen

/-- The activity's function, with the network client's code in it. -/
def Activity.networkCode (client : OcenNetworkClient) : Activity → NetworkCode Json
  | .evaluateDecision input => perform (.evaluateDecision input)
  | .checkDpdpConsent input => (Activities.checkDpdpConsent input).interpret client.implement
  | .fetchAaData input => (Activities.fetchAaData input).interpret client.implement
  | .submitToLender input => (Activities.submitToLender input).interpret client.implement
  | .submitOcenLoanRequest input =>
    (Activities.submitOcenLoanRequest input).interpret client.implement

/-- Every call can be answered with anything and can fail. -/
def networkOrigination (input : WorkflowInput) :
    Deployment LoanOriginationWorkflow Activity Json Signal RunResult OcenNetworkClient Unit
      NetworkCall NetworkCall.Reply where
  handlers := handlers
  program := runMethod input
  code := Activity.networkCode
  retryPolicy := Activity.retryPolicy
  answers _ _ _ := true

abbrev NetworkHappening :=
  Happening Signal OcenNetworkClient Unit NetworkCall NetworkCall.Reply

abbrev NetworkEntry := Entry OcenNetworkClient Activity NetworkCall NetworkCall.Reply Json Unit

abbrev NetworkLog := Log OcenNetworkClient Activity NetworkCall NetworkCall.Reply Json Unit

/-- What the attempts of a run have done. -/
def networkLog (input : WorkflowInput) (early : List Signal)
    (happenings : List NetworkHappening) : NetworkLog :=
  (World.run (networkOrigination input) early () happenings).log

theorem networkLog_coherent (input : WorkflowInput) (early : List Signal)
    (happenings : List NetworkHappening) : Coherent (networkOrigination input) early ()
      (World.run (networkOrigination input) early () happenings) :=
  coherent_run (networkOrigination input) early () happenings

/-! ## Calls with an effect outside -/

/-- The activity that the call is there for. -/
def Call.effect? : Call → Option Stage
  | .createConsent _ _ _ => some .fetchAaData
  | .submitApplication _ _ _ => some .submitToLender
  | .submitLoanApplication _ => some .submitOcenLoanRequest
  | _ => none

def Call.hasEffect (k : Stage) (c : Call) : Bool := c.effect? = some k

section Effects

variable {k : Stage} {n : Nat} {β : Type}

theorem atMost_of_noEffect {p : Proc Call Call.Reply β}
    (hp : p.Every fun c => c.effect? = none) : p.AtMost (Call.hasEffect k) n := by
  apply Proc.Every.atMost
  exact hp.mono fun c hc => by simp [Call.hasEffect, hc]

/-- A call with an effect is followed by calls without one. -/
theorem atMost_effect {c : Call} {f : c.Reply → Proc Call Call.Reply β}
    (hf : ∀ v, (f v).Every fun c => c.effect? = none) :
    (await c >>= f).AtMost (Call.hasEffect k) (if c.effect? = some k then 1 else 0) := by
  by_cases hk : c.effect? = some k
  · rw [if_pos hk]
    exact Proc.atMost_ask_bind_succ fun v => atMost_of_noEffect (hf v)
  · rw [if_neg hk]
    exact Proc.atMost_ask_bind_none (by simp [Call.hasEffect, hk]) fun v => atMost_of_noEffect (hf v)

theorem checkDpdpConsent_effects (i : CheckDPDPConsentInput) :
    (Activities.checkDpdpConsent i).AtMost (Call.hasEffect k) n := by
  apply atMost_of_noEffect
  exact Proc.every_ask_bind rfl fun _ => Proc.every_ask_bind rfl fun _ => trivial

theorem fetchAaData_effects (i : FetchAADataInput) : (Activities.fetchAaData i).AtMost
    (Call.hasEffect k) (if some Stage.fetchAaData = some k then 1 else 0) := by
  by_cases hgstin : i.vendorGstin = ""
  · rw [fetchAaData_noGstin hgstin]
    trivial
  unfold Activities.fetchAaData
  simp only [if_neg hgstin]
  refine Proc.atMost_ask_bind_none rfl fun _ => atMost_effect fun consentId => ?_
  have hfetch : ∀ status : String, Proc.Every (fun c => c.effect? = none)
      (if status ≠ "approved" then pure Activities.noDataReceived
       else do
        let data ← await (.fetchFinancialData consentId)
        return .obj [("data_received", .bool true), ("months_available", .num data.monthsAvailable),
          ("fips_responded", .arr (data.bankStatements.map fun s =>
            PyDict.get s "bank_name" (.str "unknown"))),
          ("gst_returns_count", .num data.gstReturns.length), ("aa_consent_id", .str consentId)]) := by
    intro status
    split
    · trivial
    · exact Proc.every_ask_bind rfl fun _ => trivial
  split
  · refine Proc.every_ask_bind rfl fun _ => Proc.every_ask_bind rfl fun _ => ?_
    exact Proc.every_ask_bind rfl hfetch
  · exact Proc.every_ask_bind rfl hfetch

theorem submitToLender_effects (i : SubmitToLenderInput) : (Activities.submitToLender i).AtMost
    (Call.hasEffect k) (if some Stage.submitToLender = some k then 1 else 0) := by
  refine Proc.atMost_ofExcept_bind fun _ => Proc.atMost_ask_bind_none rfl fun _ => ?_
  refine atMost_effect fun submissionId => Proc.every_ask_bind rfl fun offers => ?_
  cases offers <;> trivial

theorem submitOcenLoanRequest_effects (i : SubmitOcenLoanRequestInput) :
    (Activities.submitOcenLoanRequest i).AtMost (Call.hasEffect k)
      (if some Stage.submitOcenLoanRequest = some k then 1 else 0) := by
  refine Proc.atMost_ask_bind_none rfl fun _ => Proc.atMost_ask_bind_none rfl fun _ => ?_
  exact Proc.atMost_ask_bind_none rfl fun _ => atMost_effect fun _ => trivial

/-- Each activity makes the call that it is there for at most once, and no other. -/
theorem networkCode_effects (client : OcenNetworkClient) (a : Activity) :
    (∃ i, a = .evaluateDecision i) ∨ ∃ p : ActivityCode,
      a.networkCode client = p.interpret client.implement ∧
      ∀ k, p.AtMost (Call.hasEffect k) (if some a.stage = some k then 1 else 0) := by
  cases a with
  | evaluateDecision i => exact .inl ⟨i, rfl⟩
  | checkDpdpConsent i => exact .inr ⟨_, rfl, fun _ => checkDpdpConsent_effects i⟩
  | fetchAaData i => exact .inr ⟨_, rfl, fun _ => fetchAaData_effects i⟩
  | submitToLender i => exact .inr ⟨_, rfl, fun _ => submitToLender_effects i⟩
  | submitOcenLoanRequest i => exact .inr ⟨_, rfl, fun _ => submitOcenLoanRequest_effects i⟩

end Effects

/-- The request id that a lender receives. -/
def requestId? : NetworkCall → Option String
  | .createLoanRequest _ post => some post.content.requestId
  | _ => none

def hasEffect (k : Stage) : NetworkCall → Bool
  | .client c => c.hasEffect k
  | _ => false

section Attempt

variable {client : OcenNetworkClient} {a : Activity} {k : Stage}

/-- The network client has none of the effects of the other clients. -/
theorem implement_atMost (c : Call) :
    (client.implement c).AtMost (hasEffect k) (if c.hasEffect k then 1 else 0) := by
  by_cases hc : ∃ request, c = .submitLoanApplication request
  · obtain ⟨request, rfl⟩ := hc
    apply Proc.Every.atMost
    exact client.submitLoanApplication_every rfl (fun _ => rfl) (fun _ => rfl) fun _ _ _ => rfl
  · have hask : client.implement c = perform (.client c) := by
      cases c with
      | submitLoanApplication request => exact absurd ⟨request, rfl⟩ hc
      | _ => rfl
    rw [hask]
    exact Proc.atMost_ask (P := hasEffect k) (.client c)

theorem networkCode_atMost (client : OcenNetworkClient) (a : Activity) (k : Stage) :
    (a.networkCode client).AtMost (hasEffect k) (if some a.stage = some k then 1 else 0) := by
  rcases networkCode_effects client a with ⟨i, rfl⟩ | ⟨p, hcode, hp⟩
  · exact Proc.Every.atMost (Proc.every_ask rfl)
  · rw [hcode]
    exact Proc.atMost_interpret implement_atMost (hp k)

theorem implement_noPost {c : Call} (hc : c.hasEffect .submitOcenLoanRequest = false) :
    (client.implement c).Every fun c' => requestId? c' = none := by
  refine client.implement_every (Q := fun c' => requestId? c' = none) rfl ?_
  rintro request rfl
  cases hc

/-- Only the submission over the network sends requests to lenders. -/
theorem networkCode_noPost (client : OcenNetworkClient) (ha : a.stage ≠ .submitOcenLoanRequest) :
    (a.networkCode client).Every fun c => requestId? c = none := by
  rcases networkCode_effects client a with ⟨i, rfl⟩ | ⟨p, hcode, hp⟩
  · exact Proc.every_ask rfl
  · rw [hcode]
    have hnone : p.AtMost (Call.hasEffect .submitOcenLoanRequest) 0 := by
      simpa [ha] using hp .submitOcenLoanRequest
    exact Proc.every_interpret (fun c hc => implement_noPost hc) hnone.every

end Attempt

end OcenPlatform.Origination
