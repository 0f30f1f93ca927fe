import Mathlib.Data.List.Pairwise
import OcenPlatform.Origination.Submission

/-! Retries of the activities that have effects outside. Each attempt starts from
scratch: it creates a consent of its own, submits anew and builds new request ids. -/

namespace OcenPlatform.Origination

open Durable Ocen

/-! ## Effects in the log -/

/-- An AA consent was created. -/
def createsConsent : NetworkEntry → Bool
  | .called _ (.client (.createConsent _ _ _)) (.ok _) => true
  | _ => false

/-- A submission was made through `submit_application`. -/
def submitsApplication : NetworkEntry → Bool
  | .called _ (.client (.submitApplication _ _ _)) (.ok _) => true
  | _ => false

/-- The id of a request that was sent, whether or not it was acknowledged. -/
def sentRequestId? : NetworkEntry → Option String
  | .called _ c _ => requestId? c
  | _ => none

def takesEffect (e : NetworkEntry) : Bool :=
  createsConsent e || submitsApplication e || (sentRequestId? e).isSome

/-- Requests that are both sent carry one id. -/
def SameRequestId (e e' : NetworkEntry) : Prop :=
  (sentRequestId? e).isSome → (sentRequestId? e').isSome → sentRequestId? e = sentRequestId? e'

instance : Std.Symm SameRequestId := ⟨fun _ _ h he he' => (h he' he).symm⟩

structure RetrySafe (l : NetworkLog) : Prop where
  consents : l.countP createsConsent ≤ 1
  submissions : l.countP submitsApplication ≤ 1
  requestIds : ∀ a a' lender post post' y y', .called a (.createLoanRequest lender post) y ∈ l →
    .called a' (.createLoanRequest lender post') y' ∈ l →
    post.content.requestId = post'.content.requestId

/-- No activity is attempted again after an attempt that has created a consent, made a
submission or sent a request. -/
def NoRetryAfterEffect (l : NetworkLog) : Prop := NoRetryAfter Activity.stage takesEffect l

/-! ## One attempt -/

/-- All requests of an attempt have the same id. -/
theorem networkCode_uniform {client : OcenNetworkClient} {a : Activity} :
    (a.networkCode client).Uniform requestId? := by
  rcases networkCode_effects client a with ⟨i, rfl⟩ | ⟨p, hcode, hp⟩
  · apply Proc.Every.uniform (k := "")
    exact Proc.every_ask fun k' hk' => by cases hk'
  · rw [hcode]
    refine Proc.uniform_interpret (fun c hc => implement_noPost hc) (fun c hc => ?_)
      ((hp .submitOcenLoanRequest).mono (by split <;> decide))
    cases c with
    | submitLoanApplication request =>
      refine ⟨request.requestId, client.submitLoanApplication_every ?_ ?_ ?_ ?_⟩
      · exact fun k' hk' => by cases hk'
      · exact fun id k' hk' => by cases hk'
      · exact fun event k' hk' => by cases hk'
      · rintro lender post rfl k' hk'
        exact (Option.some.inj hk').symm
    | _ => cases hc

/-! ## The whole run -/

section Runs

variable {input : WorkflowInput} {early : List Signal} {happenings : List NetworkHappening}

theorem NoRetryAfterEffect.mono {l : NetworkLog} (h : NoRetryAfterEffect l)
    {made : NetworkEntry → Bool} (hmade : ∀ e, made e = true → takesEffect e = true) :
    NoRetryAfter Activity.stage made l :=
  fun before w a after hlog a' c y hmem hc => h before w a after hlog a' c y hmem (hmade _ hc)

/-- Without such retries an effect comes at most once. -/
theorem countP_made {made : NetworkEntry → Bool} (k : Stage)
    (hmade : ∀ e, made e = true → ∃ a c y, e = .called a c y ∧ hasEffect k c = true)
    (hretry : NoRetryAfter Activity.stage made (networkLog input early happenings)) :
    (networkLog input early happenings).countP made ≤ 1 := by
  have hx := networkLog_coherent input early happenings
  apply countP_le_one
  refine hx.pairwise_made (k := k) (fun e he => ?_) (fun a c y hmem he => ?_)
    (fun w a seg c next y hreaches he e hin he' => ?_) hretry
  · obtain ⟨a, c, y, rfl, -⟩ := hmade e he
    exact ⟨a, c, y, rfl⟩
  · obtain ⟨_, _, _, ⟨⟩, hc⟩ := hmade _ he
    obtain ⟨w, seg, next, hreaches⟩ := hx.called hmem
    by_contra hne
    obtain ⟨m, hm, hle⟩ := hreaches.atMost (networkCode_atMost w a k)
    have hpos := hm.1 hc
    simp only [Option.some.injEq, hne, if_false] at hle
    omega
  · obtain ⟨_, _, _, ⟨⟩, hc⟩ := hmade _ he
    obtain ⟨_, _, _, rfl, hc'⟩ := hmade _ he'
    have hone : (a.networkCode w).AtMost (hasEffect k) 1 :=
      (networkCode_atMost w a k).mono (by split <;> decide)
    have hnot := hreaches.not_calls hone hc _ hin
    rw [Entry.calls, hc'] at hnot
    cases hnot

/-- Without such retries all requests carry one id. -/
theorem sentRequestId_uniform (hretry : NoRetryAfter Activity.stage (fun e => (sentRequestId? e).isSome)
    (networkLog input early happenings)) :
    (networkLog input early happenings).Pairwise SameRequestId := by
  have hx := networkLog_coherent input early happenings
  refine hx.pairwise_made (k := .submitOcenLoanRequest) (fun e he => ?_) (fun a c y hmem he => ?_)
    (fun w a seg c next y hreaches he e hin he' => ?_) hretry
  · cases e with
    | called a c y => exact ⟨a, c, y, rfl⟩
    | _ => cases he
  · obtain ⟨w, seg, next, hreaches⟩ := hx.called hmem
    by_contra hne
    have hnone := (hreaches.every (networkCode_noPost w hne)).1.1
    simp [sentRequestId?, hnone] at he
  · obtain ⟨id, hid⟩ := Option.isSome_iff_exists.mp he
    obtain ⟨id', hid'⟩ := Option.isSome_iff_exists.mp he'
    cases e with
    | called a' c' y' =>
      rw [hid', hreaches.uniform networkCode_uniform hid a' c' y' id' hin hid']
      exact hid.symm
    | _ => cases hid'

end Runs

/-- A run in which no activity is attempted again after such a call is retry-safe. -/
theorem retrySafe_of_noRetryAfterEffect (input : WorkflowInput) (early : List Signal)
    (happenings : List NetworkHappening)
    (hretry : NoRetryAfterEffect (networkLog input early happenings)) :
    RetrySafe (networkLog input early happenings) where
  consents := by
    refine countP_made .fetchAaData (fun e he => ?_) (hretry.mono fun e he => by simp [takesEffect, he])
    unfold createsConsent at he
    split at he
    · exact ⟨_, _, _, rfl, rfl⟩
    · cases he
  submissions := by
    refine countP_made .submitToLender (fun e he => ?_)
      (hretry.mono fun e he => by simp [takesEffect, he])
    unfold submitsApplication at he
    split at he
    · exact ⟨_, _, _, rfl, rfl⟩
    · cases he
  requestIds := by
    intro a a' lender post post' y y' hmem hmem'
    have hpairwise := sentRequestId_uniform (hretry.mono fun e he => by simp [takesEffect, he])
    have hall := List.Pairwise.forall_of_forall (fun _ _ _ _ => rfl) hpairwise
    exact Option.some.inj (hall hmem hmem' rfl rfl)

/-! The sandbox with one lender in the product network, for concrete runs. -/

def sampleNetworkClient : OcenNetworkClient where
  sign _ := "signature"

def networkSandbox (id : Uuid) : (c : NetworkCall) → Except String c.Reply
  | .client .uuid4 => .ok id
  | .client c => sandbox c
  | .evaluateDecision _ =>
    .ok (.obj [("outcome", .str "pass"), ("matched_lender_ids", .arr [.str "lender-1"])])
  | .getBearerToken => .ok "token"
  | .getProductNetworkParticipants _ => .ok { lenders := [{ id := "lender-1" }] }
  | .createLoanRequest _ _ => .ok "trace-1"
  | .sendEvent _ => .ok ()

/-- An attempt that makes `calls` calls and then returns or is lost. -/
def networkAttempt (id : Uuid) (calls : Nat) (last : NetworkHappening) : List NetworkHappening :=
  .attemptStarted sampleNetworkClient ::
    (List.replicate calls (.answered (networkSandbox id)) ++ [last])

/-- Consent, D0 and the fetch, the gates, and the two submissions, each in one attempt. -/
def undisturbed : List NetworkHappening :=
  networkAttempt ⟨0⟩ 2 .attemptLeft ++ networkAttempt ⟨0⟩ 1 .attemptLeft ++
    networkAttempt ⟨0⟩ 6 .attemptLeft ++ networkAttempt ⟨0⟩ 1 .attemptLeft ++
    networkAttempt ⟨0⟩ 1 .attemptLeft ++ networkAttempt ⟨0⟩ 1 .attemptLeft ++
    networkAttempt ⟨0⟩ 3 .attemptLeft ++ networkAttempt ⟨0⟩ 7 .attemptLeft

theorem retrySafe_of_noRetryAfterEffect_undisturbed :
    (networkLog (.structured sampleInput) [] undisturbed).countP takesEffect = 3 ∧
      RetrySafe (networkLog (.structured sampleInput) [] undisturbed) := by
  refine ⟨by decide +kernel, retrySafe_of_noRetryAfterEffect _ _ _ ?_⟩
  apply noRetryAfter_of_pairwise
  decide +kernel

/-- The fetch and the submissions are lost after their effect and attempted again. -/
def retriedAfterEffect : List NetworkHappening :=
  networkAttempt ⟨0⟩ 2 .attemptLeft ++ networkAttempt ⟨0⟩ 1 .attemptLeft ++
    networkAttempt ⟨0⟩ 2 .attemptLost ++ networkAttempt ⟨0⟩ 6 .attemptLeft ++
    networkAttempt ⟨0⟩ 1 .attemptLeft ++ networkAttempt ⟨0⟩ 1 .attemptLeft ++
    networkAttempt ⟨0⟩ 1 .attemptLeft ++ networkAttempt ⟨0⟩ 2 .attemptLost ++
    networkAttempt ⟨0⟩ 3 .attemptLeft ++ networkAttempt ⟨0⟩ 6 .attemptLost ++
    networkAttempt ⟨1⟩ 7 .attemptLeft

/-- Two consents, two submissions, and two requests to one lender under two ids. -/
theorem retriedAfterEffect_unsafe :
    (networkLog (.structured sampleInput) [] retriedAfterEffect).countP createsConsent = 2 ∧
    (networkLog (.structured sampleInput) [] retriedAfterEffect).countP submitsApplication = 2 ∧
    ¬ RetrySafe (networkLog (.structured sampleInput) [] retriedAfterEffect) := by
  refine ⟨by decide +kernel, by decide +kernel, fun hsafe => ?_⟩
  exact absurd hsafe.consents (by decide +kernel)

end OcenPlatform.Origination
