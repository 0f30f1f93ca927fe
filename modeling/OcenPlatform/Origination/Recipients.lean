import OcenPlatform.Origination.RetrySafety

/-! Who receives an application. `submit_to_lender` is given the lenders that D3 has
matched; the network client takes its own from the registry. -/

namespace OcenPlatform.Origination

open Durable Ocen

/-- The ids in a list of lender ids. -/
def lenderIds : Json → List Json
  | .arr ids => ids
  | _ => []

/-- The lenders to which a call sends the application. -/
def recipients : NetworkCall → List Json
  | .client (.submitApplication _ ids _) => lenderIds ids
  | .createLoanRequest lender _ => [.str lender.id]
  | _ => []

/-- D3 has matched the lender in this run. -/
def Matched (l : NetworkLog) (id : Json) : Prop :=
  ∃ i r ids, (.evaluateDecision i, r) ∈ l.results ∧ i.gate = "d3_lender_prescreen" ∧
    r.get "matched_lender_ids" (.arr []) = .ok ids ∧ id ∈ lenderIds ids

/-- Applications are sent to matched lenders only. -/
def SentToMatched (l : NetworkLog) : Prop :=
  ∀ a c y, .called a c y ∈ l → ∀ id ∈ recipients c, Matched l id

/-- The registry lists matched lenders only. -/
def NetworkMatched (l : NetworkLog) : Prop :=
  ∀ a networkId network, .called a (.getProductNetworkParticipants networkId) (.ok network) ∈ l →
    ∀ lender ∈ network.lenders, Matched l (.str lender.id)

/-- A submission over the network has returned, for which the registry has listed `network`. -/
def Submitted (l : NetworkLog) (network : ProductNetworkDetail) : Prop :=
  ∃ before w i seg r after networkId,
    l = before ++ .started w (.submitOcenLoanRequest i) ::
      (seg ++ .finished (.submitOcenLoanRequest i) r :: after) ∧
    (∀ w a, .started w a ∉ seg) ∧
    .called (.submitOcenLoanRequest i) (.getProductNetworkParticipants networkId) (.ok network) ∈ seg

section Attempt

variable {client : OcenNetworkClient} {i : SubmitOcenLoanRequestInput} {a : Activity}
  {seg : NetworkLog}

/-- The request that an attempt submits under its new ids. -/
def loanRequest (i : SubmitOcenLoanRequestInput) (traceId requestId : Uuid) :
    CreateLoanApplicationRequest where
  traceId := traceId.str
  requestId := requestId.str
  loanApplicationId := i.loanApplicationId
  borrowerPrimaryId := if i.borrowerGstin ≠ "" then i.borrowerGstin else "UNKNOWN"
  borrowerName := i.borrowerName

/-- What an attempt does once the registry has answered. -/
def submitToNetwork (client : OcenNetworkClient) (request : CreateLoanApplicationRequest)
    (token : String) (network : ProductNetworkDetail) : NetworkCode Json := do
  let acks ← client.submitToAll request token network.lenders
  return .obj [("submitted", .bool true), ("ack_count", .num acks.length),
    ("trace_ids", .arr (acks.map .str))]

theorem submitOcenLoanRequest_code (client : OcenNetworkClient) (i : SubmitOcenLoanRequestInput) :
    (Activity.submitOcenLoanRequest i).networkCode client = (do
      perform (.client .getOcenNetworkClient)
      let traceId ← perform (.client .uuid4)
      let requestId ← perform (.client .uuid4)
      let token ← perform .getBearerToken
      let network ← perform (.getProductNetworkParticipants client.productNetworkId)
      submitToNetwork client (loanRequest i traceId requestId) token network) := by
  refine (Proc.interpret_ask_bind client.implement Call.getOcenNetworkClient _).trans ?_
  refine congrArg _ (funext fun _ => ?_)
  refine (Proc.interpret_ask_bind client.implement Call.uuid4 _).trans ?_
  refine congrArg _ (funext fun traceId => ?_)
  refine (Proc.interpret_ask_bind client.implement Call.uuid4 _).trans ?_
  refine congrArg _ (funext fun requestId => ?_)
  refine (Proc.interpret_ask_bind client.implement (Call.submitLoanApplication _) _).trans ?_
  simp only [OcenNetworkClient.implement, OcenNetworkClient.submitLoanApplication, Proc.bind_assoc]
  rfl

theorem submitToNetwork_every {Q : NetworkCall → Prop} {request : CreateLoanApplicationRequest}
    {token : String} {network : ProductNetworkDetail} (hevent : ∀ event, Q (.sendEvent event))
    (hpost : ∀ lender ∈ network.lenders, ∀ post, Q (.createLoanRequest lender post)) :
    (submitToNetwork client request token network).Every Q := by
  unfold submitToNetwork
  refine Proc.every_bind (client.submitToAll_every hevent ?_) fun _ => trivial
  exact fun lender hlender post _ => hpost lender hlender post

/-- A request goes to a lender that the registry has listed in this attempt. -/
theorem createLoanRequest_listed {lender : ParticipantDetail} {post : CreateLoanRequest}
    {next : Except String String → NetworkCode Json}
    (h : Reaches a ((Activity.submitOcenLoanRequest i).networkCode client) seg
      (.call (.createLoanRequest lender post) next)) :
    ∃ networkId network, .called a (.getProductNetworkParticipants networkId) (.ok network) ∈ seg ∧
      lender ∈ network.lenders := by
  rw [submitOcenLoanRequest_code] at h
  obtain ⟨_, _, _, rfl, h₁⟩ := h.ask_step (by simp)
  obtain ⟨_, _, _, rfl, h₂⟩ := h₁.ask_step (by simp)
  obtain ⟨_, _, _, rfl, h₃⟩ := h₂.ask_step (by simp)
  obtain ⟨_, token, _, rfl, h₄⟩ := h₃.ask_step (by simp)
  obtain ⟨_, network, _, rfl, h₅⟩ := h₄.ask_step (by simp)
  have hlisted : ∀ request, (submitToNetwork client request token network).Every fun c =>
      ∀ lender post, c = .createLoanRequest lender post → lender ∈ network.lenders := by
    intro request
    refine submitToNetwork_every (fun event lender post heq => by cases heq) ?_
    rintro lender hlender post _ _ ⟨⟩
    exact hlender
  refine ⟨_, network, ?_, (h₅.every (hlisted _)).1.1 lender post rfl⟩
  simp

theorem implement_recipients {c : Call} {Q : Json → Prop}
    (hnetwork : c.hasEffect .submitOcenLoanRequest = false)
    (hc : ∀ id ∈ recipients (.client c), Q id) :
    (client.implement c).Every fun c' => ∀ id ∈ recipients c', Q id := by
  refine client.implement_every (Q := fun c' => ∀ id ∈ recipients c', Q id) hc ?_
  rintro request rfl
  cases hnetwork

/-- `submit_to_lender` sends to the lenders of its input. -/
theorem submitToLender_recipients (client : OcenNetworkClient) (s : SubmitToLenderInput) :
    ((Activity.submitToLender s).networkCode client).Every fun c =>
      ∀ id ∈ recipients c, id ∈ lenderIds s.lenderIds := by
  have hids : ∀ id ∈ lenderIds (if s.lenderIds.truthy then s.lenderIds else .arr []),
      id ∈ lenderIds s.lenderIds := by
    split
    · exact fun id hid => hid
    · simp [lenderIds]
  refine Proc.every_interpret (Q := fun c => c.hasEffect .submitOcenLoanRequest = false ∧
    ∀ id ∈ recipients (.client c), id ∈ lenderIds s.lenderIds)
    (fun c hc => implement_recipients hc.1 hc.2) ?_
  unfold Activities.submitToLender
  refine Proc.every_ofExcept_bind fun _ => Proc.every_ask_bind ⟨rfl, by simp [recipients]⟩ fun _ => ?_
  refine Proc.every_ask_bind ⟨rfl, hids⟩ fun submissionId => ?_
  refine Proc.every_ask_bind ⟨rfl, by simp [recipients]⟩ fun offers => ?_
  cases offers <;> trivial

/-- Whatever is answered, each lender of the network is sent a request. -/
theorem submitToNetwork_surely {request : CreateLoanApplicationRequest} {token : String}
    {network : ProductNetworkDetail} {lender : ParticipantDetail} (hlender : lender ∈ network.lenders) :
    (submitToNetwork client request token network).Surely fun c =>
      .str lender.id ∈ recipients c := by
  refine Proc.surely_bind_left (client.submitToAll_surely hlender fun post => ?_) _
  exact .head _

/-- The call asks the registry. -/
def asksRegistry : NetworkCall → Bool
  | .getProductNetworkParticipants _ => true
  | _ => false

theorem submitOcenLoanRequest_asksOnce (client : OcenNetworkClient) (i : SubmitOcenLoanRequestInput) :
    ((Activity.submitOcenLoanRequest i).networkCode client).AtMost asksRegistry 1 := by
  rw [submitOcenLoanRequest_code]
  refine Proc.atMost_ask_bind_none rfl fun _ => Proc.atMost_ask_bind_none rfl fun _ => ?_
  refine Proc.atMost_ask_bind_none rfl fun _ => Proc.atMost_ask_bind_none rfl fun _ => ?_
  refine Proc.atMost_ask_bind_succ fun network => Proc.Every.atMost ?_
  exact submitToNetwork_every (fun _ => rfl) fun _ _ _ => rfl

theorem submitOcenLoanRequest_answered {r : Json}
    (h : Reaches a ((Activity.submitOcenLoanRequest i).networkCode client) seg (.done r)) :
    ∃ networkId network back request token,
      .called a (.getProductNetworkParticipants networkId) (.ok network) ∈ seg ∧
      (∀ e ∈ back, e ∈ seg) ∧
      Reaches a (submitToNetwork client request token network) back (.done r) := by
  rw [submitOcenLoanRequest_code] at h
  obtain ⟨_, _, _, rfl, h₁⟩ := h.ask_inv
  obtain ⟨_, _, _, rfl, h₂⟩ := h₁.ask_inv
  obtain ⟨_, _, _, rfl, h₃⟩ := h₂.ask_inv
  obtain ⟨_, token, _, rfl, h₄⟩ := h₃.ask_inv
  obtain ⟨_, network, back, rfl, h₅⟩ := h₄.ask_inv
  exact ⟨client.productNetworkId, network, back, _, token, by simp, fun e he => by simp [he], h₅⟩

/-- A submission that returns has sent a request to each lender that the registry listed. -/
theorem submitOcenLoanRequest_sent {r : Json} {networkId : String} {network : ProductNetworkDetail}
    (h : Reaches a ((Activity.submitOcenLoanRequest i).networkCode client) seg (.done r))
    (hmem : .called a (.getProductNetworkParticipants networkId) (.ok network) ∈ seg)
    {lender : ParticipantDetail} (hlender : lender ∈ network.lenders) :
    ∃ c y, .called a c y ∈ seg ∧ .str lender.id ∈ recipients c := by
  obtain ⟨_, network', back, request, token, hanswer, hback, hrest⟩ :=
    submitOcenLoanRequest_answered h
  have heq := h.only_call (submitOcenLoanRequest_asksOnce client i) hanswer rfl hmem rfl
  cases heq
  obtain ⟨c, y, hin, hc⟩ := hrest.surely (submitToNetwork_surely hlender)
  exact ⟨c, y, hback _ hin, hc⟩

end Attempt

/-! ## The whole run -/

theorem eq_submitToLender {a : Activity} (ha : a.stage = .submitToLender) :
    ∃ s, a = .submitToLender s := by
  cases a with
  | submitToLender s => exact ⟨s, rfl⟩
  | _ => cases ha

theorem eq_submitOcenLoanRequest {a : Activity} (ha : a.stage = .submitOcenLoanRequest) :
    ∃ i, a = .submitOcenLoanRequest i := by
  cases a with
  | submitOcenLoanRequest i => exact ⟨i, rfl⟩
  | _ => cases ha

section Runs

variable {input : WorkflowInput} {early : List Signal} {happenings : List NetworkHappening}

/-- A call is made in an attempt of an activity that the workflow has scheduled under its
conditions, with results that the log has recorded. -/
theorem called_running {a : Activity} {c : NetworkCall} {y : Except String c.Reply}
    (hmem : .called a c y ∈ networkLog input early happenings) :
    ∃ (w : OcenNetworkClient) (seg : NetworkLog) (next : Except String c.Reply → NetworkCode Json)
      (todo : List Stage) (h : Hist), Reaches a (a.networkCode w) seg (.call c next) ∧
      (∀ e ∈ seg, e ∈ networkLog input early happenings) ∧
      (plan input.resolve).Running a todo h ∧ h.EachScheduled (Point input.resolve) ∧
      ∀ p ∈ h.results, p ∈ (networkLog input early happenings).results := by
  have hexplained := (networkLog_coherent input early happenings).explained
  obtain ⟨before, after, hlog⟩ := List.append_of_mem hmem
  obtain ⟨⟨w, next, start, seg, rfl, hseg⟩, -⟩ := hexplained before _ after hlog
  obtain ⟨x, cont, ⟨events, rfl⟩, hstatus, hresults⟩ :=
    hexplained start _ _ (hlog.trans (List.append_assoc _ _ _))
  obtain ⟨⟨todo, hrun⟩, hpoints⟩ := (runWorkflow_contract input early events).pending hstatus
  refine ⟨w, seg, next, todo, _, hseg, fun e he => ?_, hrun, hpoints, fun p hp => ?_⟩
  · simp [hlog, he]
  · have hstart : p ∈ Log.results start := by
      rw [← hresults]
      exact hp
    simp [hlog, hstart]

/-- The lenders of `submit_to_lender` are those that D3 has matched. -/
theorem submitToLender_matched {s : SubmitToLenderInput} {c : NetworkCall}
    {y : Except String c.Reply}
    (hmem : .called (.submitToLender s) c y ∈ networkLog input early happenings) {id : Json}
    (hid : id ∈ lenderIds s.lenderIds) : Matched (networkLog input early happenings) id := by
  obtain ⟨w, seg, next, todo, h, -, -, hrun, hpoints, hresults⟩ := called_running hmem
  have hsched : .submitToLender s ∈ h.scheduled := by
    rw [hrun.closed]
    simp
  obtain ⟨front, back, rfl, hpoint⟩ := hpoints.of_mem hsched
  obtain ⟨-, -, i, r, hr, hgate, hlenders⟩ := hpoint.given
  exact ⟨i, r, s.lenderIds, hresults _ (by simp [hr]), hgate, hlenders, hid⟩

/-- A lender that is sent the application was matched, or the registry has listed it. -/
theorem recipient_cases {a : Activity} {c : NetworkCall} {y : Except String c.Reply}
    (hmem : .called a c y ∈ networkLog input early happenings) {id : Json} (hid : id ∈ recipients c) :
    Matched (networkLog input early happenings) id ∨ ∃ networkId network,
      .called a (.getProductNetworkParticipants networkId) (.ok network) ∈
        networkLog input early happenings ∧
      ∃ lender ∈ network.lenders, id = .str lender.id := by
  obtain ⟨w, seg, next, todo, h, hseg, hin, -⟩ := called_running hmem
  cases c with
  | client c =>
    have hstage : a.stage = .submitToLender := by
      by_contra hne
      obtain ⟨m, hm, hle⟩ := hseg.atMost (networkCode_atMost w a .submitToLender)
      simp only [Option.some.injEq, hne, if_false] at hle
      cases c with
      | submitApplication app ids payload => exact absurd (hm.1 rfl) (by omega)
      | _ => cases hid
    obtain ⟨s, rfl⟩ := eq_submitToLender hstage
    exact .inl (submitToLender_matched hmem ((hseg.every (submitToLender_recipients w s)).1.1 id hid))
  | createLoanRequest lender post =>
    have hstage : a.stage = .submitOcenLoanRequest := by
      by_contra hne
      cases (hseg.every (networkCode_noPost w hne)).1.1
    obtain ⟨i, rfl⟩ := eq_submitOcenLoanRequest hstage
    obtain ⟨networkId, network, hlisted, hlender⟩ := createLoanRequest_listed hseg
    exact .inr ⟨networkId, network, hin _ hlisted, lender, hlender, List.mem_singleton.mp hid⟩
  | _ => cases hid

end Runs

/-- Applications go to matched lenders only if the registry lists no others; and a
submission that returns went to no others only if the registry listed none. -/
theorem sentToMatched_of_networkMatched (input : WorkflowInput) (early : List Signal)
    (happenings : List NetworkHappening) :
    (NetworkMatched (networkLog input early happenings) →
      SentToMatched (networkLog input early happenings)) ∧
    (SentToMatched (networkLog input early happenings) →
      ∀ network, Submitted (networkLog input early happenings) network →
        ∀ lender ∈ network.lenders, Matched (networkLog input early happenings) (.str lender.id)) := by
  constructor
  · intro hnetwork a c y hmem id hid
    rcases recipient_cases hmem hid with hmatched | ⟨networkId, network, hlisted, lender, hlender, rfl⟩
    · exact hmatched
    · exact hnetwork a networkId network hlisted lender hlender
  · intro hsent network hsubmitted lender hlender
    obtain ⟨before, w, i, seg, r, after, networkId, hlog, hseg, hlisted⟩ := hsubmitted
    have hexplained := (networkLog_coherent input early happenings).explained
    obtain ⟨w', start, seg', hsplit, hreaches⟩ :=
      hexplained (before ++ .started w (.submitOcenLoanRequest i) :: seg)
        (.finished (.submitOcenLoanRequest i) r) after (hlog.trans (by simp))
    obtain ⟨rfl, rfl⟩ := started_split hseg hreaches.not_started hsplit
    obtain ⟨c, y, hin, hc⟩ := submitOcenLoanRequest_sent hreaches hlisted hlender
    exact hsent (.submitOcenLoanRequest i) c y (by simp [hlog, hin]) _ hc

/-! Concrete runs, in which ids are compared as texts. -/

theorem isStr_iff {v : Json} {text : String} : v.isStr text = true ↔ v = .str text := by
  cases v <;> simp [Json.isStr]

/-- The result is one of D3 that names the lender. -/
def names (id : String) : Activity × Json → Bool
  | (.evaluateDecision i, .obj fields) => i.gate = "d3_lender_prescreen" &&
    (lenderIds (PyDict.get fields "matched_lender_ids" (.arr []))).any (·.isStr id)
  | _ => false

theorem matched_iff {l : NetworkLog} {id : String} :
    Matched l (.str id) ↔ l.results.any (names id) = true := by
  simp only [Matched, List.any_eq_true]
  constructor
  · rintro ⟨i, r, ids, hmem, hgate, hget, hid⟩
    refine ⟨_, hmem, ?_⟩
    cases r with
    | obj fields =>
      obtain rfl := Except.ok.inj hget
      simp only [names, hgate, decide_true, Bool.true_and, List.any_eq_true]
      exact ⟨_, hid, isStr_iff.mpr rfl⟩
    | _ => cases hget
  · rintro ⟨⟨a, r⟩, hmem, hnames⟩
    unfold names at hnames
    split at hnames
    · rename_i i fields heq
      cases heq
      simp only [Bool.and_eq_true, decide_eq_true_eq, List.any_eq_true] at hnames
      obtain ⟨hgate, v, hid, hv⟩ := hnames
      obtain rfl := isStr_iff.mp hv
      exact ⟨i, .obj fields, _, hmem, hgate, rfl, hid⟩
    · cases hnames

instance (l : NetworkLog) (id : String) : Decidable (Matched l (.str id)) :=
  decidable_of_iff _ matched_iff.symm

/-- The application was sent to the lender. -/
def sentTo (id : String) : NetworkEntry → Bool
  | .called _ c _ => (recipients c).any (·.isStr id)
  | _ => false

theorem SentToMatched.matched {l : NetworkLog} (h : SentToMatched l) (id : String)
    (hsent : l.any (sentTo id) = true) : Matched l (.str id) := by
  obtain ⟨e, he, hid⟩ := List.any_eq_true.mp hsent
  cases e with
  | called a c y =>
    obtain ⟨v, hv, heq⟩ := List.any_eq_true.mp hid
    obtain rfl := isStr_iff.mp heq
    exact h a c y he _ hv
  | _ => cases hid

/-- The lenders of a registry's answer. -/
def listed : NetworkEntry → List ParticipantDetail
  | .called _ (.getProductNetworkParticipants _) (.ok network) => network.lenders
  | _ => []

theorem networkMatched_iff {l : NetworkLog} : NetworkMatched l ↔
    ∀ e ∈ l, ∀ lender ∈ listed e, Matched l (.str lender.id) := by
  constructor
  · intro h e he lender hlender
    unfold listed at hlender
    split at hlender
    · exact h _ _ _ he lender hlender
    · cases hlender
  · intro h a networkId network hmem lender hlender
    exact h _ hmem lender hlender

instance (l : NetworkLog) : Decidable (NetworkMatched l) :=
  decidable_of_iff _ networkMatched_iff.symm

/-- The registry lists the lender that D3 has matched, and the application is sent to it
in both submissions. -/
theorem sentToMatched_of_networkMatched_undisturbed :
    (networkLog (.structured sampleInput) [] undisturbed).countP (sentTo "lender-1") = 2 ∧
      SentToMatched (networkLog (.structured sampleInput) [] undisturbed) := by
  refine ⟨by decide +kernel, (sentToMatched_of_networkMatched _ _ _).1 ?_⟩
  decide +kernel

/-- A registry that lists a lender that D3 has not matched. -/
def otherRegistry : (c : NetworkCall) → Except String c.Reply
  | .getProductNetworkParticipants _ => .ok { lenders := [{ id := "lender-2" }] }
  | c => networkSandbox ⟨0⟩ c

/-- The undisturbed run on the other registry. -/
def screenedOut : List NetworkHappening :=
  undisturbed.map fun
    | .answered _ => .answered otherRegistry
    | e => e

theorem screenedOut_sent : ¬ SentToMatched (networkLog (.structured sampleInput) [] screenedOut) := by
  intro hsent
  exact absurd (hsent.matched "lender-2" (by decide +kernel)) (by decide +kernel)

end OcenPlatform.Origination
