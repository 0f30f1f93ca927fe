import OcenPlatform.Durable.Pipeline
import OcenPlatform.Origination.Workflow

/-! The origination run as a gated pipeline. `contract` says what every
history of the workflow looks like in each status; the results about runs are
read off it. -/

namespace OcenPlatform.Origination

open Durable
open Durable.Program (execute waitCondition self ofExcept)

abbrev Hist := History Activity Json Signal

/-! ## The plan -/

inductive Stage where
  | checkDpdpConsent
  | evaluateDecision (gate : String)
  | fetchAaData
  | submitToLender
  | submitOcenLoanRequest
  deriving DecidableEq, Repr

def Activity.stage : Activity → Stage
  | .checkDpdpConsent _ => .checkDpdpConsent
  | .evaluateDecision i => .evaluateDecision i.gate
  | .fetchAaData _ => .fetchAaData
  | .submitToLender _ => .submitToLender
  | .submitOcenLoanRequest _ => .submitOcenLoanRequest

def submissions : List Stage := [.submitToLender, .submitOcenLoanRequest]

/-- D0 to the submissions: what every run goes through. -/
def gates : List Stage :=
  [.evaluateDecision "d0_kind1_gate", .fetchAaData, .evaluateDecision "d1_data_sufficiency",
    .evaluateDecision "d2_derived_attributes", .evaluateDecision "d3_lender_prescreen"] ++
    submissions

/-- The consent check comes first, exactly when there is a data principal. -/
def stages (input : LoanOriginationInput) : List Stage :=
  if input.dataPrincipalId ≠ "" then .checkDpdpConsent :: gates else gates

theorem stages_nodup (input : LoanOriginationInput) : (stages input).Nodup := by
  unfold stages
  split <;> decide

theorem mem_submitToLender (input : LoanOriginationInput) : .submitToLender ∈ stages input := by
  unfold stages
  split <;> decide

/-- A gate reads a field of the result and rejects if the test refuses it. -/
def gateOn (field : Except String Json) (test : Json → Bool) (gate : Gate) :
    Except String (Option Gate) :=
  match field with
  | .ok v => .ok (if test v then some gate else none)
  | .error e => .error e

/-- What the run makes of the result of each activity. -/
def verdict (a : Activity) (r : Json) : Except String (Option Gate) :=
  match a with
  | .checkDpdpConsent _ => gateOn (r.subscript "allowed") (!·.truthy) .dpdpConsent
  | .evaluateDecision i =>
    if i.gate = "d0_kind1_gate" then gateOn (r.subscript "outcome") (·.isStr "fail") .d0Kind1Gate
    else if i.gate = "d1_data_sufficiency" then
      gateOn (r.subscript "outcome") (·.isStr "fail") .d1DataSufficiency
    else if i.gate = "d3_lender_prescreen" then
      gateOn (r.get "matched_lender_ids" (.arr [])) (!·.truthy) .d3LenderPrescreen
    else .ok none
  | .fetchAaData _ => gateOn (r.subscript "data_received") (!·.truthy) .aaFetch
  | .submitToLender _ | .submitOcenLoanRequest _ => .ok none

def plan (input : LoanOriginationInput) : Plan Activity Json Stage Gate where
  stages := stages input
  stage := Activity.stage
  verdict := verdict

/-! ## The contract -/

/-- `lenders` is the list that D3 matched in this history. -/
def MatchedLenders (h : Hist) (lenders : Json) : Prop :=
  ∃ i r, (.evaluateDecision i, r) ∈ h.results ∧ i.gate = "d3_lender_prescreen" ∧
    r.get "matched_lender_ids" (.arr []) = .ok lenders

/-- What an activity that is scheduled after `before` is given: its input is the
application's, a submission to the matched lenders finds no hold, and the network
submission directly follows the completion of `submit_to_lender`. -/
def Given (input : LoanOriginationInput) (before : Hist) : Activity → Prop
  | .checkDpdpConsent i =>
      i = ⟨input.loanApplicationId, input.dataPrincipalId, requiredPurposes⟩
  | .evaluateDecision i => i.loanApplicationId = input.loanApplicationId ∧ i.context = none
  | .fetchAaData i => i = ⟨input.loanApplicationId, input.vendorGstin, input.dataPrincipalId⟩
  | .submitToLender i => i.loanApplicationId = input.loanApplicationId ∧
      (replay handlers before).opsHold = false ∧ MatchedLenders before i.lenderIds
  | .submitOcenLoanRequest i => i = { loanApplicationId := input.loanApplicationId } ∧
      ∃ (h : Hist) (s : SubmitToLenderInput) (gs : List Signal) (r : Json),
        before = h ++ [.scheduled (.submitToLender s)] ++ gs.map .signalled ++
          [.completed (.submitToLender s) r]

/-- An activity is scheduled when every stage before it has passed. -/
structure Point (input : LoanOriginationInput) (before : Hist) (a : Activity) : Prop where
  passed : ∃ todo, (plan input).Passed (a.stage :: todo) before
  given : Given input before a

/-- The run has passed everything before `todo`. -/
structure Checkpoint (input : LoanOriginationInput) (todo : List Stage) (h : Hist) : Prop where
  passed : (plan input).Passed todo h
  points : h.EachScheduled (Point input)

/-- Both submissions are made and `submit_to_lender` brought no immediate offer. -/
structure AtD4 (input : LoanOriginationInput) (lenders : Json) (h : Hist) : Prop where
  checkpoint : Checkpoint input [] h
  noImmediateOffer : ∃ i r v, (.submitToLender i, r) ∈ h.results ∧ i.lenderIds = lenders ∧
    r.get "offer_received" .null = .ok v ∧ v.truthy = false

inductive Waiting (input : LoanOriginationInput) : Hist → Prop
  | hold {h} : Checkpoint input submissions h → (replay handlers h).opsHold = true →
      Waiting input h
  | lender {h lenders} : AtD4 input lenders h → (replay handlers h).lenderResponse = none →
      Waiting input h

/-- Where a run can go no further: a result it cannot read, the last of a gate or
that of `submit_to_lender`, or an activity that failed for good. -/
inductive Broken (input : LoanOriginationInput) : Hist → Prop
  | unreadable {a h} : (plan input).Unreadable a h → h.EachScheduled (Point input) →
      Broken input h
  | unreadableOffer {h} : Checkpoint input [] h → (∀ lenders, ¬ AtD4 input lenders h) →
      Broken input h
  | failed {a todo h} : (plan input).Running a todo h → h.EachScheduled (Point input) →
      Broken input (h ++ [.failed a])

/-- How a run can end, with the history it ends in. -/
inductive Outcome (input : LoanOriginationInput) : RunResult → Hist → Prop
  | denied {a gate reason h} : (plan input).Denied a gate h → h.EachScheduled (Point input) →
      Outcome input (.rejected gate reason) h
  | holdExpired {h} : Checkpoint input submissions h → (replay handlers h).opsHold = true →
      Outcome input (.rejected .opsHold (.str "ops_hold_expired")) (h ++ [.timedOut])
  | immediate {i r v offer h} : Checkpoint input [] h → (.submitToLender i, r) ∈ h.results →
      r.get "offer_received" .null = .ok v → v.truthy = true → r.subscript "offer" = .ok offer →
      Outcome input (.offerReceived offer i.lenderIds) h
  | decided {lenders response h} : AtD4 input lenders h →
      (replay handlers h).lenderResponse = some response →
      Outcome input (lenderDecision (some response) lenders) h
  | responseTimeout {lenders h} : AtD4 input lenders h →
      (replay handlers h).lenderResponse = none →
      Outcome input (.rejected .d4LenderUnderwriting (.str "lender_response_timeout"))
        (h ++ [.timedOut])

def contract (input : LoanOriginationInput) : Contract Activity Json Signal RunResult where
  pending a h := (∃ todo, (plan input).Running a todo h) ∧ h.EachScheduled (Point input)
  waiting := Waiting input
  broken := Broken input
  returned := Outcome input

/-! ## One lemma for each section of the run method -/

/-- A value that can be subscripted is a dict, so its `get` does not raise. -/
theorem get_of_subscript {r v : Json} {key : String} (h : r.subscript key = .ok v)
    (key' : String) (default : Json) : ∃ v', r.get key' default = .ok v' := by
  cases r with
  | obj fields => exact ⟨_, rfl⟩
  | null => simp [Json.subscript] at h
  | bool b => simp [Json.subscript] at h
  | num q => simp [Json.subscript] at h
  | str s => simp [Json.subscript] at h
  | arr items => simp [Json.subscript] at h

section Sections

variable {input : LoanOriginationInput} {todo : List Stage} {h : Hist}

/-- **Activity rule** of the origination run: a section is left with the result
`r` of the activity it executed. -/
theorem execute_spec {a : Activity} {Q : Json → Hist → Prop}
    (hc : Checkpoint input (a.stage :: todo) h) (hgiven : Given input h a)
    (hQ : ∀ (gs : List Signal) (r : Json) (h' : Hist),
      h' = h ++ [.scheduled a] ++ gs.map .signalled → (plan input).Running a todo h' →
      History.EachScheduled (Point input) (h' ++ [.completed a r]) → Q r (h' ++ [.completed a r])) :
    VC handlers (contract input) Q (execute a) h := by
  refine Plan.Passed.execute (P := plan input) hc.passed fun gs hrun => ?_
  have hpoints : History.EachScheduled (Point input)
      (h ++ [.scheduled a] ++ gs.map .signalled) := by
    rw [History.eachScheduled_signalled, History.eachScheduled_snoc]
    refine ⟨hc.points, ?_⟩
    rintro b hb
    cases hb
    exact ⟨⟨todo, hc.passed⟩, hgiven⟩
  refine ⟨⟨⟨todo, hrun⟩, hpoints⟩, .failed hrun hpoints, fun r => hQ gs r _ rfl hrun ?_⟩
  rw [History.eachScheduled_snoc]
  exact ⟨hpoints, by simp⟩

/-- Reading one field of the result and rejecting on it: a missing field leaves
the run stuck, an accepted one passes the stage, a refused one runs `body`. -/
theorem check_spec {a : Activity} {r : Json} {gate : Gate} {field : Except String Json}
    {test : Json → Bool} {body : Workflow Unit}
    (hrun : (plan input).Running a todo h)
    (hpoints : History.EachScheduled (Point input) (h ++ [.completed a r]))
    (hverdict : verdict a r = gateOn field test gate)
    (hbody : ∀ v, field = .ok v →
      (∀ reason, Outcome input (.rejected gate reason) (h ++ [.completed a r])) →
      VC handlers (contract input) (fun _ => Checkpoint input todo) body
        (h ++ [.completed a r])) :
    VC handlers (contract input) (fun _ => Checkpoint input todo)
      (do let v ← ofExcept field; if test v then body) (h ++ [.completed a r]) := by
  rw [VC_bind, VC_ofExcept]
  cases field with
  | error e => exact .unreadable ⟨r, e, hrun.halted r, hverdict⟩ hpoints
  | ok v =>
    simp only [gateOn] at hverdict
    simp only
    split
    · rename_i htest
      rw [if_pos htest] at hverdict
      exact hbody v rfl fun reason => .denied ⟨r, hrun.halted r, hverdict⟩ hpoints
    · rename_i htest
      rw [if_neg htest] at hverdict
      exact ⟨hrun.pass hverdict, hpoints⟩

/-- The rejection whose reason is read from the result that refused. -/
theorem reject_spec {a : Activity} {r v : Json} {gate : Gate} {key : String}
    (default : Json) {Q : Unit → Hist → Prop} (hv : r.subscript key = .ok v)
    (hout : ∀ reason, Outcome input (.rejected gate reason) (h ++ [.completed a r])) :
    VC handlers (contract input) Q
      (do let reason ← ofExcept (r.get "reason" default); .exit (.rejected gate reason))
      (h ++ [.completed a r]) := by
  obtain ⟨reason, hreason⟩ := get_of_subscript hv "reason" default
  rw [VC_bind, VC_ofExcept, hreason]
  exact hout reason

theorem dpdpConsentGate_spec (hc : Checkpoint input (stages input) h) :
    VC handlers (contract input) (fun _ => Checkpoint input gates)
      (dpdpConsentGate input.loanApplicationId input.dataPrincipalId) h := by
  unfold dpdpConsentGate
  unfold stages at hc
  split
  · rename_i hprincipal
    rw [if_pos hprincipal] at hc
    rw [VC_bind]
    refine execute_spec hc rfl fun gs r h' _ hrun hpoints => ?_
    exact check_spec hrun hpoints rfl fun v hv hout => reject_spec _ hv hout
  · rename_i hprincipal
    rw [if_neg hprincipal] at hc
    exact hc

theorem decisionGate_spec {gate rulesetName defaultReason : String} {rejection : Gate}
    (hverdict : ∀ i r, i.gate = gate → verdict (.evaluateDecision i) r =
      gateOn (r.subscript "outcome") (·.isStr "fail") rejection)
    (hc : Checkpoint input (.evaluateDecision gate :: todo) h) :
    VC handlers (contract input) (fun _ => Checkpoint input todo)
      (decisionGate input.loanApplicationId gate rulesetName rejection defaultReason) h := by
  unfold decisionGate
  rw [VC_bind]
  refine execute_spec hc ⟨rfl, rfl⟩ fun gs r h' _ hrun hpoints => ?_
  exact check_spec hrun hpoints (hverdict _ r rfl) fun v hv hout => reject_spec _ hv hout

theorem aaDataFetch_spec (hc : Checkpoint input (.fetchAaData :: todo) h) :
    VC handlers (contract input) (fun _ => Checkpoint input todo)
      (aaDataFetch input.loanApplicationId input.vendorGstin input.dataPrincipalId) h := by
  unfold aaDataFetch
  rw [VC_bind]
  refine execute_spec hc rfl fun gs r h' _ hrun hpoints => ?_
  exact check_spec hrun hpoints rfl fun v hv hout => hout _

theorem d2DerivedAttributes_spec
    (hc : Checkpoint input (.evaluateDecision "d2_derived_attributes" :: todo) h) :
    VC handlers (contract input) (fun _ => Checkpoint input todo)
      (d2DerivedAttributes input.loanApplicationId) h := by
  unfold d2DerivedAttributes
  rw [VC_bind]
  refine execute_spec hc ⟨rfl, rfl⟩ fun gs r h' _ hrun hpoints => ?_
  exact ⟨hrun.pass (by simp [plan, verdict]), hpoints⟩

theorem d3LenderPrescreen_spec
    (hc : Checkpoint input (.evaluateDecision "d3_lender_prescreen" :: todo) h) :
    VC handlers (contract input)
      (fun lenders h' => Checkpoint input todo h' ∧ MatchedLenders h' lenders)
      (d3LenderPrescreen input.loanApplicationId) h := by
  unfold d3LenderPrescreen
  rw [VC_bind]
  refine execute_spec hc ⟨rfl, rfl⟩ fun gs r h' _ hrun hpoints => ?_
  rw [VC_bind, VC_ofExcept]
  cases hmatched : r.get "matched_lender_ids" (.arr []) with
  | error e =>
    exact .unreadable ⟨r, e, hrun.halted r, by simp [plan, verdict, hmatched, gateOn]⟩ hpoints
  | ok lenders =>
    simp only
    split
    · rename_i hnone
      exact .denied ⟨r, hrun.halted r, by simp [plan, verdict, hmatched, gateOn, hnone]⟩ hpoints
    · rename_i hsome
      have hpass := hrun.pass (r := r) (by simp [plan, verdict, hmatched, gateOn, hsome])
      exact ⟨⟨hpass, hpoints⟩, _, r, History.mem_results_completed _ _ _, rfl, hmatched⟩

theorem Checkpoint.signals (hc : Checkpoint input todo h) (gs : List Signal) :
    Checkpoint input todo (h ++ gs.map .signalled) where
  passed := hc.passed.signals gs
  points := (History.eachScheduled_signalled gs).mpr hc.points

theorem MatchedLenders.signals {lenders : Json} (hm : MatchedLenders h lenders)
    (gs : List Signal) : MatchedLenders (h ++ gs.map .signalled) lenders := by
  obtain ⟨i, r, hmem, hd3⟩ := hm
  exact ⟨i, r, by simpa using hmem, hd3⟩

theorem AtD4.signals {lenders : Json} (hd : AtD4 input lenders h) (gs : List Signal) :
    AtD4 input lenders (h ++ gs.map .signalled) where
  checkpoint := hd.checkpoint.signals gs
  noImmediateOffer := by
    obtain ⟨i, r, v, hmem, hrest⟩ := hd.noImmediateOffer
    exact ⟨i, r, v, by simpa using hmem, hrest⟩

theorem opsHoldCheck_spec {lenders : Json} (hc : Checkpoint input submissions h)
    (hm : MatchedLenders h lenders) :
    VC handlers (contract input)
      (fun _ h' => Checkpoint input submissions h' ∧ (replay handlers h').opsHold = false ∧
        MatchedLenders h' lenders) opsHoldCheck h := by
  unfold opsHoldCheck
  rw [VC_bind, VC_self]
  split
  · rw [VC_bind, VC_waitCondition]
    intro gs
    split
    · rename_i hreleased
      exact ⟨hc.signals gs, by simpa using hreleased, hm.signals gs⟩
    · rename_i hheld
      have hheld : (replay handlers (h ++ gs.map .signalled)).opsHold = true := by
        simpa using hheld
      exact ⟨.hold (hc.signals gs) hheld, .holdExpired (hc.signals gs) hheld⟩
  · rename_i hfree
    exact ⟨hc, by simpa using hfree, hm⟩

theorem submitToLenders_spec {lenders : Json} (hc : Checkpoint input submissions h)
    (hfree : (replay handlers h).opsHold = false) (hm : MatchedLenders h lenders) :
    VC handlers (contract input)
      (fun r h' => Checkpoint input [] h' ∧
        ∃ i, (.submitToLender i, r) ∈ h'.results ∧ i.lenderIds = lenders)
      (submitToLenders input.loanApplicationId lenders) h := by
  unfold submitToLenders
  rw [VC_bind]
  refine execute_spec hc ⟨rfl, hfree, hm⟩ fun gs r h' heq hrun hpoints => ?_
  rw [VC_bind]
  have hpass := hrun.pass (r := r) rfl
  refine execute_spec ⟨hpass, hpoints⟩ ⟨rfl, h, _, gs, r, by rw [heq]⟩
    fun gs' r' h'' heq' hrun' hpoints' => ?_
  refine ⟨⟨hrun'.pass rfl, hpoints'⟩, { loanApplicationId := input.loanApplicationId, lenderIds := lenders },
    ?_, rfl⟩
  rw [heq']
  simp

/-- There is one result of `submit_to_lender`. -/
theorem AtD4.offerReceived {lenders r : Json} {i : SubmitToLenderInput}
    (hd : AtD4 input lenders h) (hmem : (.submitToLender i, r) ∈ h.results) :
    ∃ v, r.get "offer_received" .null = .ok v ∧ v.truthy = false := by
  obtain ⟨i', r', v, hmem', -, hv⟩ := hd.noImmediateOffer
  have hsame := hd.checkpoint.passed.unique (stages_nodup input) hmem hmem' rfl
  obtain ⟨-, rfl⟩ := Prod.mk.inj hsame
  exact ⟨v, hv⟩

theorem immediateOffer_spec {lenders r : Json} (hc : Checkpoint input [] h)
    (hr : ∃ i, (.submitToLender i, r) ∈ h.results ∧ i.lenderIds = lenders) :
    VC handlers (contract input) (fun _ => AtD4 input lenders) (immediateOffer r lenders) h := by
  obtain ⟨i, hmem, rfl⟩ := hr
  unfold immediateOffer
  rw [VC_bind, VC_ofExcept]
  cases hreceived : r.get "offer_received" .null with
  | error e =>
    refine .unreadableOffer hc fun lenders hd => ?_
    obtain ⟨v, hv, -⟩ := hd.offerReceived hmem
    rw [hreceived] at hv
    cases hv
  | ok v =>
    simp only
    split
    · rename_i hv
      rw [VC_bind, VC_ofExcept]
      cases hoffer : r.subscript "offer" with
      | error e =>
        refine .unreadableOffer hc fun lenders hd => ?_
        obtain ⟨v', hv', hfalse⟩ := hd.offerReceived hmem
        obtain rfl : v = v' := Except.ok.inj (hreceived.symm.trans hv')
        rw [hv] at hfalse
        cases hfalse
      | ok offer => exact .immediate hc hmem hreceived hv hoffer
    · rename_i hv
      exact ⟨hc, i, r, v, hmem, rfl, hreceived, by simpa using hv⟩

theorem awaitLenderDecision_spec {lenders : Json} (hd : AtD4 input lenders h) :
    VC handlers (contract input) (Outcome input) (awaitLenderDecision lenders) h := by
  unfold awaitLenderDecision
  rw [VC_bind, VC_waitCondition]
  intro gs
  split
  · rename_i hresponse
    obtain ⟨response, hresponse⟩ := Option.isSome_iff_exists.mp hresponse
    simp only [Bool.not_true, Bool.false_eq_true, ↓reduceIte]
    rw [VC_bind, VC_self, VC_pure, hresponse]
    exact .decided (hd.signals gs) hresponse
  · rename_i hnone
    have hnone : (replay handlers (h ++ gs.map .signalled)).lenderResponse = none := by
      simpa using hnone
    exact ⟨.lender (hd.signals gs) hnone, .responseTimeout (hd.signals gs) hnone⟩

end Sections

/-- The run method keeps its contract, whatever signals precede it. -/
theorem runMethod_spec (input : WorkflowInput) (early : List Signal) :
    VC handlers (contract input.resolve) (Outcome input.resolve) (runMethod input)
      (early.map .signalled) := by
  have hstart : Checkpoint input.resolve (stages input.resolve) (early.map .signalled) := by
    refine ⟨Plan.passed_signalled (P := plan input.resolve) early, ?_⟩
    have hnil := History.eachScheduled_nil (P := Point input.resolve)
    simpa using (History.eachScheduled_signalled early).mpr hnil
  unfold runMethod
  rw [VC_bind]
  refine VC.mono (fun _ h hd0 => ?_) (dpdpConsentGate_spec hstart)
  rw [VC_bind]
  refine VC.mono (fun _ h haa => ?_) (decisionGate_spec (by intro i r hi; simp [verdict, hi]) hd0)
  rw [VC_bind]
  refine VC.mono (fun _ h hd1 => ?_) (aaDataFetch_spec haa)
  rw [VC_bind]
  refine VC.mono (fun _ h hd2 => ?_) (decisionGate_spec (by intro i r hi; simp [verdict, hi]) hd1)
  rw [VC_bind]
  refine VC.mono (fun _ h hd3 => ?_) (d2DerivedAttributes_spec hd2)
  rw [VC_bind]
  refine VC.mono ?_ (d3LenderPrescreen_spec hd3)
  rintro lenders h ⟨hhold, hm⟩
  rw [VC_bind]
  refine VC.mono ?_ (opsHoldCheck_spec hhold hm)
  rintro _ h ⟨hsubmit, hfree, hm⟩
  rw [VC_bind]
  refine VC.mono ?_ (submitToLenders_spec hsubmit hfree hm)
  rintro r h ⟨hoffer, hr⟩
  rw [VC_bind]
  refine VC.mono (fun _ h hd4 => ?_) (immediateOffer_spec hoffer hr)
  exact awaitLenderDecision_spec hd4

/-- **The contract of the origination workflow**, in every state of every run. -/
theorem runWorkflow_contract (input : WorkflowInput) (early : List Signal)
    (events : List (Event Json Signal)) :
    (contract input.resolve).Holds (runWorkflow input early events) :=
  holds_run (runMethod_spec input) early events

section Points

variable {input : LoanOriginationInput} {h : Hist}

theorem eachScheduled_timedOut (hpoints : h.EachScheduled (Point input)) :
    History.EachScheduled (Point input) (h ++ [.timedOut]) := by
  rw [History.eachScheduled_snoc]
  exact ⟨hpoints, by simp⟩

theorem Waiting.points (hw : Waiting input h) : h.EachScheduled (Point input) := by
  cases hw with
  | hold hc _ => exact hc.points
  | lender hd _ => exact hd.checkpoint.points

theorem Broken.points (hb : Broken input h) : h.EachScheduled (Point input) := by
  cases hb with
  | unreadable _ hpoints => exact hpoints
  | unreadableOffer hc _ => exact hc.points
  | failed _ hpoints =>
    rw [History.eachScheduled_snoc]
    exact ⟨hpoints, by simp⟩

theorem Outcome.points {out : RunResult} (ho : Outcome input out h) :
    h.EachScheduled (Point input) := by
  cases ho with
  | denied _ hpoints => exact hpoints
  | holdExpired hc _ => exact eachScheduled_timedOut hc.points
  | immediate hc _ _ _ _ => exact hc.points
  | decided hd _ => exact hd.checkpoint.points
  | responseTimeout hd _ => exact eachScheduled_timedOut hd.checkpoint.points

end Points

/-- Every activity of a run is scheduled under its conditions. -/
theorem runWorkflow_points (input : WorkflowInput) (early : List Signal)
    (events : List (Event Json Signal)) :
    (runWorkflow input early events).history.EachScheduled (Point input.resolve) := by
  have hcontract := runWorkflow_contract input early events
  unfold Contract.Holds at hcontract
  split at hcontract
  next a next hx => exact hcontract.2
  next cond hours next hx => exact Waiting.points hcontract
  next out hx => exact Outcome.points hcontract
  next a hx => exact Broken.points hcontract
  next error hx => exact Broken.points hcontract

end OcenPlatform.Origination
