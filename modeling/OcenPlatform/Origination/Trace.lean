import OcenPlatform.Origination.Pipeline

/-! The whole trace of an origination run: which activities it schedules, where
it stops, and what it returns there. -/

namespace OcenPlatform.Origination

open Durable

/-- The run has returned a dict with `status` "rejected" that names `gate`. -/
def ReturnsRejected (x : Run) (gate : Gate) : Prop :=
  ∃ out, x.status = .returned out ∧ PyDict.find? out.toDict "status" = some (.str "rejected") ∧
    PyDict.find? out.toDict "gate" = some (.str gate.name)

/-- The run has returned a dict with `status` "offer_received" and these
`matched_lenders`. -/
def ReturnsOffer (x : Run) (matchedLenders : Json) : Prop :=
  ∃ out, x.status = .returned out ∧ PyDict.find? out.toDict "status" = some (.str "offer_received") ∧
    PyDict.find? out.toDict "matched_lenders" = some matchedLenders

/-- Every stage has completed and none was denied. -/
structure Completed (input : LoanOriginationInput) (h : Hist) : Prop where
  stages : h.results.map (fun p => p.1.stage) = stages input
  scheduled : h.scheduled = h.results.map Prod.fst
  undenied : ∀ p ∈ h.results, verdict p.1 p.2 = .ok none

/-- Why a run that ends in this history may name a gate in its rejection. -/
inductive RejectedAt (input : LoanOriginationInput) : Gate → Hist → Prop
  | denied {a gate h} : (plan input).Denied a gate h → RejectedAt input gate h
  | holdExpired {h} : (plan input).Passed submissions h → (replay handlers h).opsHold = true →
      RejectedAt input .opsHold (h ++ [.timedOut])
  | underwriting {h} : Completed input h → RejectedAt input .d4LenderUnderwriting h

structure FollowsPipeline (input : LoanOriginationInput) (x : Run) : Prop where
  ordered : x.history.scheduled.map Activity.stage <+: stages input
  once : (x.history.scheduled.map Activity.stage).Nodup
  /-- A denied stage is the last one, and its gate is returned. -/
  denied : ∀ a r gate, (a, r) ∈ x.history.results → verdict a r = .ok (some gate) →
    (plan input).Denied a gate x.history ∧ ReturnsRejected x gate
  /-- So is a hold whose timer fires before the submissions. -/
  held : ∀ before after : Hist, x.history = before ++ .timedOut :: after →
    Stage.submitToLender ∉ before.scheduled.map Activity.stage →
    after = [] ∧ (plan input).Passed submissions before ∧ ReturnsRejected x .opsHold
  rejected : ∀ gate, ReturnsRejected x gate → RejectedAt input gate x.history
  /-- An offer comes after the whole sequence, with the lenders that D3 matched
  and that were submitted to. -/
  offered : ∀ lenders, ReturnsOffer x lenders → Completed input x.history ∧
    MatchedLenders x.history lenders ∧
    ∃ i, .submitToLender i ∈ x.history.scheduled ∧ i.lenderIds = lenders

/-! ## Reading the returned dict -/

theorem Gate.name_injective {g g' : Gate} (h : g.name = g'.name) : g = g' := by
  revert h
  cases g <;> cases g' <;> decide

theorem returnsRejected_iff {x : Run} {gate : Gate} :
    ReturnsRejected x gate ↔ ∃ reason, x.status = .returned (.rejected gate reason) := by
  constructor
  · rintro ⟨out, hx, hstatus, hgate⟩
    cases out with
    | rejected g reason =>
      have hname : g.name = gate.name := by simpa [RunResult.toDict] using hgate
      exact ⟨reason, by rw [hx, Gate.name_injective hname]⟩
    | offerReceived offer lenders => simp [RunResult.toDict] at hstatus
  · rintro ⟨reason, hx⟩
    exact ⟨_, hx, rfl, rfl⟩

theorem returnsOffer_iff {x : Run} {lenders : Json} :
    ReturnsOffer x lenders ↔ ∃ offer, x.status = .returned (.offerReceived offer lenders) := by
  constructor
  · rintro ⟨out, hx, hstatus, hlenders⟩
    cases out with
    | rejected g reason => simp [RunResult.toDict] at hstatus
    | offerReceived offer matched =>
      have hmatched : matched = lenders := by simpa [RunResult.toDict] using hlenders
      exact ⟨offer, by rw [hx, hmatched]⟩
  · rintro ⟨offer, hx⟩
    exact ⟨_, hx, rfl, rfl⟩

/-! ## From the contract to the trace -/

variable {input : LoanOriginationInput} {h : Hist} {lenders : Json}

theorem Broken.undenied (hb : Broken input h) : (plan input).Undenied h := by
  cases hb with
  | unreadable hunreadable _ => exact hunreadable.undenied
  | unreadableOffer hc _ => exact hc.passed.undenied
  | failed hrun _ => exact hrun.undenied.failed _

theorem Checkpoint.completed (hc : Checkpoint input [] h) : Completed input h where
  stages := by have hsplit := hc.passed.split; simpa [plan] using hsplit.symm
  scheduled := hc.passed.closed
  undenied := hc.passed.clean

/-- Waiting for the timer does not change what was completed. -/
theorem Completed.timedOut (hc : Completed input h) : Completed input (h ++ [.timedOut]) where
  stages := by simpa using hc.stages
  scheduled := by simpa using hc.scheduled
  undenied := by simpa using hc.undenied

/-- The lenders of a submission are those that D3 matched. -/
theorem matchedLenders_of_submitted {i : SubmitToLenderInput}
    (hpoints : h.EachScheduled (Point input)) (hmem : .submitToLender i ∈ h.scheduled) :
    MatchedLenders h i.lenderIds := by
  obtain ⟨before, after, rfl, hpoint⟩ := hpoints.of_mem hmem
  obtain ⟨-, -, d3, r, hr, hd3⟩ := hpoint.given
  exact ⟨d3, r, by simp [hr], hd3⟩

theorem mem_scheduled_of_result {a : Activity} {r : Json}
    (hclosed : h.scheduled = h.results.map Prod.fst) (hmem : (a, r) ∈ h.results) :
    a ∈ h.scheduled := by
  rw [hclosed]
  exact List.mem_map.mpr ⟨_, hmem, rfl⟩

/-- An untimed history that the timer ends has no other timer in it. -/
theorem timedOut_last {before after : Hist} (hu : .timedOut ∉ h)
    (heq : h ++ [.timedOut] = before ++ .timedOut :: after) : before = h ∧ after = [] := by
  rcases List.append_eq_append_iff.mp heq with ⟨mid, hbefore, hafter⟩ | ⟨mid, hh, hafter⟩
  · cases mid with
    | nil => simpa [hbefore] using hafter
    | cons o mid => simp at hafter
  · cases mid with
    | nil => simpa [hh] using hafter
    | cons o mid =>
      obtain ⟨rfl, -⟩ : Obs.timedOut = o ∧ _ := by simpa using hafter
      exact absurd (by rw [hh]; simp) hu

section

variable {x : Run}

/-- A run that is not through and has denied nothing. -/
theorem follows_of_undenied (hu : (plan input).Undenied x.history)
    (hx : ∀ out, x.status ≠ .returned out) : FollowsPipeline input x where
  ordered := hu.ordered
  once := hu.ordered.sublist.nodup (stages_nodup input)
  denied := by
    intro a r gate hmem hverdict
    exact absurd hverdict (hu.clean _ hmem gate)
  held := by
    intro before after heq
    exact absurd (by rw [heq]; simp) hu.untimed
  rejected := by
    rintro gate ⟨out, hout, -⟩
    exact absurd hout (hx out)
  offered := by
    rintro lenders ⟨out, hout, -⟩
    exact absurd hout (hx out)

theorem follows_of_denied {a : Activity} {gate : Gate} {reason : Json}
    (hd : (plan input).Denied a gate x.history)
    (hx : x.status = .returned (.rejected gate reason)) : FollowsPipeline input x := by
  have hdenied := hd
  obtain ⟨r, hhalted, hgate⟩ := hd
  obtain ⟨before, hresults, hclean⟩ := hhalted.last
  refine ⟨hhalted.ordered, hhalted.ordered.sublist.nodup (stages_nodup input), ?_, ?_, ?_, ?_⟩
  · intro b r' gate' hmem hverdict
    have hmem : (b, r') ∈ before ∨ b = a ∧ r' = r := by simpa [hresults] using hmem
    rcases hmem with hmem | ⟨rfl, rfl⟩
    · cases (hclean _ hmem).symm.trans hverdict
    · cases hgate.symm.trans hverdict
      exact ⟨hdenied, returnsRejected_iff.mpr ⟨reason, hx⟩⟩
  · intro before after heq
    exact absurd (by rw [heq]; simp) hhalted.untimed
  · intro gate' hreturns
    obtain ⟨reason', hx'⟩ := returnsRejected_iff.mp hreturns
    obtain ⟨rfl, -⟩ : gate = gate' ∧ _ := by simpa [hx] using hx'
    exact .denied hdenied
  · intro lenders hreturns
    obtain ⟨offer, hx'⟩ := returnsOffer_iff.mp hreturns
    simp [hx] at hx'

/-- A run stopped by the hold's timer. -/
theorem follows_of_holdExpired {reason : Json} (hc : Checkpoint input submissions h)
    (hhold : (replay handlers h).opsHold = true) (hx : x.history = h ++ [.timedOut])
    (hstatus : x.status = .returned (.rejected .opsHold reason)) : FollowsPipeline input x := by
  have hordered : x.history.scheduled.map Activity.stage <+: stages input := by
    have hprefix := hc.passed.undenied.ordered
    simp only [plan] at hprefix
    simpa [hx] using hprefix
  refine ⟨hordered, hordered.sublist.nodup (stages_nodup input), ?_, ?_, ?_, ?_⟩
  · intro a r gate hmem hverdict
    cases (hc.passed.clean (a, r) (by simpa [hx] using hmem)).symm.trans hverdict
  · intro before after heq _
    rw [hx] at heq
    obtain ⟨rfl, rfl⟩ := timedOut_last hc.passed.untimed heq
    exact ⟨rfl, hc.passed, returnsRejected_iff.mpr ⟨reason, hstatus⟩⟩
  · intro gate hreturns
    obtain ⟨reason', hx'⟩ := returnsRejected_iff.mp hreturns
    obtain ⟨rfl, -⟩ : Gate.opsHold = gate ∧ _ := by simpa [hstatus] using hx'
    rw [hx]
    exact .holdExpired hc.passed hhold
  · intro lenders hreturns
    obtain ⟨offer, hx'⟩ := returnsOffer_iff.mp hreturns
    simp [hstatus] at hx'

/-- What a run may return once every stage has completed. -/
def LenderAnswer (h : Hist) : RunResult → Prop
  | .rejected gate _ => gate = .d4LenderUnderwriting
  | .offerReceived _ lenders => ∃ i, .submitToLender i ∈ h.scheduled ∧ i.lenderIds = lenders ∧
      MatchedLenders h lenders

/-- A run that has been through every stage, up to the lender's decision. -/
theorem follows_of_completed {out : RunResult} (hc : Completed input x.history)
    (hheld : ∀ before after : Hist, x.history = before ++ .timedOut :: after →
      Stage.submitToLender ∈ before.scheduled.map Activity.stage)
    (hstatus : x.status = .returned out)
    (hout : LenderAnswer x.history out) : FollowsPipeline input x := by
  have hall : x.history.scheduled.map Activity.stage = stages input := by
    rw [hc.scheduled, List.map_map]
    exact hc.stages
  refine ⟨⟨[], by rw [List.append_nil, hall]⟩, by rw [hall]; exact stages_nodup input, ?_, ?_, ?_, ?_⟩
  · intro a r gate hmem hverdict
    cases (hc.undenied (a, r) hmem).symm.trans hverdict
  · intro before after heq hnot
    exact absurd (hheld before after heq) hnot
  · intro gate hreturns
    obtain ⟨reason, hx⟩ := returnsRejected_iff.mp hreturns
    obtain rfl : out = .rejected gate reason := by simpa [hstatus] using hx
    obtain rfl := hout
    exact .underwriting hc
  · intro lenders hreturns
    obtain ⟨offer, hx⟩ := returnsOffer_iff.mp hreturns
    obtain rfl : out = .offerReceived offer lenders := by simpa [hstatus] using hx
    obtain ⟨i, hmem, hlenders, hmatched⟩ := hout
    exact ⟨hc, hmatched, i, hmem, hlenders⟩

end

/-- The lenders of the submission in a run that is waiting for, or has got, the
lender's decision. -/
theorem AtD4.submitted (hd : AtD4 input lenders h) (offer : Json) :
    LenderAnswer h (.offerReceived offer lenders) := by
  obtain ⟨i, r, v, hmem, rfl, -⟩ := hd.noImmediateOffer
  have hsched := mem_scheduled_of_result hd.checkpoint.passed.closed hmem
  exact ⟨i, hsched, rfl, matchedLenders_of_submitted hd.checkpoint.points hsched⟩

theorem follows_of_outcome {x : Run} {out : RunResult} (ho : Outcome input out x.history)
    (hx : x.status = .returned out) : FollowsPipeline input x := by
  revert ho
  generalize hh : x.history = h'
  intro ho
  cases ho with
  | denied hd _ => exact follows_of_denied (hh ▸ hd) hx
  | holdExpired hc hhold => exact follows_of_holdExpired hc hhold hh hx
  | @immediate i r v offer _ hc hmem hreceived hv hoffer =>
    subst hh
    refine follows_of_completed hc.completed ?_ hx ?_
    · intro before after heq
      exact absurd (by rw [heq]; simp) hc.passed.untimed
    · have hsched := mem_scheduled_of_result hc.passed.closed hmem
      exact ⟨i, hsched, rfl, matchedLenders_of_submitted hc.points hsched⟩
  | @decided lenders response _ hd _ =>
    subst hh
    refine follows_of_completed hd.checkpoint.completed ?_ hx ?_
    · intro before after heq
      exact absurd (by rw [heq]; simp) hd.checkpoint.passed.untimed
    · cases hoffer : carriesOffer response with
      | true => rw [lenderDecision_offer hoffer]; exact hd.submitted _
      | false => rw [lenderDecision_decline hoffer]; rfl
  | @responseTimeout lenders h hd hnone =>
    refine follows_of_completed (by rw [hh]; exact hd.checkpoint.completed.timedOut) ?_ hx rfl
    intro before after heq
    rw [hh] at heq
    obtain ⟨rfl, -⟩ := timedOut_last hd.checkpoint.passed.untimed heq
    have hc := hd.checkpoint.completed
    rw [hc.scheduled, List.map_map]
    exact hc.stages ▸ mem_submitToLender input

/-- Whatever the activities return and however signals and timers arrive, a run
schedules a prefix of its stages, stops at the first that is denied with that
stage's gate, and brings an offer only after the last. -/
theorem runWorkflow_followsPipeline (input : WorkflowInput) (early : List Signal)
    (events : List (Event Json Signal)) :
    FollowsPipeline input.resolve (runWorkflow input early events) := by
  have hcontract := runWorkflow_contract input early events
  unfold Contract.Holds at hcontract
  split at hcontract
  next a next hx =>
    obtain ⟨⟨todo, hrun⟩, -⟩ := hcontract
    exact follows_of_undenied hrun.undenied (by simp [hx])
  next cond hours next hx =>
    have hu : (plan input.resolve).Undenied (runWorkflow input early events).history := by
      cases hcontract with
      | hold hc _ => exact hc.passed.undenied
      | lender hd _ => exact hd.checkpoint.passed.undenied
    exact follows_of_undenied hu (by simp [hx])
  next out hx => exact follows_of_outcome hcontract hx
  next a hx => exact follows_of_undenied (Broken.undenied hcontract) (by simp [hx])
  next error hx => exact follows_of_undenied (Broken.undenied hcontract) (by simp [hx])

/-! ## Progress -/

section Progress

variable {a : Activity} {r : Json} {s : Stage} {pre post : List Stage}

theorem stages_end (input : LoanOriginationInput) :
    ∃ before, stages input = before ++ .submitToLender :: [.submitOcenLoanRequest] ∧
      .submitToLender ∉ before := by
  unfold stages
  split
  · exact ⟨[.checkDpdpConsent, .evaluateDecision "d0_kind1_gate", .fetchAaData,
      .evaluateDecision "d1_data_sufficiency", .evaluateDecision "d2_derived_attributes",
      .evaluateDecision "d3_lender_prescreen"], rfl, by decide⟩
  · exact ⟨[.evaluateDecision "d0_kind1_gate", .fetchAaData,
      .evaluateDecision "d1_data_sufficiency", .evaluateDecision "d2_derived_attributes",
      .evaluateDecision "d3_lender_prescreen"], rfl, by decide⟩

theorem next_of_passed {todo : List Stage} (hp : (plan input).Passed todo h)
    (htodo : todo = [] ∨ todo = submissions) (hmem : (a, r) ∈ h.results)
    (hs : stages input = pre ++ a.stage :: s :: post) (hsubmit : s ≠ .submitToLender) :
    s ∈ h.scheduled.map Activity.stage := by
  rcases hp.next_scheduled (stages_nodup input) hmem hs with hin | ⟨rest, hnext⟩
  · exact hin
  · rcases htodo with rfl | rfl
    · cases hnext
    · exact absurd (List.cons.inj hnext).1.symm hsubmit

theorem next_of_halted {b : Activity} {r' : Json} (hh : (plan input).Halted b r' h)
    (hb : verdict b r' ≠ .ok none) (hmem : (a, r) ∈ h.results) (hv : verdict a r = .ok none)
    (hs : stages input = pre ++ a.stage :: s :: post) : s ∈ h.scheduled.map Activity.stage := by
  refine hh.next_scheduled (stages_nodup input) hmem (fun heq => ?_) hs
  obtain ⟨rfl, rfl⟩ := Prod.mk.inj heq
  exact hb hv

theorem Broken.next_scheduled (hb : Broken input h) (hmem : (a, r) ∈ h.results)
    (hv : verdict a r = .ok none) (hs : stages input = pre ++ a.stage :: s :: post)
    (hsubmit : s ≠ .submitToLender) : s ∈ h.scheduled.map Activity.stage := by
  cases hb with
  | unreadable hu _ =>
    obtain ⟨r', e, hhalted, hverdict⟩ := hu
    exact next_of_halted hhalted (fun heq => nomatch hverdict.symm.trans heq) hmem hv hs
  | unreadableOffer hc _ => exact next_of_passed hc.passed (.inl rfl) hmem hs hsubmit
  | failed hrun _ =>
    have hnext := hrun.next_scheduled (stages_nodup input) (by simpa using hmem) hs
    simpa [plan] using hnext

theorem Outcome.next_scheduled {out : RunResult} (ho : Outcome input out h)
    (hmem : (a, r) ∈ h.results) (hv : verdict a r = .ok none)
    (hs : stages input = pre ++ a.stage :: s :: post) (hsubmit : s ≠ .submitToLender) :
    s ∈ h.scheduled.map Activity.stage := by
  cases ho with
  | denied hd _ =>
    obtain ⟨r', hhalted, hverdict⟩ := hd
    exact next_of_halted hhalted (fun heq => nomatch hverdict.symm.trans heq) hmem hv hs
  | holdExpired hc _ =>
    have hnext := next_of_passed hc.passed (.inr rfl) (by simpa using hmem) hs hsubmit
    simpa using hnext
  | immediate hc _ _ _ _ => exact next_of_passed hc.passed (.inl rfl) hmem hs hsubmit
  | decided hd _ => exact next_of_passed hd.checkpoint.passed (.inl rfl) hmem hs hsubmit
  | responseTimeout hd _ =>
    have hnext := next_of_passed hd.checkpoint.passed (.inl rfl) (by simpa using hmem) hs hsubmit
    simpa using hnext

end Progress

/-- In every run a stage that passes is followed by the next one at once, but for
`submit_to_lender`, which an ops hold may keep back. -/
theorem runWorkflow_next_scheduled (input : WorkflowInput) (early : List Signal)
    (events : List (Event Json Signal)) {a : Activity} {r : Json} {s : Stage}
    {pre post : List Stage}
    (hmem : (a, r) ∈ (runWorkflow input early events).history.results)
    (hv : verdict a r = .ok none) (hs : stages input.resolve = pre ++ a.stage :: s :: post)
    (hsubmit : s ≠ .submitToLender) :
    s ∈ (runWorkflow input early events).history.scheduled.map Activity.stage := by
  have hcontract := runWorkflow_contract input early events
  unfold Contract.Holds at hcontract
  split at hcontract
  next b next hx =>
    obtain ⟨⟨todo, hrun⟩, -⟩ := hcontract
    exact hrun.next_scheduled (stages_nodup _) hmem hs
  next cond hours next hx =>
    cases hcontract with
    | hold hc _ => exact next_of_passed hc.passed (.inr rfl) hmem hs hsubmit
    | lender hd _ => exact next_of_passed hd.checkpoint.passed (.inl rfl) hmem hs hsubmit
  next out hx => exact Outcome.next_scheduled hcontract hmem hv hs hsubmit
  next b hx => exact Broken.next_scheduled hcontract hmem hv hs hsubmit
  next error hx => exact Broken.next_scheduled hcontract hmem hv hs hsubmit

/-! An application whose gates all pass, for the concrete runs of the modules
that build on this one. -/

def sampleInput : LoanOriginationInput where
  loanApplicationId := "LA-1"
  dataPrincipalId := "29ABCDE1234F1Z5"
  vendorGstin := "29ABCDE1234F1Z5"

def gatesPass : List (Event Json Signal) :=
  [.completed (.obj [("allowed", .bool true), ("reason", .str "granted")]),
    .completed (.obj [("outcome", .str "pass")]),
    .completed (.obj [("data_received", .bool true)]),
    .completed (.obj [("outcome", .str "pass")]),
    .completed (.obj [("outcome", .str "flag")]),
    .completed (.obj [("outcome", .str "pass"), ("matched_lender_ids", .arr [.str "lender-001"])])]

example : (runWorkflow (.structured sampleInput) [] gatesPass).history.scheduled.map
    Activity.stage = (stages sampleInput).dropLast := rfl

end OcenPlatform.Origination
