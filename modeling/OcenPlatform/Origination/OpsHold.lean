import OcenPlatform.Origination.Trace

/-! Ops holds and the two submissions. The hold flag is read once, before
`submit_to_lender`, so what the second submission respects depends on the
signals that arrive while the first one runs. -/

namespace OcenPlatform.Origination

open Durable

/-- The latest hold signal is a hold that has not been released. -/
def Held (gs : List Signal) : Prop :=
  ∃ before reason after, gs = before ++ .opsHoldRequested reason :: after ∧
    .opsHoldReleased ∉ after

/-- No submission is scheduled under a hold. -/
def HoldRespected (h : Hist) : Prop :=
  h.EachScheduled fun before a => a.stage ∈ submissions → ¬ Held before.signals

/-- The signals that are delivered while `submit_to_lender` runs leave no hold. -/
def NoHoldDuringSubmission (h : Hist) : Prop :=
  ∀ (before after : Hist) (i : SubmitToLenderInput) (gs : List Signal) (r : Json),
    h = before ++ .scheduled (.submitToLender i) ::
      (gs.map .signalled ++ .completed (.submitToLender i) r :: after) → ¬ Held gs

/-! ## The flag says whether a hold is in force -/

theorem not_held_nil : ¬ Held [] := by
  rintro ⟨before, reason, after, heq, -⟩
  simp at heq

theorem held_cons (g : Signal) (gs : List Signal) : Held (g :: gs) ↔
    Held gs ∨ (∃ reason, g = .opsHoldRequested reason) ∧ .opsHoldReleased ∉ gs := by
  constructor
  · rintro ⟨before, reason, after, heq, hnot⟩
    cases before with
    | nil =>
      obtain ⟨rfl, rfl⟩ := List.cons.inj heq
      exact .inr ⟨⟨reason, rfl⟩, hnot⟩
    | cons b before => exact .inl ⟨before, reason, after, (List.cons.inj heq).2, hnot⟩
  · rintro (⟨before, reason, after, rfl, hnot⟩ | ⟨⟨reason, rfl⟩, hnot⟩)
    · exact ⟨g :: before, reason, after, rfl, hnot⟩
    · exact ⟨[], reason, gs, rfl, hnot⟩

theorem foldl_opsHold (gs : List Signal) (w : LoanOriginationWorkflow) :
    (gs.foldl LoanOriginationWorkflow.handle w).opsHold = true ↔
      Held gs ∨ w.opsHold = true ∧ .opsHoldReleased ∉ gs := by
  induction gs generalizing w with
  | nil => simp [not_held_nil]
  | cons g gs ih =>
    rw [List.foldl_cons, ih, held_cons]
    cases g with
    | lenderResponseReceived response => simp [LoanOriginationWorkflow.handle]
    | opsHoldRequested reason =>
      simp only [LoanOriginationWorkflow.handle, List.mem_cons, reduceCtorEq, false_or,
        true_and, Signal.opsHoldRequested.injEq, exists_eq']
      constructor
      · exact .inl
      · rintro (hheld | ⟨-, hnot⟩)
        · exact hheld
        · exact .inr hnot
    | opsHoldReleased => simp [LoanOriginationWorkflow.handle]

theorem replay_opsHold (h : Hist) :
    (replay handlers h).opsHold = true ↔ Held h.signals := by
  have hfold := foldl_opsHold h.signals {}
  simpa [replay, handlers] using hfold

theorem held_append (gs gs' : List Signal) :
    Held (gs ++ gs') ↔ Held gs' ∨ Held gs ∧ .opsHoldReleased ∉ gs' := by
  have hfold := foldl_opsHold (gs ++ gs') {}
  rw [List.foldl_append, foldl_opsHold, foldl_opsHold] at hfold
  simpa using hfold.symm

/-! ## Holds at the submissions -/

variable {input : LoanOriginationInput} {h : Hist}

/-- `submit_to_lender` is completed only when the network submission is under way. -/
theorem runWorkflow_ocen_scheduled (input : WorkflowInput) (early : List Signal)
    (events : List (Event Json Signal)) {i : SubmitToLenderInput} {r : Json}
    (hmem : (.submitToLender i, r) ∈ (runWorkflow input early events).history.results) :
    ∃ o, .submitOcenLoanRequest o ∈ (runWorkflow input early events).history.scheduled := by
  obtain ⟨before, hstages, -⟩ := stages_end input.resolve
  have hnext := runWorkflow_next_scheduled input early events hmem rfl hstages (by decide)
  obtain ⟨a, ha, hstage⟩ := List.mem_map.mp hnext
  cases a with
  | submitOcenLoanRequest o => exact ⟨o, ha⟩
  | checkDpdpConsent i => cases hstage
  | evaluateDecision i => cases hstage
  | fetchAaData i => cases hstage
  | submitToLender i => cases hstage

/-- The signals up to the network submission: those before `submit_to_lender`,
which leave no hold, and those that arrived while it ran. -/
theorem held_at_ocen {before : Hist} {gs : List Signal} {s : SubmitToLenderInput} {r : Json}
    (hfree : (replay handlers before).opsHold = false) :
    Held (History.signals (before ++ [.scheduled (.submitToLender s)] ++ gs.map .signalled ++
      [.completed (.submitToLender s) r])) ↔ Held gs := by
  have hnot : ¬ Held before.signals := by
    rw [← replay_opsHold, hfree]
    decide
  simp [held_append, hnot]

theorem holdRespected_of_points (hpoints : h.EachScheduled (Point input))
    (hcond : NoHoldDuringSubmission h) : HoldRespected h := by
  intro before a after heq hsub
  have hgiven := (hpoints before a after heq).given
  cases a with
  | submitToLender s =>
    obtain ⟨-, hfree, -⟩ := hgiven
    rw [← replay_opsHold, hfree]
    decide
  | submitOcenLoanRequest o =>
    obtain ⟨-, h', s, gs, r, rfl⟩ := hgiven
    have hfree := (hpoints h' (.submitToLender s) (gs.map .signalled ++
      .completed (.submitToLender s) r :: .scheduled (.submitOcenLoanRequest o) :: after)
      (by simp [heq])).given.2.1
    rw [held_at_ocen hfree]
    exact hcond h' (.scheduled (.submitOcenLoanRequest o) :: after) s gs r (by simp [heq])
  | checkDpdpConsent i => simp [submissions, Activity.stage] at hsub
  | evaluateDecision i => simp [submissions, Activity.stage] at hsub
  | fetchAaData i => simp [submissions, Activity.stage] at hsub

theorem noHoldDuringSubmission_of_respected (hpoints : h.EachScheduled (Point input))
    (hocen : ∀ i r, (.submitToLender i, r) ∈ h.results → ∃ o, .submitOcenLoanRequest o ∈ h.scheduled)
    (honce : (h.scheduled.map Activity.stage).Nodup)
    (hrespected : HoldRespected h) : NoHoldDuringSubmission h := by
  intro before after i gs r heq
  obtain ⟨o, ho⟩ := hocen i r (by simp [heq])
  obtain ⟨before', after', heq', hpoint⟩ := hpoints.of_mem ho
  obtain ⟨-, h', s, gs', r', rfl⟩ := hpoint.given
  -- `submit_to_lender` is scheduled once, so both splits are around the same activity
  have hsplit : before ++ .scheduled (.submitToLender i) ::
      (gs.map .signalled ++ .completed (.submitToLender i) r :: after) =
      h' ++ .scheduled (.submitToLender s) :: (gs'.map .signalled ++
        .completed (.submitToLender s) r' :: .scheduled (.submitOcenLoanRequest o) :: after') := by
    rw [← heq, heq']
    simp
  have hn := honce
  rw [heq] at hn
  have hstage : Activity.stage (.submitToLender i) = Activity.stage (.submitToLender s) := rfl
  obtain ⟨rfl, -, hrest⟩ := scheduled_split hn hstage hsplit
  obtain ⟨rfl, -⟩ := signalled_split hrest
  have hfree := (hpoints before (.submitToLender i) _ heq).given.2.1
  have hheld := hrespected _ (.submitOcenLoanRequest o) after' heq'
    (show Stage.submitOcenLoanRequest ∈ submissions by decide)
  rwa [held_at_ocen hfree] at hheld

/-- A run schedules no submission under a hold exactly when no hold arrives, and
stays, while `submit_to_lender` runs. -/
theorem holdRespected_iff_noHoldDuringSubmission (input : WorkflowInput) (early : List Signal)
    (events : List (Event Json Signal)) :
    HoldRespected (runWorkflow input early events).history ↔
      NoHoldDuringSubmission (runWorkflow input early events).history := by
  have hpoints := runWorkflow_points input early events
  constructor
  · exact noHoldDuringSubmission_of_respected hpoints
      (fun _ _ => runWorkflow_ocen_scheduled input early events)
      (runWorkflow_followsPipeline input early events).once
  · exact holdRespected_of_points hpoints

/-- A hold that arrives while `submit_to_lender` runs does not stop the network
submission. -/
theorem hold_during_submission_ignored : ¬ HoldRespected
    (runWorkflow (.structured sampleInput) [] (gatesPass ++
      [.signals [.opsHoldRequested "manual review"],
        .completed (.obj [("offer_received", .bool false), ("offer", .null)])])).history := by
  intro hrespected
  have hocen := hrespected _ (.submitOcenLoanRequest { loanApplicationId := "LA-1" }) [] rfl
    (show Stage.submitOcenLoanRequest ∈ submissions by decide)
  exact hocen ⟨[], "manual review", [], rfl, by simp⟩

end OcenPlatform.Origination
