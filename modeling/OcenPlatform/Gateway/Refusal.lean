import OcenPlatform.Gateway.Callback
import OcenPlatform.Origination.LenderResponse

/-! A lender's refusal. The callback puts the response status under the key "offer",
and a status is never empty, so the workflow takes every answer for an offer. -/

namespace OcenPlatform.Gateway

open Durable Origination

/-- The run has ended in a rejection by the lender, and not with an offer. -/
def RefusalRespected (x : Run) : Prop :=
  (∀ lenders, ¬ ReturnsOffer x lenders) ∧ ReturnsRejected x .d4LenderUnderwriting

theorem lenderResponse_carriesOffer (response : CreateLoanApplicationResponse)
    (loanApp : LoanApplication) : carriesOffer (lenderResponse response loanApp) = true := rfl

/-- After a callback's signal a run that waits at D4 returns an offer, whatever the
callback's status is. -/
theorem callback_returns_offer (response : CreateLoanApplicationResponse)
    (loanApp : LoanApplication) {input : WorkflowInput} {early batch : List Signal}
    {events : List (Event Json Signal)} (later : List (Event Json Signal))
    (hd4 : ReachedD4 input.resolve (runWorkflow input early events))
    (hwaiting : ∃ cond hours next,
      (runWorkflow input early events).status = .waiting cond hours next)
    (honly : lenderResponses batch = [lenderResponse response loanApp]) :
    ∃ lenders, ReturnsOffer (runWorkflow input early (events ++ .signals batch :: later))
      lenders := by
  obtain ⟨cond, hours, next, hx⟩ := hwaiting
  have hempty := (hd4.lenderStatus (runWorkflow_contract input early events)).responses_of_waiting hx
  -- the step delivers the batch; nothing is completed by it
  have hrun : runWorkflow input early (events ++ [.signals batch]) =
      step handlers (runWorkflow input early events) (.signals batch) :=
    run_append handlers (runMethod input) early events [.signals batch]
  have hresults := step_signals_results handlers (x := runWorkflow input early events) batch
  have hsignals := step_signals_signals handlers hx batch
  rw [← hrun] at hresults hsignals
  have hd4' : ReachedD4 input.resolve (runWorkflow input early (events ++ [.signals batch])) := by
    obtain ⟨hstages, hundenied, hno⟩ := hd4
    exact ⟨by rw [hresults]; exact hstages, by rw [hresults]; exact hundenied,
      by rw [hresults]; exact hno⟩
  have hlast : (lenderResponses (runWorkflow input early
      (events ++ [.signals batch])).history.signals).getLast? =
        some (lenderResponse response loanApp) := by
    rw [hsignals, lenderResponses_append, hempty, honly]
    rfl
  obtain ⟨lenders, hreturned⟩ :=
    (hd4'.lenderStatus (runWorkflow_contract input early _)).returned_of_last hlast
  rw [lenderDecision_offer (lenderResponse_carriesOffer response loanApp)] at hreturned
  have hlater : runWorkflow input early (events ++ .signals batch :: later) =
      runWorkflow input early (events ++ [.signals batch]) := by
    rw [← List.singleton_append, ← List.append_assoc]
    exact (run_append _ _ _ _ _).trans (foldl_step_returned handlers hreturned later)
  rw [hlater]
  exact ⟨lenders, returnsOffer_iff.mpr ⟨_, hreturned⟩⟩

/-- No refusal that a lender posts to the callback ends the run as a refusal. -/
theorem refusal_never_respected (response : CreateLoanApplicationResponse)
    (loanApp : LoanApplication) {input : WorkflowInput} {early batch : List Signal}
    {events : List (Event Json Signal)} (later : List (Event Json Signal))
    (_hrefusal : response.response.status ≠ "SUCCESS")
    (_hlisted : loanApp ∈ response.loanApplications)
    (hd4 : ReachedD4 input.resolve (runWorkflow input early events))
    (hwaiting : ∃ cond hours next,
      (runWorkflow input early events).status = .waiting cond hours next)
    (honly : lenderResponses batch = [lenderResponse response loanApp]) :
    ¬ RefusalRespected (runWorkflow input early (events ++ .signals batch :: later)) := by
  rintro ⟨hno, -⟩
  obtain ⟨lenders, hoffer⟩ := callback_returns_offer response loanApp later hd4 hwaiting honly
  exact hno lenders hoffer

/-! One refusal. -/

def sampleRefusal : CreateLoanApplicationResponse where
  metadata := {
    originatorOrgId := "lender-001"
    originatorParticipantId := "lender-001"
    traceId := "trace-2"
    requestId := "request-2" }
  response := { status := "FAILURE", responseDetail := "credit policy" }
  loanApplications := [{ loanApplicationId := "LA-1" }]

def sampleRefused : LoanApplication where
  loanApplicationId := "LA-1"

/-- The application of the sample run has been submitted and waits at D4. -/
def submitted : List (Event Json Signal) :=
  gatesPass ++ [.completed (.obj [("offer_received", .bool false), ("offer", .null)]),
    .completed (.obj [("submitted", .bool true)])]

theorem submitted_reachedD4 :
    ReachedD4 sampleInput (runWorkflow (.structured sampleInput) [] submitted) where
  stages := rfl
  undenied := by decide
  noImmediateOffer := ⟨_, _, .bool false, List.mem_of_getElem? (i := 6) rfl, rfl, rfl⟩

theorem refusal_never_respected_sample :
    ¬ RefusalRespected (runWorkflow (.structured sampleInput) []
      (submitted ++ [.signals [(lenderSignal sampleRefusal sampleRefused).signal]])) :=
  refusal_never_respected sampleRefusal sampleRefused [] (by decide) (.head _) submitted_reachedD4
    ⟨_, _, _, rfl⟩ rfl

/-- The run of a refused application ends with an offer that is the refusal. -/
theorem sampleRefusal_becomes_offer :
    (∃ cond hours next,
      (runWorkflow (.structured sampleInput) [] submitted).status = .waiting cond hours next) ∧
    (runWorkflow (.structured sampleInput) []
      (submitted ++ [.signals [(lenderSignal sampleRefusal sampleRefused).signal]])).status =
        .returned (.offerReceived
          (.obj [("status", .str "FAILURE"), ("response_detail", .str "credit policy")])
          (.arr [.str "lender-001"])) ∧
    ¬ RefusalRespected (runWorkflow (.structured sampleInput) []
      (submitted ++ [.signals [(lenderSignal sampleRefusal sampleRefused).signal]])) := by
  refine ⟨⟨_, _, _, rfl⟩, rfl, ?_⟩
  rintro ⟨hno, -⟩
  exact hno _ ⟨_, rfl, rfl, rfl⟩

end OcenPlatform.Gateway
