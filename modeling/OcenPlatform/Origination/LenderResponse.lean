import OcenPlatform.Origination.Trace

/-! Lender responses. All lenders of an application share one slot, so a run that
reaches D4 decides on the last response that was delivered. -/

namespace OcenPlatform.Origination

open Durable

def Signal.response? : Signal → Option Dict
  | .lenderResponseReceived response => some response
  | _ => none

/-- The lender responses among the signals, in order of delivery. -/
def lenderResponses (gs : List Signal) : List Dict := gs.filterMap Signal.response?

theorem lenderResponses_append (gs gs' : List Signal) :
    lenderResponses (gs ++ gs') = lenderResponses gs ++ lenderResponses gs' :=
  List.filterMap_append

/-- Every stage has completed and `submit_to_lender` brought no immediate offer. -/
structure ReachedD4 (input : LoanOriginationInput) (x : Run) : Prop where
  stages : x.history.results.map (fun p => p.1.stage) = stages input
  undenied : ∀ p ∈ x.history.results, verdict p.1 p.2 = .ok none
  noImmediateOffer : ∃ i r v, (.submitToLender i, r) ∈ x.history.results ∧
    r.get "offer_received" .null = .ok v ∧ v.truthy = false

/-- If a response carries an offer, then such an offer is what the run returns. -/
def OfferKept (x : Run) : Prop :=
  (∃ response ∈ lenderResponses x.history.signals, carriesOffer response = true) →
    ∃ response ∈ lenderResponses x.history.signals, carriesOffer response = true ∧
      ∃ lenders, x.status = .returned (.offerReceived (PyDict.get response "offer" .null) lenders)

/-- If a response carries an offer, then the last one does. -/
def LastCarriesOffer (gs : List Signal) : Prop :=
  (∃ response ∈ lenderResponses gs, carriesOffer response = true) →
    ∃ response, (lenderResponses gs).getLast? = some response ∧ carriesOffer response = true

/-! ## The slot holds the last response -/

theorem foldl_lenderResponse (gs : List Signal) (w : LoanOriginationWorkflow) :
    (gs.foldl LoanOriginationWorkflow.handle w).lenderResponse =
      (lenderResponses gs).getLast?.or w.lenderResponse := by
  induction gs generalizing w with
  | nil => rfl
  | cons g gs ih =>
    rw [List.foldl_cons, ih]
    cases g with
    | lenderResponseReceived response =>
      have hcons : lenderResponses (.lenderResponseReceived response :: gs) =
          response :: lenderResponses gs := rfl
      rw [hcons, List.getLast?_cons]
      cases (lenderResponses gs).getLast? <;> rfl
    | opsHoldRequested reason => rfl
    | opsHoldReleased => rfl

theorem replay_lenderResponse (h : Hist) :
    (replay handlers h).lenderResponse = (lenderResponses h.signals).getLast? := by
  have hfold := foldl_lenderResponse h.signals {}
  simpa [replay, handlers] using hfold

/-! ## What a run that reached D4 returns -/

variable {input : LoanOriginationInput} {x : Run}

theorem ReachedD4.not_running (hd : ReachedD4 input x) {a : Activity} {todo : List Stage}
    {h : Hist} (hr : (plan input).Running a todo h) (hx : x.history.results = h.results) :
    False := by
  have hsplit := hr.split
  have hstages := hd.stages
  rw [hx] at hstages
  simp only [plan] at hsplit
  rw [← hstages] at hsplit
  simp at hsplit

theorem ReachedD4.todo (hd : ReachedD4 input x) {todo : List Stage} {h : Hist}
    (hp : (plan input).Passed todo h) (hx : x.history.results = h.results) : todo = [] := by
  have hsplit := hp.split
  have hstages := hd.stages
  rw [hx] at hstages
  simp only [plan] at hsplit
  rw [← hstages] at hsplit
  simpa using hsplit

theorem ReachedD4.atD4 (hd : ReachedD4 input x) (hc : Checkpoint input [] x.history) :
    ∃ lenders, AtD4 input lenders x.history := by
  obtain ⟨i, r, v, hmem, hv⟩ := hd.noImmediateOffer
  exact ⟨i.lenderIds, hc, i, r, v, hmem, rfl, hv⟩

theorem ReachedD4.not_halted (hd : ReachedD4 input x) {a : Activity} {r : Json}
    (hh : (plan input).Halted a r x.history) : verdict a r = .ok none := by
  obtain ⟨before, hresults, -⟩ := hh.last
  exact hd.undenied (a, r) (by simp [hresults])

theorem ReachedD4.not_broken (hd : ReachedD4 input x) (hb : Broken input x.history) : False := by
  revert hb
  generalize hh : x.history = h
  intro hb
  cases hb with
  | unreadable hu _ =>
    obtain ⟨r, e, hhalted, hverdict⟩ := hu
    cases hverdict.symm.trans (hd.not_halted (hh ▸ hhalted))
  | unreadableOffer hc hnot =>
    obtain ⟨lenders, hat⟩ := hd.atD4 (hh ▸ hc)
    exact hnot lenders (hh ▸ hat)
  | failed hrun _ => exact hd.not_running hrun (by simp [hh])

/-- A run that reached D4 is undecided while no lender has responded, and returns
what the last response decides as soon as one has. -/
inductive LenderStatus : List Dict → Status LoanOriginationWorkflow Activity Json RunResult → Prop
  | waiting {cond hours next} : LenderStatus [] (.waiting cond hours next)
  | timeout {reason} : LenderStatus [] (.returned (.rejected .d4LenderUnderwriting reason))
  | decided {responses response lenders} : responses.getLast? = some response →
      LenderStatus responses (.returned (lenderDecision (some response) lenders))

theorem LenderStatus.responses_of_waiting {responses : List Dict}
    {status : Status LoanOriginationWorkflow Activity Json RunResult} {cond hours next}
    (hs : LenderStatus responses status) (hw : status = .waiting cond hours next) :
    responses = [] := by
  cases hs with
  | waiting => rfl
  | timeout => cases hw
  | decided hlast => cases hw

theorem LenderStatus.returned_of_last {responses : List Dict} {response : Dict}
    {status : Status LoanOriginationWorkflow Activity Json RunResult}
    (hs : LenderStatus responses status) (hlast : responses.getLast? = some response) :
    ∃ lenders, status = .returned (lenderDecision (some response) lenders) := by
  cases hs with
  | waiting => cases hlast
  | timeout => cases hlast
  | @decided _ response' lenders hlast' =>
    obtain rfl : response' = response := Option.some.inj (hlast'.symm.trans hlast)
    exact ⟨lenders, rfl⟩

theorem ReachedD4.lenderStatus_of_outcome (hd : ReachedD4 input x) {out : RunResult}
    (ho : Outcome input out x.history) :
    LenderStatus (lenderResponses x.history.signals) (.returned out) := by
  revert ho
  generalize hh : x.history = h
  intro ho
  cases ho with
  | denied hdenied _ =>
    obtain ⟨r, hhalted, hverdict⟩ := hdenied
    cases hverdict.symm.trans (hd.not_halted (hh ▸ hhalted))
  | holdExpired hc _ => exact absurd (hd.todo hc.passed (by simp [hh])) (by decide)
  | @immediate i r v offer _ hc hmem hreceived hv hoffer =>
    obtain ⟨lenders, hat⟩ := hd.atD4 (hh ▸ hc)
    obtain ⟨v', hv', hfalse⟩ := hat.offerReceived (hh ▸ hmem)
    obtain rfl : v = v' := Except.ok.inj (hreceived.symm.trans hv')
    rw [hv] at hfalse
    cases hfalse
  | decided _ hresponse =>
    rw [replay_lenderResponse] at hresponse
    exact .decided hresponse
  | responseTimeout _ hnone =>
    rw [replay_lenderResponse, List.getLast?_eq_none_iff] at hnone
    simp only [History.signals_append, History.signals_cons, Obs.signal?, Option.toList_none,
      History.signals_nil, List.append_nil]
    rw [hnone]
    exact .timeout

theorem ReachedD4.lenderStatus (hd : ReachedD4 input x) (hcontract : (contract input).Holds x) :
    LenderStatus (lenderResponses x.history.signals) x.status := by
  unfold Contract.Holds at hcontract
  split at hcontract
  next a next hx =>
    obtain ⟨⟨todo, hrun⟩, -⟩ := hcontract
    exact (hd.not_running hrun rfl).elim
  next cond hours next hx =>
    cases hcontract with
    | hold hc _ => exact absurd (hd.todo hc.passed rfl) (by decide)
    | lender _ hnone =>
      rw [replay_lenderResponse, List.getLast?_eq_none_iff] at hnone
      rw [hnone, hx]
      exact .waiting
  next out hx =>
    rw [hx]
    exact hd.lenderStatus_of_outcome hcontract
  next a hx => exact (hd.not_broken hcontract).elim
  next error hx => exact (hd.not_broken hcontract).elim

/-- No lender's offer is lost in a run that reached D4 exactly when no decline is
the last response after an offer. -/
theorem offerKept_iff_lastCarriesOffer (input : WorkflowInput) (early : List Signal)
    (events : List (Event Json Signal))
    (hd : ReachedD4 input.resolve (runWorkflow input early events)) :
    OfferKept (runWorkflow input early events) ↔
      LastCarriesOffer (runWorkflow input early events).history.signals := by
  have hstatus := hd.lenderStatus (runWorkflow_contract input early events)
  unfold OfferKept LastCarriesOffer
  revert hstatus
  generalize (runWorkflow input early events).status = status
  generalize lenderResponses (runWorkflow input early events).history.signals = responses
  intro hstatus
  cases hstatus with
  | waiting => simp
  | timeout => simp
  | @decided _ response lenders hlast =>
    have hmem := List.mem_of_getLast? hlast
    cases hoffer : carriesOffer response with
    | true =>
      rw [lenderDecision_offer hoffer, hlast]
      constructor
      · intro _ _
        exact ⟨response, rfl, hoffer⟩
      · intro _ _
        exact ⟨response, hmem, hoffer, lenders, rfl⟩
    | false =>
      rw [lenderDecision_decline hoffer, hlast]
      constructor
      · intro hkept hex
        obtain ⟨_, _, _, _, hreturned⟩ := hkept hex
        cases hreturned
      · intro hlastOffer hex
        obtain ⟨last, heq, hcarries⟩ := hlastOffer hex
        obtain rfl := Option.some.inj heq
        rw [hoffer] at hcarries
        cases hcarries

/-- Two lenders respond while the network submission runs: an offer, then a decline. -/
def offerThenDecline : List (Event Json Signal) :=
  gatesPass ++
    [.completed (.obj [("offer_received", .bool false), ("offer", .null)]),
      .signals [.lenderResponseReceived [("offer", .obj [("amount", .num 100000)])]],
      .signals [.lenderResponseReceived [("reason", .str "out of policy")]],
      .completed (.obj [("submitted", .bool true)])]

theorem offerThenDecline_reachedD4 :
    ReachedD4 sampleInput (runWorkflow (.structured sampleInput) [] offerThenDecline) where
  stages := rfl
  undenied := by decide
  noImmediateOffer := ⟨_, _, .bool false, by
    refine List.mem_of_getElem? (i := 6) ?_
    rfl, rfl, rfl⟩

theorem offerKept_iff_lastCarriesOffer_offerThenDecline :
    OfferKept (runWorkflow (.structured sampleInput) [] offerThenDecline) ↔
      LastCarriesOffer (runWorkflow (.structured sampleInput) [] offerThenDecline).history.signals :=
  offerKept_iff_lastCarriesOffer (.structured sampleInput) [] offerThenDecline
    offerThenDecline_reachedD4

/-- The decline overwrites the offer, and the run ends in a rejection. -/
theorem offerThenDecline_offer_lost :
    ReachedD4 sampleInput (runWorkflow (.structured sampleInput) [] offerThenDecline) ∧
      ¬ OfferKept (runWorkflow (.structured sampleInput) [] offerThenDecline) := by
  refine ⟨offerThenDecline_reachedD4, fun hkept => ?_⟩
  obtain ⟨_, _, _, lenders, hreturned⟩ := hkept
    ⟨[("offer", .obj [("amount", .num 100000)])], .head _, rfl⟩
  cases hreturned

end OcenPlatform.Origination
