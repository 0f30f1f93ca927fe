import OcenPlatform.Origination.Activities
import OcenPlatform.Origination.Trace

/-! Consent and the Account Aggregator. The workflow checks consent once, before D0;
`fetch_aa_data` calls the aggregator later, when the ledger may have changed. -/

namespace OcenPlatform.Origination

open Durable

/-- The check that the workflow schedules. -/
def consentCheck (input : LoanOriginationInput) : CheckDPDPConsentInput :=
  ⟨input.loanApplicationId, input.dataPrincipalId, requiredPurposes⟩

/-- The check of this application has returned with `allowed` True. -/
def ConsentGiven (input : LoanOriginationInput) (l : OriginationLog) : Prop :=
  ∃ r, (.checkDpdpConsent (consentCheck input), r) ∈ l.results ∧
    r.subscript "allowed" = .ok (.bool true)

/-- The AA client is called only after that. -/
def ConsentHardBlock (input : LoanOriginationInput) (l : OriginationLog) : Prop :=
  ∀ before i c y after, l = before ++ .called (.fetchAaData i) c y :: after →
    c.reachesAa = true → ConsentGiven input before

def Allows (input : LoanOriginationInput) (ledger : ConsentLedger) : Prop :=
  ledger input.dataPrincipalId requiredPurposes = true

/-- An attempt of `fetch_aa_data` that starts after `before` goes through `seg`. -/
def FetchAttempt (l before : OriginationLog) (i : FetchAADataInput) (seg : OriginationLog)
    (next : Entry WorkerProcess Activity Call Call.Reply Json ConsentLedger) : Prop :=
  ∃ w after, l = before ++ .started w (.fetchAaData i) :: (seg ++ next :: after) ∧
    ∀ w a, .started w a ∉ seg

/-- Such an attempt calls the AA client. -/
def ReachesAa (l before : OriginationLog) : Prop :=
  ∃ i seg c y, FetchAttempt l before i seg (.called (.fetchAaData i) c y) ∧ c.reachesAa = true

/-- An attempt to fetch calls the AA client only if the ledger allows the principal
when it starts; one that starts without consent can only end in a rejection. -/
structure ConsentRespected (input : LoanOriginationInput) (ledger : ConsentLedger)
    (l : OriginationLog) : Prop where
  fetched : ∀ before, ReachesAa l before → Allows input (before.envAfter ledger)
  rejected : ∀ before i seg r, FetchAttempt l before i seg (.finished (.fetchAaData i) r) →
    ¬ Allows input (before.envAfter ledger) → verdict (.fetchAaData i) r = .ok (some .aaFetch)

/-- The call of the check, with the ledger's answer. -/
def checkCall (input : LoanOriginationInput) (result : ConsentCheckResult) :
    Entry WorkerProcess Activity Call Call.Reply Json ConsentLedger :=
  .called (.checkDpdpConsent (consentCheck input))
    (.checkConsent input.dataPrincipalId requiredPurposes) (.ok result)

/-- From the ledger's answer to the consent check until an attempt starts that calls the
AA client, the last change of the ledger, if there is one, leaves the principal allowed. -/
def NotRevoked (input : LoanOriginationInput) (l : OriginationLog) : Prop :=
  ∀ before, ReachesAa l before → ∀ (front back : OriginationLog) result,
    before = front ++ checkCall input result :: back →
    ∀ ledger, back.lastChange = some ledger → Allows input ledger

/-! ## The activities -/

section Activities

variable {a : Activity} {seg : OriginationLog} {r : Json}

theorem checkDpdpConsent_consentCheck (input : LoanOriginationInput) :
    Activities.checkDpdpConsent (consentCheck input) = (do
      await .getConsentClient
      let result ← await (.checkConsent input.dataPrincipalId requiredPurposes)
      return .obj [("allowed", .bool result.allowed), ("reason", .str result.reason)]) := rfl

/-- The check returns what the ledger has answered. -/
theorem checkDpdpConsent_reaches {input : LoanOriginationInput}
    (h : Reaches a (Activities.checkDpdpConsent (consentCheck input)) seg (.done r)) :
    ∃ front result back, seg = front ++ .called a
      (.checkConsent input.dataPrincipalId requiredPurposes) (.ok result) :: back ∧
      r = .obj [("allowed", .bool result.allowed), ("reason", .str result.reason)] := by
  rw [checkDpdpConsent_consentCheck] at h
  obtain ⟨front, client, back, rfl, hback⟩ := h.ask_inv
  obtain ⟨front', result, back', rfl, hdone⟩ := hback.ask_inv
  exact ⟨front ++ .called a .getConsentClient (.ok client) :: front', result, back', by simp,
    Proc.done.inj hdone.done_inv⟩

theorem fetchAaData_noGstin {i : FetchAADataInput} (hi : i.vendorGstin = "") :
    Activities.fetchAaData i = .done Activities.noDataReceived := by
  unfold Activities.fetchAaData
  simp only [if_pos hi]
  rfl

/-- A fetch for a GSTIN that returns has created an AA consent. -/
theorem fetchAaData_reaches {i : FetchAADataInput} (hi : i.vendorGstin ≠ "")
    (h : Reaches a (Activities.fetchAaData i) seg (.done r)) :
    ∃ front c y back, seg = front ++ .called a c y :: back ∧ c.reachesAa = true := by
  unfold Activities.fetchAaData at h
  simp only [if_neg hi] at h
  obtain ⟨front, client, back, rfl, hback⟩ := Reaches.ask_inv h
  obtain ⟨front', consentId, back', rfl, -⟩ := Reaches.ask_inv hback
  exact ⟨front ++ .called a .getAaClient (.ok client) :: front',
    .createConsent i.vendorGstin "loan_origination" 12, .ok consentId, back', by simp, rfl⟩

end Activities

/-! ## The check before the fetch -/

section Check

variable {input : LoanOriginationInput} {i : FetchAADataInput} {todo : List Stage} {h : Hist}

/-- When the data is fetched, the consent check has passed. -/
theorem consent_passed (hprincipal : input.dataPrincipalId ≠ "")
    (hrun : (plan input).Running (.fetchAaData i) todo h) (hpoints : h.EachScheduled (Point input)) :
    ∃ r, (.checkDpdpConsent (consentCheck input), r) ∈ h.results ∧
      verdict (.checkDpdpConsent (consentCheck input)) r = .ok none := by
  have hsplit : stages input = h.results.map (fun p => p.1.stage) ++ .fetchAaData :: todo :=
    hrun.split
  rw [stages, if_pos hprincipal] at hsplit
  cases hresults : h.results with
  | nil => simp [hresults] at hsplit
  | cons p rest =>
    obtain ⟨a, r⟩ := p
    have hmem : (a, r) ∈ h.results := by simp [hresults]
    obtain ⟨hstage, -⟩ : Stage.checkDpdpConsent = a.stage ∧ _ := by simpa [hresults] using hsplit
    have hsched : a ∈ h.scheduled := by
      rw [hrun.closed, hresults]
      exact .head _
    obtain ⟨before, after, -, hpoint⟩ := hpoints.of_mem hsched
    have hgiven := hpoint.given
    cases a with
    | checkDpdpConsent ci =>
      obtain rfl : ci = consentCheck input := hgiven
      exact ⟨r, .head _, hrun.clean _ hmem⟩
    | evaluateDecision i => cases hstage
    | fetchAaData i => cases hstage
    | submitToLender i => cases hstage
    | submitOcenLoanRequest i => cases hstage

theorem allowed_of_verdict {ci : CheckDPDPConsentInput} {allowed : Bool} {reason : String}
    (h : verdict (.checkDpdpConsent ci)
      (.obj [("allowed", .bool allowed), ("reason", .str reason)]) = .ok none) : allowed = true := by
  cases allowed with
  | true => rfl
  | false => simp [verdict, gateOn, Json.subscript, Json.truthy] at h

end Check

section Runs

variable {input : WorkflowInput} {early : List Signal} {ledger : ConsentLedger}
  {happenings : List OriginationHappening}

/-- When an attempt starts, the stages before its activity have passed, with the results
that the log has recorded. -/
theorem attempt_running {before after : OriginationLog} {w : WorkerProcess} {a : Activity}
    (hlog : (runOrigination input early ledger happenings).log =
      before ++ .started w a :: after) :
    ∃ (todo : List Stage) (h : Hist), (plan input.resolve).Running a todo h ∧
      h.EachScheduled (Point input.resolve) ∧ h.results = before.results := by
  have hexplained := (runOrigination_coherent input early ledger happenings).explained
  obtain ⟨x, next, ⟨events, rfl⟩, hstatus, hresults⟩ := hexplained before _ after hlog
  have hcontract := runWorkflow_contract input early events
  obtain ⟨⟨todo, hrun⟩, hpoints⟩ := hcontract.pending hstatus
  exact ⟨todo, _, hrun, hpoints, hresults⟩

/-- A check that has returned has asked the ledger. -/
theorem check_finished {checked rest : OriginationLog} {r : Json}
    (hlog : (runOrigination input early ledger happenings).log =
      checked ++ .finished (.checkDpdpConsent (consentCheck input.resolve)) r :: rest) :
    ∃ (front back : OriginationLog) (result : ConsentCheckResult),
      checked = front ++ checkCall input.resolve result :: back ∧
      r = .obj [("allowed", .bool result.allowed), ("reason", .str result.reason)] ∧
      (result.allowed = true → Allows input.resolve (front.envAfter ledger)) := by
  have hexplained := (runOrigination_coherent input early ledger happenings).explained
  obtain ⟨w, start, seg, rfl, hseg⟩ := hexplained checked _ rest hlog
  obtain ⟨front, result, back, rfl, hr⟩ := checkDpdpConsent_reaches hseg
  have hsplit : start ++ .started w (.checkDpdpConsent (consentCheck input.resolve)) ::
      (front ++ checkCall input.resolve result :: back) =
      (start ++ .started w (.checkDpdpConsent (consentCheck input.resolve)) :: front) ++
        checkCall input.resolve result :: back := by simp
  refine ⟨_, back, result, hsplit, hr, fun hallowed => ?_⟩
  rw [hlog] at hexplained
  have hanswer := (hexplained.left _ _ _ hsplit).2
  simp only [origination, answers, hallowed] at hanswer
  simpa [Allows] using hanswer

/-- Before an attempt to fetch starts, the ledger has allowed the principal in the check,
and the check has returned so. -/
theorem consent_checked (hprincipal : input.resolve.dataPrincipalId ≠ "")
    {before after : OriginationLog} {w : WorkerProcess} {i : FetchAADataInput}
    (hlog : (runOrigination input early ledger happenings).log =
      before ++ .started w (.fetchAaData i) :: after) :
    ConsentGiven input.resolve before ∧ ∃ (front back : OriginationLog) (result : _),
      before = front ++ checkCall input.resolve result :: back ∧
      Allows input.resolve (front.envAfter ledger) := by
  obtain ⟨todo, h, hrun, hpoints, hresults⟩ := attempt_running hlog
  obtain ⟨r, hmem, hverdict⟩ := consent_passed hprincipal hrun hpoints
  rw [hresults] at hmem
  obtain ⟨checked, rest, rfl⟩ := Log.mem_results.mp hmem
  obtain ⟨front, back, result, rfl, rfl, hallows⟩ :=
    check_finished (hlog.trans (List.append_assoc _ _ _))
  have hallowed : result.allowed = true := allowed_of_verdict hverdict
  constructor
  · exact ⟨_, hmem, by simp [Json.subscript, hallowed]⟩
  · exact ⟨front, _, result, List.append_assoc _ _ _, hallows hallowed⟩

/-- An attempt to fetch has the application's GSTIN and principal. -/
theorem fetch_input {before after : OriginationLog} {w : WorkerProcess} {i : FetchAADataInput}
    (hlog : (runOrigination input early ledger happenings).log =
      before ++ .started w (.fetchAaData i) :: after) :
    i = ⟨input.resolve.loanApplicationId, input.resolve.vendorGstin,
      input.resolve.dataPrincipalId⟩ := by
  obtain ⟨todo, h, hrun, hpoints, -⟩ := attempt_running hlog
  have hsched : .fetchAaData i ∈ h.scheduled := by
    rw [hrun.closed]
    simp
  obtain ⟨front, back, -, hpoint⟩ := hpoints.of_mem hsched
  exact hpoint.given

end Runs

/-- With a data principal, or without a vendor GSTIN, consent is a hard block. -/
theorem runOrigination_consentHardBlock (input : WorkflowInput) (early : List Signal)
    (ledger : ConsentLedger) (happenings : List OriginationHappening)
    (hinput : input.resolve.dataPrincipalId ≠ "" ∨ input.resolve.vendorGstin = "") :
    ConsentHardBlock input.resolve (runOrigination input early ledger happenings).log := by
  intro before i c y after hlog _
  have hexplained := (runOrigination_coherent input early ledger happenings).explained
  obtain ⟨⟨w, next, start, seg, rfl, hseg⟩, -⟩ := hexplained before _ after hlog
  have hstart := hlog.trans (List.append_assoc _ _ _)
  rcases hinput with hprincipal | hgstin
  · obtain ⟨⟨r, hmem, hallowed⟩, -⟩ := consent_checked hprincipal hstart
    exact ⟨r, by simp [hmem], hallowed⟩
  · -- Without a GSTIN the attempt has returned at once.
    obtain rfl := fetch_input hstart
    have hdone : Reaches _ (Activities.fetchAaData _) seg (.call c next) := hseg
    rw [fetchAaData_noGstin hgstin] at hdone
    cases hdone.done_inv

/-- The sandbox's run up to the data: consent, D0 and one attempt to fetch. -/
def fetched : List OriginationHappening := attempt 2 ++ attempt 0 ++ attempt 6

/-- The data is fetched in it, after the check. -/
theorem runOrigination_consentHardBlock_fetched :
    (∃ i c y, .called (.fetchAaData i) c y ∈
      (runOrigination (.structured sampleInput) [] (fun _ _ => true) fetched).log ∧
      c.reachesAa = true) ∧
    ConsentHardBlock sampleInput
      (runOrigination (.structured sampleInput) [] (fun _ _ => true) fetched).log := by
  constructor
  · exact ⟨_, .fetchFinancialData "sandbox-consent-1", _,
      List.mem_of_getElem? (i := 12) rfl, rfl⟩
  · exact runOrigination_consentHardBlock (.structured sampleInput) [] (fun _ _ => true) fetched
      (.inl (by decide))

/-- An application with a vendor GSTIN and no data principal. -/
def withoutPrincipal : LoanOriginationInput where
  loanApplicationId := "LA-1"
  vendorGstin := "29ABCDE1234F1Z5"

/-- Its data is fetched although the ledger allows nobody and no check was made. -/
theorem withoutPrincipal_fetched :
    ¬ ConsentHardBlock withoutPrincipal
      (runOrigination (.structured withoutPrincipal) [] (fun _ _ => false)
        (attempt 0 ++ attempt 2)).log := by
  intro hblock
  obtain ⟨r, hmem, -⟩ := hblock
    ((runOrigination (.structured withoutPrincipal) [] (fun _ _ => false)
      (attempt 0 ++ attempt 2)).log.take 4) _ (.createConsent _ _ _) _ _ rfl rfl
  have honly : (Activity.checkDpdpConsent _, r) ∈ [(Activity.evaluateDecision
      ⟨"LA-1", "d0_kind1_gate", "d0-kind1-gate", none⟩, _)] := hmem
  simp at honly

section Revocation

variable {input : WorkflowInput} {early : List Signal} {ledger : ConsentLedger}
  {happenings : List OriginationHappening} {before : OriginationLog}

/-- Nothing has changed since the check, or the last change is what counts. -/
theorem envAfter_check (front back : OriginationLog) (result : ConsentCheckResult) :
    Log.envAfter ledger (front ++ checkCall input.resolve result :: back) =
      (Log.lastChange back).getD (Log.envAfter ledger front) := by
  rw [Log.envAfter_append, checkCall, Log.lastChange_called]

theorem allows_of_notRevoked (hprincipal : input.resolve.dataPrincipalId ≠ "")
    (hnot : NotRevoked input.resolve (runOrigination input early ledger happenings).log)
    (hreaches : ReachesAa (runOrigination input early ledger happenings).log before) :
    Allows input.resolve (before.envAfter ledger) := by
  have hattempt := hreaches
  obtain ⟨i, seg, c, y, ⟨w, after, hlog, -⟩, -⟩ := hattempt
  obtain ⟨-, front, back, result, hbefore, hallows⟩ := consent_checked hprincipal hlog
  rw [hbefore, envAfter_check]
  cases hlast : Log.lastChange back with
  | none => exact hallows
  | some ledger' => exact hnot before hreaches front back result hbefore ledger' hlast

/-- An attempt to fetch that finishes has called the AA client, or it had no GSTIN. -/
theorem fetch_finished {i : FetchAADataInput} {seg : OriginationLog} {r : Json}
    (hattempt : FetchAttempt (runOrigination input early ledger happenings).log before i seg
      (.finished (.fetchAaData i) r)) :
    ReachesAa (runOrigination input early ledger happenings).log before ∨
      verdict (.fetchAaData i) r = .ok (some .aaFetch) := by
  obtain ⟨w, after, hlog, hseg⟩ := hattempt
  have hexplained := (runOrigination_coherent input early ledger happenings).explained
  have hfinished := hexplained (before ++ .started w (.fetchAaData i) :: seg)
    (.finished (.fetchAaData i) r) after (hlog.trans (by simp))
  obtain ⟨w', start, seg', hsplit, hreaches⟩ := hfinished
  obtain ⟨rfl, rfl⟩ := started_split hseg hreaches.not_started hsplit
  have hcode : Reaches _ (Activities.fetchAaData i) seg (.done r) := hreaches
  by_cases hgstin : i.vendorGstin = ""
  · rw [fetchAaData_noGstin hgstin] at hcode
    obtain rfl := Proc.done.inj hcode.done_inv
    exact .inr (by simp [verdict, gateOn, Activities.noDataReceived, Json.subscript, Json.truthy])
  · obtain ⟨front, c, y, back, rfl, hc⟩ := fetchAaData_reaches hgstin hcode
    refine .inl ⟨i, front, c, y, ⟨w, back ++ .finished (.fetchAaData i) r :: after, ?_, ?_⟩, hc⟩
    · simpa using hlog
    · intro w a hmem
      exact hseg w a (by simp [hmem])

end Revocation

/-- In a run for a data principal, fetching respects the ledger exactly when consent is
not revoked between the check and an attempt that calls the AA client. -/
theorem consentRespected_iff_notRevoked (input : WorkflowInput) (early : List Signal)
    (ledger : ConsentLedger) (happenings : List OriginationHappening)
    (hprincipal : input.resolve.dataPrincipalId ≠ "") :
    ConsentRespected input.resolve ledger (runOrigination input early ledger happenings).log ↔
      NotRevoked input.resolve (runOrigination input early ledger happenings).log := by
  constructor
  · intro hrespected before hreaches front back result hbefore ledger' hlast
    have hallows := hrespected.fetched before hreaches
    rw [hbefore, envAfter_check, hlast] at hallows
    exact hallows
  · intro hnot
    refine ⟨fun before => allows_of_notRevoked hprincipal hnot, ?_⟩
    intro before i seg r hattempt hrevoked
    rcases fetch_finished hattempt with hreaches | hdenied
    · exact absurd (allows_of_notRevoked hprincipal hnot hreaches) hrevoked
    · exact hdenied

/-- Consent is revoked after the check and D0, just before the fetch. -/
def revokedMidFlow : List OriginationHappening :=
  attempt 2 ++ attempt 0 ++ [.envChanged fun _ _ => false] ++ attempt 6

theorem consentRespected_iff_notRevoked_revokedMidFlow :
    ConsentRespected sampleInput (fun _ _ => true)
        (runOrigination (.structured sampleInput) [] (fun _ _ => true) revokedMidFlow).log ↔
      NotRevoked sampleInput
        (runOrigination (.structured sampleInput) [] (fun _ _ => true) revokedMidFlow).log :=
  consentRespected_iff_notRevoked (.structured sampleInput) [] (fun _ _ => true) revokedMidFlow
    (by decide)

/-- The AA consent is created and the data is fetched without consent. -/
theorem revokedMidFlow_fetched :
    ¬ ConsentRespected sampleInput (fun _ _ => true)
      (runOrigination (.structured sampleInput) [] (fun _ _ => true) revokedMidFlow).log := by
  intro hrespected
  have hreaches : ReachesAa
      (runOrigination (.structured sampleInput) [] (fun _ _ => true) revokedMidFlow).log
      ((runOrigination (.structured sampleInput) [] (fun _ _ => true) revokedMidFlow).log.take 7) := by
    refine ⟨_, [.called _ .getAaClient (.ok ())], .createConsent _ _ _, _, ⟨_, _, rfl, ?_⟩, rfl⟩
    simp
  have hallows := hrespected.fetched _ hreaches
  cases hallows

end OcenPlatform.Origination
