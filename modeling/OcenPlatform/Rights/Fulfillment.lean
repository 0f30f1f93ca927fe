import OcenPlatform.Db.ReadCommitted
import OcenPlatform.Durable.Retried
import OcenPlatform.Gateway.ConcurrentInitiate
import OcenPlatform.Gateway.ConcurrentUpdate

/-! `DSRFulfillmentWorkflow`: requests for access and erasure next to the gateway's calls, all on
one database. An activity has three attempts, and an attempt can be lost at any statement. -/

namespace OcenPlatform.Rights

open Db Db.PlatformDataSource Gateway
open Durable (Activity Retried)
open Durable.Interleaving (State Seen turn run turn_locals_self turn_locals_ne run_append run_snoc
  run_shared seen_snoc)
open Gateway.AsyncDBGatewayService (InitiateCall InitiatePhase UpdateCall UpdatePhase)

/-! ## The workflow -/

/-- `DSRWorkflowInput`, which the activities get as a `DSRInput`. -/
structure DSRInput where
  requestId : String
  dataPrincipalId : String
  rightType : String

/-- The result dicts of the activities, and of a right that is not implemented. -/
inductive RightResult where
  | access (status : String) (data : Collected)
  | erasure (status : String) (result : ErasureResult)
  | other (status reason : String)

inductive RightAttempt where
  | access (phase : CollectPhase)
  | erasure (phase : ErasePhase)
  | correction

def executeAccessRight (data : Collected) : RightResult := .access "fulfilled" data

def executeErasureRight (result : ErasureResult) : RightResult :=
  .erasure (if result.erased then "fulfilled" else "held") result

def executeCorrectionRight : RightResult :=
  .other "pending_review" "correction_requires_manual_verification"

namespace RightAttempt

def act (input : DSRInput) (now : Time) : RightAttempt → Database → RightAttempt × Database
  | .access phase, db => (.access (phase.act input.dataPrincipalId db), db)
  | .erasure phase, db =>
    let (phase, db) := EraseCall.act ⟨input.dataPrincipalId, now⟩ phase db
    (.erasure phase, db)
  | .correction, db => (.correction, db)

def outcome : RightAttempt → Option (Except String RightResult)
  | .access (.done result) => some (executeAccessRight <$> result)
  | .erasure (.done result) => some (executeErasureRight <$> result)
  | .correction => some (.ok executeCorrectionRight)
  | _ => none

end RightAttempt

/-- The activity of a right, with `maximum_attempts=3`. -/
def activity (input : DSRInput) (now : Time) (first : RightAttempt) :
    Activity RightAttempt Database RightResult where
  first
  act := RightAttempt.act input now
  outcome := RightAttempt.outcome
  maximumAttempts := 3

/-- The branches of `run`. -/
def firstAttempt? (rightType : String) : Option RightAttempt :=
  if rightType = "access" then some (.access .vendor)
  else if rightType = "erasure" then some (.erasure .hold)
  else if rightType = "correction" then some .correction
  else none

def unsupported (rightType : String) : RightResult :=
  .other "unsupported" ("right_type '" ++ rightType ++ "' not implemented")

/-! ## The parties -/

/-- A call of the gateway, a request's workflow, or an attempt that Temporal has given up and that
goes on by itself. `lost` says before which of its turns an attempt is lost. -/
inductive Party where
  | initiate (call : InitiateCall)
  | updateGate (applicationId : Uuid) (call : UpdateCall)
  | request (input : DSRInput) (now : Time) (lost : Nat → Bool)
  | givenUp (call : EraseCall)

inductive Progress where
  | initiate (phase : InitiatePhase)
  | updateGate (phase : UpdatePhase)
  | request (first : RightAttempt) (run : Retried RightAttempt RightResult)
  | answered (result : RightResult)
  | givenUp (phase : ErasePhase)

namespace Party

def start : Party → Progress
  | .initiate _ => .initiate .select
  | .updateGate _ _ => .updateGate .load
  | .request input now _ =>
    match firstAttempt? input.rightType with
    | some first => .request first (.start (activity input now first))
    | none => .answered (unsupported input.rightType)
  | .givenUp _ => .givenUp .hold

def act (driver : Driver) : Party → Progress → Database → Progress × Database
  | .initiate call, .initiate phase, db =>
    let (phase, db) := call.act phase db
    (.initiate phase, db)
  | .updateGate applicationId call, .updateGate phase, db =>
    let (phase, db) := call.act driver applicationId phase db
    (.updateGate phase, db)
  | .request input now lost, .request first progress, db =>
    let (progress, db) := Retried.act (activity input now first) lost progress db
    (.request first progress, db)
  | .givenUp call, .givenUp phase, db =>
    let (phase, db) := call.act phase db
    (.givenUp phase, db)
  | _, progress, db => (progress, db)

end Party

/-- `result` of the workflow's dict, once it has completed. -/
def Progress.result? : Progress → Option RightResult
  | .request _ progress =>
    match progress.result with
    | some (.ok result) => some result
    | _ => none
  | .answered result => some result
  | _ => none

variable {ι : Type} [DecidableEq ι]

/-- All parties begin on the database. -/
def begin (parties : ι → Party) (db : Database) : State ι Progress Database where
  locals i := (parties i).start
  shared := db

def working (driver : Driver) (parties : ι → Party) (db : Database) (schedule : List ι) :
    State ι Progress Database :=
  run (fun i => (parties i).act driver) (begin parties db) schedule

/-! ## What others do to the rows of a principal -/

section Others

variable {p : String} {driver : Driver} {db : Database}

theorem initiate_later (call : InitiateCall) (phase : InitiatePhase) :
    EraseCall.Later p db (call.act phase db).2 := by
  cases phase with
  | select =>
    simp only [InitiateCall.act]
    split <;> exact .refl p db
  | insert =>
    simp only [InitiateCall.act]
    split <;> exact .refl p db
  | commit record =>
    simp only [InitiateCall.act]
    split
    · exact .refl p db
    · rename_i table hwrite
      have hvalid := table.valid
      rw [write_ok.mp hwrite] at hvalid
      refine EraseCall.later_of_loanApplications rfl rfl ?_
      rw [write_ok.mp hwrite]
      exact .append hvalid.1
  | done result => exact .refl p db

theorem flush_same {call : UpdateCall} {loaded current record : LoanApplicationRecord}
    (h : call.flush driver loaded current = .ok record) :
    record.id = current.id ∧ record.vendorGstin = current.vendorGstin := by
  obtain ⟨gate, -, h⟩ := exists_of_bind_ok h
  obtain ⟨status, -, h⟩ := exists_of_bind_ok h
  obtain ⟨amount, -, h⟩ := exists_of_bind_ok h
  obtain ⟨lender, -, h⟩ := exists_of_bind_ok h
  obtain ⟨offer, -, h⟩ := exists_of_bind_ok h
  obtain rfl := Except.ok.inj h
  exact ⟨rfl, rfl⟩

theorem updateGate_later (applicationId : Uuid) (call : UpdateCall) (phase : UpdatePhase) :
    EraseCall.Later p db (call.act driver applicationId phase db).2 := by
  cases phase with
  | load =>
    simp only [UpdateCall.act]
    split <;> exact .refl p db
  | commit loaded =>
    simp only [UpdateCall.act]
    split
    · exact .refl p db
    rename_i current hcurrent
    split
    · exact .refl p db
    rename_i record hflush
    split
    · exact .refl p db
    rename_i table hwrite
    obtain ⟨hmem, hid⟩ := AsyncDBGatewayService.rowOf_iff.mp hcurrent
    obtain ⟨hsameId, hsameVendor⟩ := flush_same hflush
    have hcurrentOf : ∀ la ∈ db.loanApplications.rows, decide (la.id = loaded.id) = true →
        la = current := fun la hla hla' =>
      List.inj_on_of_nodup_map db.loanApplications.valid.1 hla hmem
        ((of_decide_eq_true hla').trans hid.symm)
    refine EraseCall.later_of_loanApplications rfl rfl ?_
    rw [write_ok.mp hwrite]
    refine .write db.loanApplications.valid.1 (fun la hla hla' => ?_) fun la hla hla' hp => ?_
    · rw [hcurrentOf la hla hla', hsameId]
    · rw [hcurrentOf la hla hla', ← hsameVendor]
      exact hp
  | done result => exact .refl p db

theorem RightAttempt.act_later (hp : EraseCall.NoPseudonym p) (input : DSRInput) (now : Time)
    (attempt : RightAttempt) (db : Database) :
    EraseCall.Later p db (attempt.act input now db).2 := by
  cases attempt with
  | access phase => exact .refl p db
  | erasure phase => exact EraseCall.act_later hp _ phase db
  | correction => exact .refl p db

/-- **Frame.** Every turn of any party. -/
theorem Party.act_later (hp : EraseCall.NoPseudonym p) (party : Party) (progress : Progress)
    (db : Database) : EraseCall.Later p db (party.act driver progress db).2 := by
  unfold Party.act
  split
  · exact initiate_later _ _
  · exact updateGate_later _ _ _
  · exact Retried.act_shared _ (EraseCall.Later.refl p) (RightAttempt.act_later hp _ _) _ _
  · exact EraseCall.act_later hp _ _ _
  · exact .refl p db

end Others

/-! ## What a request knows -/

section Known

variable (input : DSRInput) (now : Time) (seen : (Database → Prop) → Prop) (db : Database)

def RightAttempt.Knows : RightAttempt → Prop
  | .access phase => phase.Knows input.dataPrincipalId seen
  | .erasure phase => EraseCall.Knows ⟨input.dataPrincipalId, now⟩ seen db phase
  | .correction => True

def RightResult.Knows : RightResult → Prop
  | .access status data => status = "fulfilled" ∧
      CollectPhase.Knows input.dataPrincipalId seen (.done (.ok data))
  | .erasure status result => status = (if result.erased then "fulfilled" else "held") ∧
      EraseCall.Knows ⟨input.dataPrincipalId, now⟩ seen db (.done (.ok result))
  | .other _ _ => True

/-- What a workflow has done so far is sound. -/
def Progress.Sound : Progress → Prop
  | .request first progress => firstAttempt? input.rightType = some first ∧
      progress.Holds (RightAttempt.Knows input now seen db) (RightResult.Knows input now seen db)
  | .answered result => result = unsupported input.rightType
  | _ => True

end Known

section Steps

variable {input : DSRInput} {now : Time} {seen seen' : (Database → Prop) → Prop} {db db' : Database}
  {attempt : RightAttempt} {result : RightResult} {progress : Progress}

/-- The answer of a sound workflow. -/
theorem Progress.Sound.answer (h : progress.Sound input now seen db)
    (hresult : progress.result? = some result) : result.Knows input now seen db := by
  unfold Progress.result? at hresult
  split at hresult
  · split at hresult
    · rename_i answer hanswer
      obtain rfl := Option.some.inj hresult
      exact h.2.result _ hanswer
    · cases hresult
  · obtain rfl := Option.some.inj hresult
    obtain rfl := show _ = unsupported input.rightType from h
    trivial
  · cases hresult

theorem knows_first {rightType : String} {first : RightAttempt}
    (h : firstAttempt? rightType = some first) : first.Knows input now seen db := by
  unfold firstAttempt? at h
  split at h
  · cases h
    trivial
  split at h
  · cases h
    trivial
  split at h
  · cases h
    trivial
  · cases h

section Later

variable (hlater : EraseCall.Later input.dataPrincipalId db db')
  (hseen : ∀ P Q : Database → Prop, (∀ c, P c → Q c) → seen P → seen' Q)
include hlater hseen

theorem RightAttempt.Knows.later (h : attempt.Knows input now seen db) :
    attempt.Knows input now seen' db' := by
  cases attempt with
  | access phase => exact CollectPhase.Knows.imp h fun P => hseen P P fun _ hP => hP
  | erasure phase => exact EraseCall.Knows.later h hlater hseen
  | correction => trivial

theorem RightResult.Knows.later (h : result.Knows input now seen db) :
    result.Knows input now seen' db' := by
  cases result with
  | access status data => exact ⟨h.1, CollectPhase.Knows.imp h.2 fun P => hseen P P fun _ hP => hP⟩
  | erasure status result => exact ⟨h.1, EraseCall.Knows.later h.2 hlater hseen⟩
  | other status reason => trivial

theorem Progress.Sound.later (h : progress.Sound input now seen db) :
    progress.Sound input now seen' db' := by
  cases progress with
  | request first progress =>
    exact ⟨h.1, h.2.imp (fun _ ha => ha.later hlater hseen) fun _ hr => hr.later hlater hseen⟩
  | answered result => exact h
  | initiate phase => trivial
  | updateGate phase => trivial
  | givenUp phase => trivial

end Later

/-- A result that an attempt leaves by. -/
theorem RightAttempt.Knows.outcome (h : attempt.Knows input now seen db)
    (houtcome : attempt.outcome = some (.ok result)) : result.Knows input now seen db := by
  unfold RightAttempt.outcome at houtcome
  split at houtcome
  · rename_i answer
    cases answer with
    | error e => cases houtcome
    | ok data =>
      cases houtcome
      exact ⟨rfl, h⟩
  · rename_i answer
    cases answer with
    | error e => cases houtcome
    | ok result =>
      cases houtcome
      exact ⟨rfl, h⟩
  · cases houtcome
    trivial
  · cases houtcome

section Own

variable (hp : EraseCall.NoPseudonym input.dataPrincipalId)
  (hnow : ∀ P : Database → Prop, P db → seen' P)
  (hpast : ∀ P, seen P → ∃ c, P c ∧ EraseCall.Later input.dataPrincipalId c db)
  (hseen : ∀ P Q : Database → Prop, (∀ c, P c → EraseCall.Later input.dataPrincipalId c db → Q c) →
    seen P → seen' Q)
include hp hnow hpast hseen

theorem RightAttempt.Knows.act (h : attempt.Knows input now seen db) :
    (attempt.act input now db).1.Knows input now seen' (attempt.act input now db).2 := by
  have hsame : ∀ P, seen P → seen' P := fun P => hseen P P fun _ hP _ => hP
  cases attempt with
  | access phase => exact CollectPhase.Knows.act h hsame hnow
  | erasure phase => exact EraseCall.Knows.act h hp hsame hnow hpast hseen
  | correction => trivial

/-- **Step lemma** for a request's own turn. -/
theorem Progress.Sound.act {driver : Driver} {lost : Nat → Bool}
    (h : progress.Sound input now seen db) :
    ((Party.request input now lost).act driver progress db).1.Sound input now seen'
      ((Party.request input now lost).act driver progress db).2 := by
  cases progress with
  | request first progress =>
    refine ⟨h.1, Retried.Holds.act (fun db => RightAttempt.Knows input now seen' db)
      (fun db => RightResult.Knows input now seen' db) h.2 (knows_first h.1) ?_ ?_ ?_ ?_⟩
    · exact fun _ ha => ha.later (.refl _ _) fun P Q hPQ => hseen P Q fun c hc _ => hPQ c hc
    · exact fun _ ha _ => ha.act hp hnow hpast hseen
    · exact fun _ _ ha houtcome => (ha.outcome houtcome).later (.refl _ _)
        fun P Q hPQ => hseen P Q fun c hc _ => hPQ c hc
    · exact fun _ hr => hr.later (.refl _ _) fun P Q hPQ => hseen P Q fun c hc _ => hPQ c hc
  | answered result => exact h
  | initiate phase => trivial
  | updateGate phase => trivial
  | givenUp phase => trivial

end Own

end Steps

section Runs

variable (driver : Driver) (parties : ι → Party) (db : Database)

/-- **Run lemma.** A request's progress is sound, whatever the others do. -/
theorem working_sound {i : ι} {input : DSRInput} {now : Time} {lost : Nat → Bool}
    (hparty : parties i = .request input now lost)
    (hp : EraseCall.NoPseudonym input.dataPrincipalId) (schedule : List ι) :
    ((working driver parties db schedule).locals i).Sound input now
      (Seen (fun i => (parties i).act driver) (begin parties db) schedule i)
      (working driver parties db schedule).shared := by
  have hlater : ∀ j progress c, EraseCall.Later input.dataPrincipalId c
      ((parties j).act driver progress c).2 := fun j => Party.act_later hp (parties j)
  induction schedule using List.reverseRecOn with
  | nil =>
    change ((parties i).start).Sound _ _ _ _
    rw [hparty]
    simp only [Party.start]
    split
    · rename_i first hfirst
      exact ⟨hfirst, Retried.holds_start (knows_first hfirst)⟩
    · rfl
  | append_singleton schedule j ih =>
    unfold working at ih ⊢
    rw [run_snoc]
    by_cases hij : i = j
    · subst hij
      rw [turn_locals_self]
      change Progress.Sound input now _ ((parties i).act driver _ _).2 _
      rw [hparty]
      have hpast : ∀ P, Seen (fun i => (parties i).act driver) (begin parties db) schedule i P →
          Seen (fun i => (parties i).act driver) (begin parties db) schedule i fun c => P c ∧
            EraseCall.Later input.dataPrincipalId c
              (run (fun i => (parties i).act driver) (begin parties db) schedule).shared :=
        fun P hP => hP.past (EraseCall.Later.refl _) (fun _ _ _ => .trans) hlater
      refine ih.act hp (fun P hP => seen_snoc hP) (fun P hP => ?_) fun P Q hPQ hP => ?_
      · obtain ⟨before, after, -, hc⟩ := hpast P hP
        exact ⟨_, hc⟩
      · exact ((hpast P hP).imp fun c hc => hPQ c hc.1 hc.2).append [i]
    · rw [turn_locals_ne hij]
      exact ih.later (hlater j _ _) fun P Q hPQ hP => (hP.imp hPQ).append [j]

variable {parties db}

/-- A run goes on from where it is. -/
theorem working_later {p : String} (hp : EraseCall.NoPseudonym p) (schedule schedule' : List ι) :
    EraseCall.Later p (working driver parties db schedule).shared
      (working driver parties db (schedule ++ schedule')).shared := by
  unfold working
  rw [run_append]
  exact run_shared (EraseCall.Later.refl p) (fun _ _ _ => .trans)
    (fun j => Party.act_later hp (parties j)) schedule'

omit [DecidableEq ι] in
/-- A prefix that ends at a turn of a party which has had none before. -/
theorem prefix_of_notMem {j : ι} {schedule schedule' before after : List ι} (hj : j ∉ schedule)
    (h : schedule ++ schedule' = before ++ j :: after) : ∃ mid, before = schedule ++ mid := by
  rcases List.append_eq_append_iff.mp h with ⟨mid, hbefore, -⟩ | ⟨mid, hschedule, hmid⟩
  · exact ⟨mid, hbefore⟩
  · cases mid with
    | nil => exact ⟨[], by simpa using hschedule.symm⟩
    | cons k mid =>
      obtain ⟨rfl, -⟩ := List.cons.inj hmid
      exact absurd (hschedule ▸ List.mem_append_right _ (.head _)) hj

end Runs

/-! ## Erased for good -/

/-- None of the applications in the tables is shown, and no vendor and no consent. -/
structure ShowsNone (db : Database) (data : Collected) : Prop where
  vendor : data.vendor = none
  loanApplications : ∀ shown ∈ data.loanApplications, ∀ la ∈ db.loanApplications.rows,
    shown.id ≠ la.id.str
  consents : data.consents = []

section Cleared

variable {p : String} {db db' : Database} (h : EraseCall.Cleared p db db')
include h

theorem vendorOf_cleared : CollectPhase.vendorOf db' p = .ok none := by
  have hnone : db'.vendors.rows.filter (fun v => v.gstin = p) = [] := by
    simpa [List.filter_eq_nil_iff] using h.vendors
  rw [CollectPhase.vendorOf, hnone]
  rfl

theorem consentsOf_cleared : CollectPhase.consentsOf db' p = [] := by
  have hnone : db'.consents.rows.filter (fun c => c.dataPrincipalId = p) = [] := by
    simpa [List.filter_eq_nil_iff] using h.consents
  rw [CollectPhase.consentsOf, hnone]
  rfl

theorem loanApplicationsOf_cleared : ∀ shown ∈ CollectPhase.loanApplicationsOf db' p,
    ∀ la ∈ db.loanApplications.rows, shown.id ≠ la.id.str := by
  intro shown hshown la hla heq
  obtain ⟨la', hla', rfl⟩ := List.mem_map.mp hshown
  obtain ⟨hmem, hgstin⟩ := List.mem_filter.mp hla'
  exact h.loanApplications la' hmem (of_decide_eq_true hgstin) la hla (Uuid.str_inj.mp heq).symm

end Cleared

/-- **Erased for good.** An erasure is held only if the attempt has found a legal hold. Once it is
fulfilled, nothing that was committed at one of its turns is ever found under the id again, and a
later request for access shows none of it. -/
theorem erased_for_good (driver : Driver) (parties : ι → Party) (db : Database) (schedule : List ι)
    (i : ι) (input : DSRInput) (now : Time) (lost : Nat → Bool) (status : String)
    (result : ErasureResult) (hparty : parties i = .request input now lost)
    (hp : EraseCall.NoPseudonym input.dataPrincipalId)
    (hanswer : ((working driver parties db schedule).locals i).result? =
      some (.erasure status result)) :
    let found := Seen (fun i => (parties i).act driver) (begin parties db) schedule i
    (status = "held" ∧ found fun c => hasLegalHold c input.dataPrincipalId now = true) ∨
    (status = "fulfilled" ∧ (found fun c => hasLegalHold c input.dataPrincipalId now = false) ∧
      found fun c => ∀ schedule',
        EraseCall.Cleared input.dataPrincipalId c
          (working driver parties db (schedule ++ schedule')).shared ∧
        ∀ j input' now' lost' status' data, parties j = .request input' now' lost' →
          input'.dataPrincipalId = input.dataPrincipalId → j ∉ schedule →
          ((working driver parties db (schedule ++ schedule')).locals j).result? =
            some (.access status' data) → ShowsNone c data) := by
  intro found
  have hresult : RightResult.Knows input now found (working driver parties db schedule).shared
      (.erasure status result) :=
    (working_sound driver parties db hparty hp schedule).answer hanswer
  obtain ⟨hstatus, hknows⟩ := hresult
  cases herased : result.erased with
  | false =>
    left
    simp only [EraseCall.Knows, herased, Bool.false_eq_true, if_false] at hknows hstatus
    exact ⟨hstatus, hknows⟩
  | true =>
    right
    simp only [EraseCall.Knows, herased, if_true] at hknows hstatus
    refine ⟨hstatus, hknows.1, hknows.2.imp fun c hcleared schedule' => ?_⟩
    have hafter : ∀ schedule', EraseCall.Cleared input.dataPrincipalId c
        (working driver parties db (schedule ++ schedule')).shared := fun schedule' =>
      hcleared.later (working_later driver hp schedule schedule')
    refine ⟨hafter schedule', ?_⟩
    intro j input' now' lost' status' data hparty' hsame hnew hdata
    have hshown := (working_sound driver parties db hparty' (hsame ▸ hp) (schedule ++ schedule')).answer
      hdata
    obtain ⟨-, hvendor, hloans, hconsents⟩ := hshown
    rw [hsame] at hvendor hloans hconsents
    have hcleared' : ∀ P, Seen (fun i => (parties i).act driver) (begin parties db)
        (schedule ++ schedule') j P → ∃ d, P d ∧ EraseCall.Cleared input.dataPrincipalId c d := by
      rintro P ⟨before, after, hsplit, hP⟩
      obtain ⟨mid, rfl⟩ := prefix_of_notMem hnew hsplit
      exact ⟨_, hP, hafter mid⟩
    obtain ⟨c₁, hvendor, hcleared₁⟩ := hcleared' _ hvendor
    obtain ⟨c₂, hloans, hcleared₂⟩ := hcleared' _ hloans
    obtain ⟨c₃, hconsents, hcleared₃⟩ := hcleared' _ hconsents
    refine ⟨?_, ?_, ?_⟩
    · rw [vendorOf_cleared hcleared₁] at hvendor
      exact (Except.ok.inj hvendor).symm
    · rw [hloans]
      exact loanApplicationsOf_cleared hcleared₂
    · rw [hconsents, consentsOf_cleared hcleared₃]

/-- A vendor applies, and asks for erasure and then for access. -/
def sampleParties : Fin 3 → Party
  | 0 => .request ⟨"1", "29ABCDE1234F1Z5", "erasure"⟩ 0 fun _ => false
  | 1 => .initiate {
      request := {
        invoiceId := ⟨7⟩
        vendorGstin := "29ABCDE1234F1Z5"
        anchorGstin := "27AAACT2727Q1ZW"
        amountRequested := 100000 }
      appId := ⟨9⟩
      now := 0 }
  | 2 => .request ⟨"2", "29ABCDE1234F1Z5", "access"⟩ 0 fun _ => false

/-- The application is committed after the erasure has updated the others. -/
def lateApplication : List (Fin 3) := [0, 0, 0, 1, 1, 1, 0, 0, 0]

/-- Access shows the late one, and only that. -/
theorem erased_for_good_late : ∃ c data,
    ((working sampleDriver sampleParties sampleDatabase (lateApplication ++ [2, 2, 2, 2])).locals
      2).result? = some (.access "fulfilled" data) ∧
    data.loanApplications.length = 1 ∧ ShowsNone c data := by
  have herasure : (((working sampleDriver sampleParties sampleDatabase lateApplication).locals
      0).result?.any fun
        | .erasure status _ => status = "fulfilled"
        | _ => false) = true := by decide +kernel
  have haccess : (((working sampleDriver sampleParties sampleDatabase
      (lateApplication ++ [2, 2, 2, 2])).locals 2).result?.any fun
        | .access status data => status = "fulfilled" && data.loanApplications.length = 1
        | _ => false) = true := by decide +kernel
  obtain ⟨erasure, hanswer, hfulfilled⟩ := (Option.any_eq_true _ _).mp herasure
  obtain ⟨access, hdata, hlength⟩ := (Option.any_eq_true _ _).mp haccess
  cases erasure with
  | access status data => cases hfulfilled
  | other status reason => cases hfulfilled
  | erasure status result =>
    cases access with
    | erasure status result => cases hlength
    | other status reason => cases hlength
    | access status' data =>
      obtain ⟨rfl, hone⟩ : status' = "fulfilled" ∧ data.loanApplications.length = 1 := by
        simpa using hlength
      have hp : EraseCall.NoPseudonym "29ABCDE1234F1Z5" :=
        EraseCall.noPseudonym_of_head (by decide)
      have hanswered := erased_for_good sampleDriver sampleParties sampleDatabase lateApplication 0
        ⟨"1", "29ABCDE1234F1Z5", "erasure"⟩ 0 (fun _ => false) status result rfl hp hanswer
      rcases hanswered with ⟨hheld, -⟩ | ⟨-, -, before, after, -, hgone⟩
      · rw [hheld] at hfulfilled
        cases hfulfilled
      · exact ⟨_, data, hdata, hone, (hgone [2, 2, 2, 2]).2 2 _ _ _ _ data rfl rfl (by decide) hdata⟩

end OcenPlatform.Rights
