import OcenPlatform.Db.RetentionOrder
import OcenPlatform.Durable.Retried
import OcenPlatform.Gateway.Cutover

/-! `RetentionEnforcementWorkflow`: one pass over the retention policies, a handler's transaction
for each, in up to three attempts. Other transactions commit and time passes in between. -/

namespace OcenPlatform.Gateway

open Db
open Durable (Activity Retried)

/-! ## The activity -/

/-- An entry of `retention` in the configuration. -/
structure RetentionPolicy where
  dataCategory : String
  retentionDays : Int

/-- An entry of `results`. -/
structure RetentionResult where
  category : String
  action : String
  recordsAffected : Nat
  deriving DecidableEq

/-- `get_retention_handler(category)`, with its `enforce`. -/
def getRetentionHandler (category : String) :
    Option (Database → Int → Time → Except String (Nat × Database)) :=
  if category = "loan_application" then some LoanApplicationRetentionHandler.enforce
  else if category = "vendor_contact" then some VendorContactRetentionHandler.enforce
  else none

/-- An attempt of `enforce_retention`, between two policies. -/
structure EnforceAttempt where
  todo : List RetentionPolicy
  results : List RetentionResult := []
  failed : Option String := none

namespace EnforceAttempt

/-- The loop's body. -/
def act (dryRun : Bool) (now : Time) (s : EnforceAttempt) (db : Database) :
    EnforceAttempt × Database :=
  match s.todo with
  | [] => (s, db)
  | policy :: todo =>
    if dryRun then
      ({ s with todo, results := s.results ++ [⟨policy.dataCategory, "dry_run", 0⟩] }, db)
    else
      match getRetentionHandler policy.dataCategory with
      | none => ({ s with todo, results := s.results ++ [⟨policy.dataCategory, "no_handler", 0⟩] }, db)
      | some enforce =>
        match enforce db policy.retentionDays now with
        | .ok (count, db) =>
          ({ s with todo, results := s.results ++ [⟨policy.dataCategory, "enforced", count⟩] }, db)
        | .error e => ({ s with failed := some e }, db)

def outcome (s : EnforceAttempt) : Option (Except String (List RetentionResult)) :=
  match s.failed, s.todo with
  | some e, _ => some (.error e)
  | none, [] => some (.ok s.results)
  | none, _ :: _ => none

end EnforceAttempt

/-- With `maximum_attempts=3`. -/
def enforceRetention (policies : List RetentionPolicy) (dryRun : Bool) (now : Time) :
    Activity EnforceAttempt Database (List RetentionResult) where
  first := { todo := policies }
  act := EnforceAttempt.act dryRun now
  outcome := EnforceAttempt.outcome
  maximumAttempts := 3

/-! ## Runs -/

/-- A turn of the activity, a while, or another transaction. -/
inductive RetentionEvent where
  | turn
  | tick (duration : Nat)
  | op (op : ApplicationOp)

def ApplicationOp.time : ApplicationOp → Time
  | .initiateApplication _ _ now | .updateGate _ _ _ _ _ now | .erase _ now
  | .enforceLoanApplications _ now | .enforceVendors _ now => now

structure RetentionRun where
  workflow : Retried EnforceAttempt (List RetentionResult)
  db : Database
  now : Time

/-- A deployment: the policies, the workflow's input and the attempts that are lost. -/
structure RetentionSetup where
  driver : Driver
  policies : List RetentionPolicy
  dryRun : Bool := false
  lost : Nat → Bool := fun _ => false

namespace RetentionSetup

variable (d : RetentionSetup)

def step (s : RetentionRun) : RetentionEvent → RetentionRun
  | .turn =>
    let (workflow, db) := Retried.act (enforceRetention d.policies d.dryRun s.now) d.lost s.workflow s.db
    { s with workflow, db }
  | .tick duration => { s with now := s.now + duration }
  | .op op => { s with db := applied d.driver s.db op }

def start (db : Database) (now : Time) : RetentionRun where
  workflow := .start (enforceRetention d.policies d.dryRun now)
  db := db
  now := now

def run (db : Database) (now : Time) (events : List RetentionEvent) : RetentionRun :=
  events.foldl d.step (d.start db now)

end RetentionSetup

/-! ## What is overdue -/

/-- Every closed application that was not written since the cutoff has a pseudonym. -/
def NoneOverdue (cutoff : Time) (db : Database) : Prop :=
  ∀ la ∈ db.loanApplications.rows, LoanApplicationRetentionHandler.selects cutoff la = false

/-- The vendor has had an active loan. -/
def Busy (seen : Database → Prop) (v : VendorRecord) : Prop :=
  ∃ db, seen db ∧ VendorContactRetentionHandler.hasActiveLoan db.loanApplications.rows v.gstin = true

/-- Every other vendor that was onboarded before the cutoff has a pseudonym. -/
def OnlyBusy (seen : Database → Prop) (cutoff : Time) (db : Database) : Prop :=
  ∀ v ∈ db.vendors.rows, VendorContactRetentionHandler.selects cutoff v = true → Busy seen v

section Overdue

variable {driver : Driver} {db db' : Database} {cutoff now : Time} {seen seen' : Database → Prop}
  {retentionDays : Int} {count : Nat}

/-- What holds before a call and after it, if it commits. -/
theorem committed_inv {α : Type} {P : Database → Prop} {call : Except String (α × Database)}
    (h : P db) (hcall : ∀ result db', call = .ok (result, db') → P db') : P (committed db call) := by
  cases call with
  | error e => exact h
  | ok result => exact hcall result.1 result.2 rfl

theorem not_overdue_of_pseudonym {la : LoanApplicationRecord}
    (h : isPseudonymized la.vendorGstin = true) :
    LoanApplicationRetentionHandler.selects cutoff la = false := by
  simp [LoanApplicationRetentionHandler.selects, h]

/-- An update that gives pseudonyms makes nothing overdue. -/
theorem NoneOverdue.updateWhere (h : NoneOverdue cutoff db) {p : LoanApplicationRecord → Bool}
    {f : LoanApplicationRecord → LoanApplicationRecord}
    (hrows : db'.loanApplications.rows = updateWhere p f db.loanApplications.rows)
    (hf : ∀ la, p la = true → LoanApplicationRetentionHandler.selects cutoff la = false →
      LoanApplicationRetentionHandler.selects cutoff (f la) = false) : NoneOverdue cutoff db' := by
  intro la hla
  rw [hrows] at hla
  rcases mem_updateWhere.mp hla with ⟨la₀, hla₀, ⟨hp, rfl⟩ | ⟨-, rfl⟩⟩
  · exact hf la₀ hp (h la₀ hla₀)
  · exact h la hla₀

theorem NoneOverdue.congr (h : NoneOverdue cutoff db)
    (hloans : db'.loanApplications = db.loanApplications) : NoneOverdue cutoff db' := by
  intro la hla
  rw [hloans] at hla
  exact h la hla

/-- A row that is written from now on is not overdue for a long time. -/
theorem NoneOverdue.updateGate (h : NoneOverdue cutoff db) {applicationId : Uuid}
    {gate status : String} {extra : Extra} {changed : Bool} (hle : cutoff ≤ now)
    (hcall : AsyncDBGatewayService.updateGate driver db applicationId gate status extra changed now =
      .ok db') : NoneOverdue cutoff db' := by
  obtain ⟨record, record', hrow, hupdate, hrows⟩ := AsyncDBGatewayService.updateGate_ok hcall
  obtain ⟨hmem, -⟩ := AsyncDBGatewayService.rowOf_iff.mp hrow
  obtain ⟨-, hvendor, hstored, htime⟩ := AsyncDBGatewayService.updateRecord_ok hupdate
  refine h.updateWhere hrows fun la _ _ => ?_
  by_contra hselects
  rw [Bool.not_eq_false] at hselects
  simp only [LoanApplicationRetentionHandler.selects, Bool.and_eq_true, decide_eq_true_eq,
    Bool.not_eq_true'] at hselects
  obtain ⟨⟨hclosed, hold⟩, hplain⟩ := hselects
  rcases htime with htime | ⟨htime, hsame⟩
  · exact Int.not_lt.mpr hle (htime ▸ hold)
  · have hstatus := varchar_short hstored (by rw [hclosed]; decide)
    have hbefore := h record hmem
    rw [hvendor] at hplain
    simp [LoanApplicationRetentionHandler.selects, ← hsame, ← hstatus, hclosed, ← htime, hold,
      hplain] at hbefore

/-- **Step lemma.** Other transactions, of now or later, make nothing overdue. -/
theorem NoneOverdue.applied (h : NoneOverdue cutoff db) (op : ApplicationOp)
    (hle : cutoff ≤ op.time) : NoneOverdue cutoff (applied driver db op) := by
  cases op with
  | initiateApplication request appId now =>
    refine committed_inv h fun response db' hcall => ?_
    rcases AsyncDBGatewayService.initiateApplication_ok hcall with rfl | ⟨record, hrecord, hrows⟩
    · exact h
    · intro la hla
      rw [hrows, List.mem_append, List.mem_singleton] at hla
      rcases hla with hla | rfl
      · exact h la hla
      · have hstatus := (AsyncDBGatewayService.newRecord_ok hrecord).1
        simp [LoanApplicationRetentionHandler.selects, hstatus]
  | updateGate applicationId gate status extra changed now =>
    refine committed_inv h fun _ db' hcall => ?_
    cases hupdate : AsyncDBGatewayService.updateGate driver db applicationId gate status extra changed
        now with
    | error e =>
      rw [hupdate] at hcall
      cases hcall
    | ok db' =>
      rw [hupdate] at hcall
      cases hcall
      exact h.updateGate hle hupdate
  | erase dataPrincipalId now =>
    refine committed_inv h fun result db' hcall => ?_
    rcases PlatformDataSource.erase_ok_iff.mp hcall with ⟨-, -, rfl⟩ | ⟨-, -, herased⟩
    · exact h
    · exact h.updateWhere herased.loanApplications fun la _ _ =>
        not_overdue_of_pseudonym (isPseudonymized_vendorPseudonym _)
  | enforceLoanApplications retentionDays now =>
    refine committed_inv h fun count db' hcall => ?_
    exact h.updateWhere (LoanApplicationRetentionHandler.enforce_loanApplications hcall).2
      fun la _ _ => not_overdue_of_pseudonym (isPseudonymized_vendorPseudonym _)
  | enforceVendors retentionDays now =>
    refine committed_inv h fun count db' hcall => h.congr ?_
    rw [(VendorContactRetentionHandler.enforce_vendors hcall).1]

theorem OnlyBusy.imp (h : OnlyBusy seen cutoff db) (hseen : ∀ c, seen c → seen' c) :
    OnlyBusy seen' cutoff db := by
  intro v hv hselects
  obtain ⟨c, hc, hactive⟩ := h v hv hselects
  exact ⟨c, hseen c hc, hactive⟩

theorem OnlyBusy.congr (h : OnlyBusy seen cutoff db) (hvendors : db'.vendors = db.vendors) :
    OnlyBusy seen cutoff db' := by
  intro v hv
  rw [hvendors] at hv
  exact h v hv

/-- An update that gives pseudonyms. -/
theorem OnlyBusy.updateWhere (h : OnlyBusy seen cutoff db) {p : VendorRecord → Bool}
    {value : VendorRecord → String}
    (hrows : db'.vendors.rows = updateWhere p (fun v => v.pseudonymize (value v)) db.vendors.rows) :
    OnlyBusy seen cutoff db' := by
  intro v hv hselects
  rw [hrows] at hv
  rcases mem_updateWhere.mp hv with ⟨v₀, hv₀, ⟨-, rfl⟩ | ⟨-, rfl⟩⟩
  · simp [VendorContactRetentionHandler.selects, VendorRecord.pseudonymize,
      isPseudonymized_vendorPseudonym] at hselects
  · exact h v hv₀ hselects

/-- **Step lemma.** -/
theorem OnlyBusy.applied (h : OnlyBusy seen cutoff db) (op : ApplicationOp) :
    OnlyBusy seen cutoff (applied driver db op) := by
  cases op with
  | initiateApplication request appId now =>
    rcases initiateApplication_cases db request appId now with
      ⟨-, record, table, -, -, hcall⟩ | ⟨-, hcall⟩
    · rw [Gateway.applied, hcall]
      exact h.congr rfl
    · rw [Gateway.applied, hcall]
      exact h
  | updateGate applicationId gate status extra changed now =>
    refine committed_inv h fun _ db' hcall => ?_
    cases hupdate : AsyncDBGatewayService.updateGate driver db applicationId gate status extra changed
        now with
    | error e =>
      rw [hupdate] at hcall
      cases hcall
    | ok db' =>
      rw [hupdate] at hcall
      cases hcall
      exact h.congr (AsyncDBGatewayService.updateGate_vendors hupdate)
  | erase dataPrincipalId now =>
    refine committed_inv h fun result db' hcall => ?_
    rcases PlatformDataSource.erase_ok_iff.mp hcall with ⟨-, -, rfl⟩ | ⟨-, -, herased⟩
    · exact h
    · exact h.updateWhere herased.vendors
  | enforceLoanApplications retentionDays now =>
    refine committed_inv h fun count db' hcall => h.congr ?_
    rw [(LoanApplicationRetentionHandler.enforce_loanApplications hcall).1]
  | enforceVendors retentionDays now =>
    refine committed_inv h fun count db' hcall => ?_
    exact h.updateWhere (VendorContactRetentionHandler.enforce_vendors hcall).2

/-! ### The handlers -/

/-- What the loan handler selects at an earlier cutoff it selects at a later one. -/
theorem noneOverdue_enforce {cutoff : Time} (hle : cutoff ≤ now - days retentionDays)
    (h : LoanApplicationRetentionHandler.enforce db retentionDays now = .ok (count, db')) :
    NoneOverdue cutoff db' := by
  intro la hla
  rw [(LoanApplicationRetentionHandler.enforce_loanApplications h).2] at hla
  rcases mem_updateWhere.mp hla with ⟨la₀, -, ⟨-, rfl⟩ | ⟨hleft, rfl⟩⟩
  · exact not_overdue_of_pseudonym (isPseudonymized_vendorPseudonym _)
  · by_contra hselects
    rw [Bool.not_eq_false] at hselects
    simp only [LoanApplicationRetentionHandler.selects, Bool.and_eq_true, decide_eq_true_eq] at hselects
    have hlt : la.updatedAt < now - days retentionDays := Int.lt_of_lt_of_le hselects.1.2 hle
    simp [LoanApplicationRetentionHandler.selects, hselects, hlt] at hleft

/-- The vendor handler leaves out only vendors with an active loan. -/
theorem onlyBusy_enforce {cutoff : Time} (hle : cutoff ≤ now - days retentionDays) (hseen : seen db)
    (h : VendorContactRetentionHandler.enforce db retentionDays now = .ok (count, db')) :
    OnlyBusy seen cutoff db' := by
  intro v hv hselects
  rw [(VendorContactRetentionHandler.enforce_vendors h).2] at hv
  rcases mem_updateWhere.mp hv with ⟨v₀, -, ⟨-, rfl⟩ | ⟨hleft, rfl⟩⟩
  · simp [VendorContactRetentionHandler.selects, VendorRecord.pseudonymize,
      isPseudonymized_vendorPseudonym] at hselects
  · simp only [VendorContactRetentionHandler.selects, Bool.and_eq_true, decide_eq_true_eq] at hselects
    have hlt : v.onboardedAt < now - days retentionDays := Int.lt_of_lt_of_le hselects.1 hle
    refine ⟨db, hseen, ?_⟩
    simpa [VendorContactRetentionHandler.rewrites, VendorContactRetentionHandler.selects, hlt,
      hselects.2] using hleft

end Overdue

/-! ## The invariant -/

/-- What an enforced policy has brought about, if its period is counted back from `now`. -/
def Enforced (seen : Database → Prop) (now : Time) (db : Database) (policy : RetentionPolicy) : Prop :=
  (policy.dataCategory = "loan_application" → NoneOverdue (now - days policy.retentionDays) db) ∧
  (policy.dataCategory = "vendor_contact" → OnlyBusy seen (now - days policy.retentionDays) db)

/-- What the results say. -/
structure Accounted (seen : Database → Prop) (now : Time) (db : Database)
    (policies : List RetentionPolicy) (results : List RetentionResult) : Prop where
  categories : results.map RetentionResult.category = policies.map RetentionPolicy.dataCategory
  enforced : ∀ policy ∈ policies, Enforced seen now db policy

/-- The policies before those that are to be done are accounted for. -/
def EnforceAttempt.Knows (policies : List RetentionPolicy) (seen : Database → Prop) (now : Time)
    (db : Database) (s : EnforceAttempt) : Prop :=
  ∃ handled, policies = handled ++ s.todo ∧ Accounted seen now db handled s.results

section Attempts

variable {policies : List RetentionPolicy} {seen seen' : Database → Prop} {now later : Time}
  {db db' : Database} {policy : RetentionPolicy} {results : List RetentionResult} {s : EnforceAttempt}

theorem Enforced.imp (h : Enforced seen now db policy) (hseen : ∀ c, seen c → seen' c) :
    Enforced seen' now db policy :=
  ⟨h.1, fun hcategory => (h.2 hcategory).imp hseen⟩

/-- A handler that runs now or later enforces its policy and undoes no other. -/
theorem Enforced.handler (h : Enforced seen now db policy) {category : String} {retentionDays : Int}
    {enforce : Database → Int → Time → Except String (Nat × Database)} {count : Nat}
    (hhandler : getRetentionHandler category = some enforce)
    (hcall : enforce db retentionDays later = .ok (count, db')) : Enforced seen now db' policy := by
  unfold getRetentionHandler at hhandler
  split at hhandler
  · cases hhandler
    obtain ⟨hdb, hrows⟩ := LoanApplicationRetentionHandler.enforce_loanApplications hcall
    refine ⟨fun hcategory => ?_, fun hcategory => (h.2 hcategory).congr (by rw [hdb])⟩
    exact (h.1 hcategory).updateWhere hrows fun la _ _ =>
      not_overdue_of_pseudonym (isPseudonymized_vendorPseudonym _)
  split at hhandler
  · cases hhandler
    obtain ⟨hdb, hrows⟩ := VendorContactRetentionHandler.enforce_vendors hcall
    exact ⟨fun hcategory => (h.1 hcategory).congr (by rw [hdb]),
      fun hcategory => (h.2 hcategory).updateWhere hrows⟩
  · cases hhandler

theorem enforced_handler {enforce : Database → Int → Time → Except String (Nat × Database)}
    {count : Nat} (hhandler : getRetentionHandler policy.dataCategory = some enforce)
    (hcall : enforce db policy.retentionDays later = .ok (count, db')) (hle : now ≤ later)
    (hseen : seen db) : Enforced seen now db' policy := by
  have hcutoff : now - days policy.retentionDays ≤ later - days policy.retentionDays :=
    Int.sub_le_sub_right hle _
  unfold getRetentionHandler at hhandler
  split at hhandler
  · rename_i hloan
    cases hhandler
    refine ⟨fun _ => noneOverdue_enforce hcutoff hcall, fun hvendor => ?_⟩
    exact absurd (hloan.symm.trans hvendor) (by decide)
  split at hhandler
  · rename_i hvendor
    cases hhandler
    refine ⟨fun hloan => ?_, fun _ => onlyBusy_enforce hcutoff hseen hcall⟩
    exact absurd (hvendor.symm.trans hloan) (by decide)
  · cases hhandler

/-- A category without a handler is neither of the two. -/
theorem enforced_of_none (h : getRetentionHandler policy.dataCategory = none) :
    Enforced seen now db policy := by
  constructor
  · intro hcategory
    rw [hcategory] at h
    cases h
  · intro hcategory
    rw [hcategory] at h
    cases h

theorem Enforced.applied {driver : Driver} (h : Enforced seen now db policy)
    (hdays : 0 ≤ policy.retentionDays) {op : ApplicationOp} (hle : now ≤ op.time) :
    Enforced seen now (applied driver db op) policy := by
  have hcutoff : now - days policy.retentionDays ≤ op.time :=
    Int.le_trans (Int.sub_le_self _ (Int.mul_nonneg hdays (by decide))) hle
  exact ⟨fun hcategory => (h.1 hcategory).applied op hcutoff,
    fun hcategory => (h.2 hcategory).applied op⟩

theorem Accounted.imp (h : Accounted seen now db policies results)
    (henforced : ∀ policy ∈ policies, Enforced seen now db policy → Enforced seen' now db' policy) :
    Accounted seen' now db' policies results :=
  ⟨h.categories, fun policy hpolicy => henforced policy hpolicy (h.enforced policy hpolicy)⟩

theorem Accounted.snoc (h : Accounted seen now db policies results)
    (hpolicy : Enforced seen now db policy) (action : String) (recordsAffected : Nat) :
    Accounted seen now db (policies ++ [policy])
      (results ++ [⟨policy.dataCategory, action, recordsAffected⟩]) where
  categories := by simp [h.categories]
  enforced := by
    rw [List.forall_mem_append, List.forall_mem_singleton]
    exact ⟨h.enforced, hpolicy⟩

theorem EnforceAttempt.Knows.imp (h : s.Knows policies seen now db)
    (henforced : ∀ policy ∈ policies, Enforced seen now db policy → Enforced seen' now db' policy) :
    s.Knows policies seen' now db' := by
  obtain ⟨handled, hpolicies, haccounted⟩ := h
  exact ⟨handled, hpolicies, haccounted.imp fun policy hpolicy =>
    henforced policy (hpolicies ▸ List.mem_append_left _ hpolicy)⟩

/-- **Step lemma** for a turn of an attempt. -/
theorem EnforceAttempt.Knows.act (h : s.Knows policies seen now db) (hle : now ≤ later)
    (hseen : seen db) : (s.act false later db).1.Knows policies seen now (s.act false later db).2 := by
  obtain ⟨handled, hpolicies, haccounted⟩ := h
  unfold EnforceAttempt.act
  cases htodo : s.todo with
  | nil => exact ⟨handled, hpolicies, haccounted⟩
  | cons policy todo =>
    rw [htodo, List.append_cons] at hpolicies
    simp only [Bool.false_eq_true, if_false]
    split
    · rename_i hnone
      exact ⟨_, hpolicies, haccounted.snoc (enforced_of_none hnone) _ _⟩
    · rename_i enforce hhandler
      split
      · rename_i count db' hcall
        refine ⟨_, hpolicies, Accounted.snoc ?_ (enforced_handler hhandler hcall hle hseen) _ _⟩
        exact haccounted.imp fun policy _ h => h.handler hhandler hcall
      · exact ⟨handled, hpolicies.trans (List.append_cons _ _ _).symm, haccounted⟩

/-- The results of an attempt that has handled all policies. -/
theorem EnforceAttempt.Knows.outcome (h : s.Knows policies seen now db)
    (houtcome : s.outcome = some (.ok results)) : Accounted seen now db policies results := by
  obtain ⟨handled, hpolicies, haccounted⟩ := h
  unfold EnforceAttempt.outcome at houtcome
  split at houtcome
  · cases houtcome
  · rename_i htodo
    obtain rfl := Except.ok.inj (Option.some.inj houtcome)
    rwa [hpolicies, htodo, List.append_nil]
  · cases houtcome

end Attempts

/-! ## Retention is complete -/

namespace RetentionSetup

variable (d : RetentionSetup) (db : Database) (now : Time)

/-- A state of the database in the course of the run. -/
def Seen (events : List RetentionEvent) (c : Database) : Prop :=
  ∃ before, before <+: events ∧ c = (d.run db now before).db

variable {d db now}

theorem Seen.snoc {events : List RetentionEvent} {c : Database} (h : d.Seen db now events c)
    (event : RetentionEvent) : d.Seen db now (events ++ [event]) c := by
  obtain ⟨before, hprefix, rfl⟩ := h
  exact ⟨before, hprefix.trans (List.prefix_append _ _), rfl⟩

theorem seen_self (events : List RetentionEvent) : d.Seen db now events (d.run db now events).db :=
  ⟨events, List.prefix_refl _, rfl⟩

/-- **Run lemma.** -/
theorem run_knows (hdry : d.dryRun = false) (hdays : ∀ policy ∈ d.policies, 0 ≤ policy.retentionDays)
    {events : List RetentionEvent} (hops : ∀ op, .op op ∈ events → now ≤ op.time) :
    now ≤ (d.run db now events).now ∧ (d.run db now events).workflow.Holds
      (EnforceAttempt.Knows d.policies (d.Seen db now events) now (d.run db now events).db)
      (Accounted (d.Seen db now events) now (d.run db now events).db d.policies) := by
  induction events using List.reverseRecOn with
  | nil =>
    refine ⟨Int.le_refl _, Retried.holds_start ⟨[], rfl, rfl, ?_⟩⟩
    exact List.forall_mem_nil _
  | append_singleton events event ih =>
    obtain ⟨hle, hholds⟩ := ih fun op hop => hops op (List.mem_append_left _ hop)
    have hrun : d.run db now (events ++ [event]) = d.step (d.run db now events) event := by
      simp [run]
    have hseen : ∀ c, d.Seen db now events c → d.Seen db now (events ++ [event]) c :=
      fun c hc => hc.snoc event
    have hholds : (d.run db now events).workflow.Holds
        (EnforceAttempt.Knows d.policies (d.Seen db now (events ++ [event])) now (d.run db now events).db)
        (Accounted (d.Seen db now (events ++ [event])) now (d.run db now events).db d.policies) :=
      hholds.imp (fun _ ha => ha.imp fun policy _ h => h.imp hseen)
        fun _ hr => hr.imp fun policy _ h => h.imp hseen
    rw [hrun]
    cases event with
    | turn =>
      refine ⟨hle, ?_⟩
      simp only [step, hdry]
      refine hholds.act (fun c => EnforceAttempt.Knows d.policies _ now c)
        (fun c => Accounted _ now c d.policies) ⟨[], rfl, rfl, List.forall_mem_nil _⟩
        (fun _ ha => ha) (fun _ ha _ => ha.act hle ((seen_self events).snoc .turn))
        (fun _ _ ha houtcome => ha.outcome houtcome) fun _ hr => hr
    | tick duration =>
      exact ⟨Int.le_trans hle (Int.le_add_of_nonneg_right (Int.natCast_nonneg duration)), hholds⟩
    | op op =>
      have htime := hops op (List.mem_append_right _ (.head _))
      refine ⟨hle, hholds.imp (fun _ ha => ha.imp fun policy hpolicy h => ?_)
        fun _ hr => hr.imp fun policy hpolicy h => ?_⟩
      · exact h.applied (hdays policy hpolicy) htime
      · exact h.applied (hdays policy hpolicy) htime

/-- The transactions of others. -/
def others (events : List RetentionEvent) : List ApplicationOp :=
  events.filterMap fun
    | .op op => some op
    | _ => none

/-- The turns of a dry run change nothing. -/
theorem run_dryRun (hdry : d.dryRun = true) (events : List RetentionEvent) :
    (d.run db now events).db = (others events).foldl (applied d.driver) db := by
  induction events using List.reverseRecOn with
  | nil => rfl
  | append_singleton events event ih =>
    have hrun : d.run db now (events ++ [event]) = d.step (d.run db now events) event := by
      simp [run]
    rw [hrun, others, List.filterMap_append, List.foldl_append, ← others, ← ih]
    cases event with
    | turn =>
      refine Retried.act_shared (fun c c' => c' = c) (fun _ => rfl) (fun s c => ?_) _ _
      simp only [enforceRetention, EnforceAttempt.act, hdry, if_true]
      split <;> rfl
    | tick duration => rfl
    | op op => rfl

end RetentionSetup

/-- **Retention is complete.** However often its attempts are lost, and whatever else commits in
between, once it has succeeded every policy has one result, no application is overdue that was so
when it began, and no vendor but those that had an active loan. A dry run changes nothing. -/
theorem retention_complete (d : RetentionSetup) (db : Database) (now : Time)
    (events : List RetentionEvent) (hdays : ∀ policy ∈ d.policies, 0 ≤ policy.retentionDays)
    (hops : ∀ op, .op op ∈ events → now ≤ op.time) :
    (d.dryRun = true →
      (d.run db now events).db = (RetentionSetup.others events).foldl (applied d.driver) db) ∧
    (d.dryRun = false → ∀ results, (d.run db now events).workflow.result = some (.ok results) →
      results.map RetentionResult.category = d.policies.map RetentionPolicy.dataCategory ∧
        ∀ policy ∈ d.policies, Enforced (d.Seen db now events) now (d.run db now events).db policy) := by
  refine ⟨fun hdry => RetentionSetup.run_dryRun hdry events, fun hdry results hresult => ?_⟩
  obtain ⟨hcategories, henforced⟩ := (RetentionSetup.run_knows hdry hdays hops).2.result results hresult
  exact ⟨hcategories, henforced⟩

/-- The first attempt is lost after the applications were committed. -/
def sampleSetup : RetentionSetup where
  driver := sampleDriver
  policies := [⟨"loan_application", 0⟩, ⟨"aa_financial_data", 365⟩, ⟨"vendor_contact", 0⟩]
  lost turns := turns = 1

theorem retention_complete_sample : ∃ results,
    (sampleSetup.run closedDatabase 1 (List.replicate 6 .turn)).workflow.result = some (.ok results) ∧
    results = [⟨"loan_application", "enforced", 0⟩, ⟨"aa_financial_data", "no_handler", 0⟩,
      ⟨"vendor_contact", "enforced", 2⟩] ∧
    Enforced (sampleSetup.Seen closedDatabase 1 (List.replicate 6 .turn)) 1
      (sampleSetup.run closedDatabase 1 (List.replicate 6 .turn)).db ⟨"vendor_contact", 0⟩ := by
  have hresult : (sampleSetup.run closedDatabase 1 (List.replicate 6 .turn)).workflow.result =
      some (.ok [⟨"loan_application", "enforced", 0⟩, ⟨"aa_financial_data", "no_handler", 0⟩,
        ⟨"vendor_contact", "enforced", 2⟩]) := by decide +kernel
  obtain ⟨-, hcomplete⟩ := retention_complete sampleSetup closedDatabase 1 (List.replicate 6 .turn)
    (by decide) (by simp)
  obtain ⟨-, henforced⟩ := hcomplete rfl _ hresult
  exact ⟨_, hresult, rfl, henforced _ (by simp [sampleSetup])⟩

end OcenPlatform.Gateway
