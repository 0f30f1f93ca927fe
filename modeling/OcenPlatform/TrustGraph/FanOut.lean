import OcenPlatform.Json
import OcenPlatform.TrustGraph.Marts

/-! Loans and repayments: when each originated loan is one row of `stg_loan_applications`, and
one loan of `trust_scores`. -/

namespace OcenPlatform.TrustGraph

open Sql

/-! ## One row per loan -/

/-- The rows are the originated loans, and no loan has two. -/
def OneRowPerLoan (loans : List Originated) (rows : List LoanApplication) : Prop :=
  (rows.map LoanApplication.toOriginated).Perm loans ∧ (rows.filterMap (·.loanApplicationId)).Nodup

def Originated.pair (loan : Originated) : Option String × Option String :=
  (loan.vendorGstin, loan.anchorGstin)

def TrustScoreRow.pair (t : TrustScoreRow) : Option String × Option String :=
  (t.vendorGstin, t.anchorGstin)

/-- Each vendor-anchor pair with loans has one row, with the number and the sum of its loans. -/
structure CountsLoans (scores : List TrustScoreRow) (loans : List Originated) : Prop where
  once : (scores.map TrustScoreRow.pair).Nodup
  scored : ∀ pair, pair ∈ scores.map TrustScoreRow.pair ↔ pair ∈ loans.map Originated.pair
  totals : ∀ t ∈ scores, t.totalLoans = loans.countP (·.pair = t.pair) ∧
    t.totalDisbursed = sum (·.amount) (loans.filter (·.pair = t.pair))

/-- The query can cast the texts that it reads. -/
def Readable (pg : Postgres) (events : List TradeEvent) : Prop :=
  (∀ e ∈ events, e.isOriginated → ∃ amount, e.amount pg = .ok amount) ∧
    ∀ e ∈ events, e.isRepayment →
      ∃ days, cast pg.int (PyDict.find? e.payload "days_to_repay") = .ok days

/-- No originated loan has two repayments. -/
def RepaidAtMostOnce (events : List TradeEvent) : Prop :=
  ∀ e ∈ events, e.isOriginated → ∀ id, e.loanApplicationId = some id →
    events.countP (fun r => r.isRepayment && r.loanApplicationId = some id) ≤ 1

/-! ## Reading the events -/

section Read

variable {pg : Postgres} {events : List TradeEvent} {loans : List Originated} {repayments : List Repaid}

theorem Originated.read_ok {e : TradeEvent} {loan : Originated} (h : Originated.read pg e = .ok loan) :
    loan.loanApplicationId = e.loanApplicationId := by
  obtain ⟨amount, -, hloan⟩ := exists_of_bind_ok h
  obtain rfl := Except.ok.inj hloan
  rfl

theorem Repaid.read_ok {e : TradeEvent} {repayment : Repaid} (h : Repaid.read pg e = .ok repayment) :
    repayment.loanApplicationId = e.loanApplicationId := by
  obtain ⟨days, -, hrepayment⟩ := exists_of_bind_ok h
  obtain rfl := Except.ok.inj hrepayment
  rfl

theorem originated_ids (h : originated pg events = .ok loans) :
    loans.map (·.loanApplicationId) =
      (events.filter (·.isOriginated)).map TradeEvent.loanApplicationId :=
  map_eq_of_mapM (fun _ _ => Originated.read_ok) h

theorem repaid_ids (h : repaid pg events = .ok repayments) :
    repayments.map (·.loanApplicationId) =
      (events.filter (·.isRepayment)).map TradeEvent.loanApplicationId :=
  map_eq_of_mapM (fun _ _ => Repaid.read_ok) h

theorem Originated.exists_read {e : TradeEvent} : (∃ loan, Originated.read pg e = .ok loan) ↔
    ∃ amount, e.amount pg = .ok amount := by
  unfold Originated.read
  cases e.amount pg with
  | error err => simp [bind, Except.bind]
  | ok amount => simp [bind, Except.bind, pure, Except.pure]

theorem Repaid.exists_read {e : TradeEvent} : (∃ repayment, Repaid.read pg e = .ok repayment) ↔
    ∃ days, cast pg.int (PyDict.find? e.payload "days_to_repay") = .ok days := by
  unfold Repaid.read
  cases cast pg.int (PyDict.find? e.payload "days_to_repay") with
  | error err => simp [bind, Except.bind]
  | ok days => simp [bind, Except.bind, pure, Except.pure]

theorem readable_iff : Readable pg events ↔
    (∃ loans, originated pg events = .ok loans) ∧ ∃ repayments, repaid pg events = .ok repayments := by
  unfold Readable originated repaid
  rw [exists_mapM_ok, exists_mapM_ok]
  simp only [List.mem_filter, and_imp, Originated.exists_read, Repaid.exists_read]

/-- The repayments that a loan is joined with. -/
theorem countP_sameLoan (h : repaid pg events = .ok repayments) (loan : Originated) :
    repayments.countP (sameLoan loan) =
      events.countP fun r => r.isRepayment && Sql.eq loan.loanApplicationId r.loanApplicationId := by
  have hmap : repayments.countP (sameLoan loan) =
      (repayments.map (·.loanApplicationId)).countP (Sql.eq loan.loanApplicationId) := by
    rw [List.countP_map]
    rfl
  rw [hmap, repaid_ids h, List.countP_map, List.countP_filter]
  refine List.countP_congr fun r _ => ?_
  rw [Bool.and_comm]
  rfl

theorem countP_eq_le_one {id : Option Uuid} :
    (events.countP fun r => r.isRepayment && Sql.eq id r.loanApplicationId) ≤ 1 ↔
      ∀ u, id = some u →
        events.countP (fun r => r.isRepayment && r.loanApplicationId = some u) ≤ 1 := by
  cases id with
  | none => simp [Sql.eq]
  | some u => simp [Sql.eq, eq_comm]

theorem repaidAtMostOnce_iff (hloans : originated pg events = .ok loans)
    (hrepayments : repaid pg events = .ok repayments) :
    RepaidAtMostOnce events ↔ ∀ loan ∈ loans, repayments.countP (sameLoan loan) ≤ 1 := by
  have hids : ∀ id, (∃ e, (e ∈ events ∧ e.isOriginated) ∧ e.loanApplicationId = id) ↔
      ∃ loan ∈ loans, loan.loanApplicationId = id := by
    intro id
    have hmem := congrArg (id ∈ ·) (originated_ids hloans)
    simpa only [List.mem_map, List.mem_filter, eq_iff_iff, eq_comm (a := id)] using hmem.symm
  simp only [countP_sameLoan hrepayments, countP_eq_le_one]
  constructor
  · intro honce loan hloan
    obtain ⟨e, ⟨he, horiginated⟩, hid⟩ := (hids _).mpr ⟨loan, hloan, rfl⟩
    exact fun u hu => honce e he horiginated u (hid.trans hu)
  · intro honce e he horiginated
    obtain ⟨loan, hloan, hid⟩ := (hids _).mp ⟨e, ⟨he, horiginated⟩, rfl⟩
    exact fun u hu => honce loan hloan u (hid.trans hu)

theorem stgLoanApplications_ok {rows : List LoanApplication} (hloans : originated pg events = .ok loans)
    (hrepayments : repaid pg events = .ok repayments) : stgLoanApplications pg events = .ok rows ↔
      rows = (leftJoin sameLoan loans repayments).map fun row => loanApplication row.1 row.2 := by
  simp [stgLoanApplications, hloans, hrepayments, bind, Except.bind, pure, Except.pure, eq_comm]

end Read

/-! ## Trust scores -/

section Scores

variable {pg : Postgres} {rows : List LoanApplication} {t : TrustScoreRow}

theorem map_pair_trustScores : (trustScores pg rows).map TrustScoreRow.pair =
    (groupBy LoanApplication.pair rows).map Prod.fst := by
  rw [trustScores, List.map_map]
  rfl

/-- The row of a pair, over all its loans. -/
theorem mem_trustScores (h : t ∈ trustScores pg rows) :
    t = trustScoreRow pg t.pair (rows.filter (·.pair = t.pair)) := by
  obtain ⟨g, hg, rfl⟩ := List.mem_map.mp h
  exact congrArg (trustScoreRow pg g.1) (rows_of_mem_groupBy hg)

theorem trustScores_countsLoans : CountsLoans (trustScores pg rows) (rows.map (·.toOriginated)) where
  once := by
    rw [map_pair_trustScores]
    exact nodup_groupBy
  scored pair := by
    rw [map_pair_trustScores, mem_map_fst_groupBy, List.map_map]
    rfl
  totals t ht := by
    rw [mem_trustScores ht, List.countP_map, List.filter_map, sum_map]
    exact ⟨(List.countP_eq_length_filter ..).symm, rfl⟩

end Scores

/-! ## Fan-out -/

/-- **Each originated loan is one row, and one loan of the trust scores, exactly if** the query
can read its texts and no originated loan has two repayments. -/
theorem onePerLoan_iff (pg : Postgres) (events : TradeEvents) :
    (∃ loans rows, originated pg events.rows = .ok loans ∧
      stgLoanApplications pg events.rows = .ok rows ∧ OneRowPerLoan loans rows ∧
      CountsLoans (trustScores pg rows) loans) ↔
    Readable pg events.rows ∧ RepaidAtMostOnce events.rows := by
  rw [readable_iff]
  constructor
  · rintro ⟨loans, rows, hloans, hrows, ⟨hperm, -⟩, -⟩
    obtain ⟨loans', hloans', hrest⟩ := exists_of_bind_ok hrows
    obtain ⟨repayments, hrepayments, -⟩ := exists_of_bind_ok hrest
    refine ⟨⟨⟨loans, hloans⟩, repayments, hrepayments⟩, ?_⟩
    rw [repaidAtMostOnce_iff hloans hrepayments, ← length_leftJoin_iff]
    obtain rfl := (stgLoanApplications_ok hloans hrepayments).mp hrows
    simpa using hperm.length_eq
  · rintro ⟨⟨⟨loans, hloans⟩, repayments, hrepayments⟩, honce⟩
    rw [repaidAtMostOnce_iff hloans hrepayments] at honce
    refine ⟨loans, _, hloans, (stgLoanApplications_ok hloans hrepayments).mpr rfl, ?_⟩
    generalize hrows : (leftJoin sameLoan loans repayments).map _ = rows
    have hloansOf : rows.map LoanApplication.toOriginated = loans := by
      rw [← hrows, leftJoin_eq_map honce, List.map_map, List.map_map]
      exact List.map_id loans
    refine ⟨⟨.of_eq hloansOf, ?_⟩, hloansOf ▸ trustScores_countsLoans⟩
    have hids : rows.filterMap (·.loanApplicationId) =
        (loans.map (·.loanApplicationId)).filterMap id := by
      rw [← hloansOf, List.map_map, List.filterMap_map]
      rfl
    rw [hids, originated_ids hloans, List.filterMap_map]
    exact events.originatedOnce

/-! A loan that is repaid in two installments. -/

def samplePostgres : Postgres where
  int text := if text = "30" then .ok 30 else .error "invalid_text_representation"
  numeric text := if text = "1000" then .ok (.finite 1000) else .error "invalid_text_representation"
  div p q := p / q

def installment (eventId : Uuid) : TradeEvent where
  eventId
  eventType := some "REPAYMENT_OBSERVED"
  entityId := some ⟨7⟩
  correlationId := some ⟨7⟩
  payload := [("amount", "500"), ("paid_by_anchor", "true"), ("payment_reference", "UTR-1")]
  occurredAt := some 60

def installments : TradeEvents where
  rows :=
    [{ eventId := ⟨1⟩
       eventType := some "LOAN_ORIGINATED"
       entityId := some ⟨9⟩
       correlationId := some ⟨7⟩
       payload := [("amount", "1000"), ("vendor_gstin", "27AADCB2230M1ZT"),
         ("anchor_gstin", "27AABCU9603R1ZM")]
       occurredAt := some 0 }, installment ⟨2⟩, installment ⟨3⟩]
  uniqueIds := by decide
  originatedOnce := by decide

/-- The loan is two rows. -/
theorem installments_fanOut : ¬ ∃ loans rows, originated samplePostgres installments.rows = .ok loans ∧
    stgLoanApplications samplePostgres installments.rows = .ok rows ∧ OneRowPerLoan loans rows ∧
    CountsLoans (trustScores samplePostgres rows) loans := by
  rintro ⟨loans, rows, hloans, hrows, ⟨hperm, -⟩, -⟩
  cases hloans
  cases hrows
  exact absurd hperm.length_eq (by decide)

end OcenPlatform.TrustGraph
