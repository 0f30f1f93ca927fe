import Mathlib.Data.Int.Order.Basic
import OcenPlatform.TrustGraph.Staging

/-! The marts: trust scores of the vendor-anchor pairs, and vendor profiles. -/

namespace OcenPlatform.TrustGraph

open Sql

/-! ## `trust_scores` -/

structure TrustScoreRow where
  vendorGstin : Option String
  anchorGstin : Option String
  totalLoans : Nat
  repaidLoans : Nat
  activeLoans : Nat
  avgLoanAmount : Option Numeric
  avgDaysToRepay : Option Rat
  firstLoanAt : Option Timestamp
  latestLoanAt : Option Timestamp
  totalDisbursed : Option Numeric
  repaymentRatePct : Rat
  trustScore : Rat

def repaymentRatePct (pg : Postgres) (totalLoans repaidLoans : Nat) : Rat :=
  if totalLoans = 0 then 0 else round (pg.div repaidLoans totalLoans * 100) 2

/-- The composite trust score. A null average is not at most 30. -/
def trustScore (pg : Postgres) (totalLoans repaidLoans : Nat) (avgDaysToRepay : Option Rat) : Rat :=
  if totalLoans = 0 then 0
  else if totalLoans < 3 then round (pg.div repaidLoans totalLoans * 50) 0
  else
    round (pg.div repaidLoans totalLoans * 70 + pg.div (min totalLoans 20 : Nat) 20 * 20 +
      if avgDaysToRepay.any (· ≤ 30) then 10 else 0) 0

/-- The key of `group by vendor_gstin, anchor_gstin`. -/
def LoanApplication.pair (loan : LoanApplication) : Option String × Option String :=
  (loan.vendorGstin, loan.anchorGstin)

/-- A row of `vendor_anchor_stats` with the scores computed from it. -/
def trustScoreRow (pg : Postgres) (pair : Option String × Option String)
    (loans : List LoanApplication) : TrustScoreRow :=
  let totalLoans := loans.length
  let repaidLoans := loans.countP (·.loanStatus = "REPAID")
  let avgDaysToRepay := avgFinite pg (fun loan => loan.daysToRepay.map (↑)) loans
  { vendorGstin := pair.1
    anchorGstin := pair.2
    totalLoans
    repaidLoans
    activeLoans := loans.countP (·.loanStatus = "ACTIVE")
    avgLoanAmount := avg pg (·.amount) loans
    avgDaysToRepay
    firstLoanAt := minimum (·.originatedAt) loans
    latestLoanAt := maximum (·.originatedAt) loans
    totalDisbursed := sum (·.amount) loans
    repaymentRatePct := repaymentRatePct pg totalLoans repaidLoans
    trustScore := trustScore pg totalLoans repaidLoans avgDaysToRepay }

def trustScores (pg : Postgres) (loans : List LoanApplication) : List TrustScoreRow :=
  (groupBy LoanApplication.pair loans).map fun g => trustScoreRow pg g.1 g.2

/-! ## `vendor_profiles` -/

/-- A row of `stg_trade_events`, with the columns that the profiles read. -/
structure StgTradeEvent where
  eventType : Option String
  vendorGstin : Option String
  isKind1 : Option Bool

def StgTradeEvent.isAttestation (e : StgTradeEvent) : Bool :=
  e.eventType = some "INVOICE_KIND1_ATTESTED"

structure Attestations where
  vendorGstin : Option String
  totalAttestations : Nat
  kind1Attestations : Nat

def attestations (events : List StgTradeEvent) : List Attestations :=
  (groupBy StgTradeEvent.vendorGstin (events.filter (·.isAttestation))).map fun g =>
    { vendorGstin := g.1
      totalAttestations := g.2.length
      kind1Attestations := g.2.countP (·.isKind1 = some true) }

structure VendorProfile where
  vendorGstin : Option String
  anchorCount : Nat
  lifetimeLoans : Nat
  lifetimeRepaid : Nat
  lifetimeDisbursed : Option Numeric
  avgTrustScore : Option Rat
  maxTrustScore : Option Rat
  firstEverLoan : Option Timestamp
  mostRecentLoan : Option Timestamp
  totalAttestations : Nat
  kind1Attestations : Nat

/-- `t.vendor_gstin = a.vendor_gstin`. -/
def sameVendor (t : TrustScoreRow) (a : Attestations) : Bool := Sql.eq t.vendorGstin a.vendorGstin

/-- The key of `group by t.vendor_gstin, a.total_attestations, a.kind1_attestations`. -/
def profileKey (row : TrustScoreRow × Option Attestations) : Option String × Option Nat × Option Nat :=
  (row.1.vendorGstin, row.2.map (·.totalAttestations), row.2.map (·.kind1Attestations))

def vendorProfile (pg : Postgres) (key : Option String × Option Nat × Option Nat)
    (rows : List (TrustScoreRow × Option Attestations)) : VendorProfile where
  vendorGstin := key.1
  anchorCount := countDistinct (·.1.anchorGstin) rows
  lifetimeLoans := (rows.map (·.1.totalLoans)).sum
  lifetimeRepaid := (rows.map (·.1.repaidLoans)).sum
  lifetimeDisbursed := sum (·.1.totalDisbursed) rows
  avgTrustScore := avgFinite pg (fun row => some row.1.trustScore) rows
  maxTrustScore := maximum (fun row => some row.1.trustScore) rows
  firstEverLoan := minimum (·.1.firstLoanAt) rows
  mostRecentLoan := maximum (·.1.latestLoanAt) rows
  totalAttestations := key.2.1.getD 0
  kind1Attestations := key.2.2.getD 0

def vendorProfiles (pg : Postgres) (trust : List TrustScoreRow) (events : List StgTradeEvent) :
    List VendorProfile :=
  (groupBy profileKey (leftJoin sameVendor trust (attestations events))).map fun g =>
    vendorProfile pg g.1 g.2

end OcenPlatform.TrustGraph
