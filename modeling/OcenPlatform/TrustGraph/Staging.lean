import OcenPlatform.PyDict
import OcenPlatform.Sql.Value
import OcenPlatform.Uuid

/-! The staging views over the trade events. A column of a view is an expression, which a query
evaluates where it reads the column. -/

namespace OcenPlatform.TrustGraph

open Sql

/-- Microseconds since the epoch. -/
abbrev Timestamp := Int

/-! ## `stg_trade_events` -/

/-- A row of `trade_events`. The payload has the texts of `payload->>key`. -/
structure TradeEvent where
  eventId : Uuid
  eventType : Option String
  entityId : Option Uuid
  correlationId : Option Uuid
  payload : PyDict String String
  occurredAt : Option Timestamp

namespace TradeEvent

variable (e : TradeEvent)

def loanApplicationId : Option Uuid := e.correlationId

def amount (pg : Postgres) : Except String (Option Numeric) :=
  cast pg.numeric (PyDict.find? e.payload "amount")

def anchorGstin : Option String := PyDict.find? e.payload "anchor_gstin"

def vendorGstin : Option String := PyDict.find? e.payload "vendor_gstin"

def isOriginated : Bool := e.eventType = some "LOAN_ORIGINATED"

def isRepayment : Bool := e.eventType = some "REPAYMENT_OBSERVED"

end TradeEvent

/-- The table: event ids are unique, and a loan is originated once. -/
structure TradeEvents where
  rows : List TradeEvent
  uniqueIds : (rows.map TradeEvent.eventId).Nodup
  originatedOnce : ((rows.filter (·.isOriginated)).filterMap TradeEvent.loanApplicationId).Nodup

/-! ## `stg_loan_applications` -/

structure Originated where
  loanApplicationId : Option Uuid
  invoiceId : Option Uuid
  vendorGstin : Option String
  anchorGstin : Option String
  amount : Option Numeric
  originatedAt : Option Timestamp
  deriving DecidableEq

structure Repaid where
  loanApplicationId : Option Uuid
  repaidAt : Option Timestamp
  daysToRepay : Option Int

structure LoanApplication extends Originated where
  repaidAt : Option Timestamp
  daysToRepay : Option Int
  loanStatus : String
  deriving DecidableEq

def Originated.read (pg : Postgres) (e : TradeEvent) : Except String Originated := do
  return {
    loanApplicationId := e.loanApplicationId
    invoiceId := e.entityId
    vendorGstin := e.vendorGstin
    anchorGstin := e.anchorGstin
    amount := ← e.amount pg
    originatedAt := e.occurredAt }

def Repaid.read (pg : Postgres) (e : TradeEvent) : Except String Repaid := do
  return {
    loanApplicationId := e.loanApplicationId
    repaidAt := e.occurredAt
    daysToRepay := ← cast pg.int (PyDict.find? e.payload "days_to_repay") }

def originated (pg : Postgres) (events : List TradeEvent) : Except String (List Originated) :=
  (events.filter (·.isOriginated)).mapM (Originated.read pg)

def repaid (pg : Postgres) (events : List TradeEvent) : Except String (List Repaid) :=
  (events.filter (·.isRepayment)).mapM (Repaid.read pg)

/-- `o.loan_application_id = r.loan_application_id`. -/
def sameLoan (o : Originated) (r : Repaid) : Bool := Sql.eq o.loanApplicationId r.loanApplicationId

def loanApplication (o : Originated) (r : Option Repaid) : LoanApplication :=
  let repaidAt := r.bind Repaid.repaidAt
  { toOriginated := o
    repaidAt
    daysToRepay := r.bind Repaid.daysToRepay
    loanStatus :=
      if repaidAt.isSome then "REPAID" else if o.originatedAt.isSome then "ACTIVE" else "UNKNOWN" }

def stgLoanApplications (pg : Postgres) (events : List TradeEvent) :
    Except String (List LoanApplication) := do
  let o ← originated pg events
  let r ← repaid pg events
  return (leftJoin sameLoan o r).map fun row => loanApplication row.1 row.2

end OcenPlatform.TrustGraph
