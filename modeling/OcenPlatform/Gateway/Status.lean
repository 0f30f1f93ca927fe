import OcenPlatform.Db.Models
import OcenPlatform.Gateway.Service

/-! What the in-memory service does with an application after it has stored it: the
status that it reports and the updates from the gates. -/

namespace OcenPlatform.Gateway

open Db (Time)

structure LoanApplicationStatus where
  applicationId : Uuid
  status : String
  currentGate : Option String := none
  amountRequested : Option Rat := none
  amountSanctioned : Option Rat := none
  lenderId : Option String := none
  createdAt : Option Time := none
  updatedAt : Option Time := none

/-- How pydantic reads a value for a field of each type. -/
structure Pydantic where
  uuid : Value → Except String Uuid
  str : Value → Except String String
  decimal : Value → Except String Rat
  datetime : Value → Except String Time

/-- A value of the field's own type is taken as it is. -/
structure Pydantic.Lawful (pydantic : Pydantic) : Prop where
  uuid : ∀ u, pydantic.uuid (.uuid u) = .ok u
  str : ∀ s, pydantic.str (.str s) = .ok s
  decimal : ∀ q, pydantic.decimal (.decimal q) = .ok q
  datetime : ∀ t, pydantic.datetime (.datetime t) = .ok t

/-- A field that can be `None`, and is when the value is missing. -/
def optional {α : Type} (read : Value → Except String α) : Option Value → Except String (Option α)
  | none | some .none => .ok none
  | some v => some <$> read v

/-- `**extra`: distinct keywords, other than the named parameters. -/
structure Extra where
  fields : PyDict String Value := []
  nodup : (fields.map Prod.fst).Nodup := by decide
  named : ∀ p ∈ fields, p.1 ∉ ["self", "application_id", "gate", "status"] := by decide

def Extra.find? (extra : Extra) (key : String) : Option Value := PyDict.find? extra.fields key

/-- `KeyError(f"Application {application_id} not found")`. -/
def notFound (applicationId : Uuid) : String :=
  "KeyError: Application " ++ applicationId.str ++ " not found"

/-- `app[key]`. -/
def Application.item (app : Application) (key : String) : Except String Value :=
  (PyDict.find? app key).elim (.error "KeyError") .ok

namespace BorrowerGatewayService

/-- The application, where an empty dict counts as none. -/
def application? (s : BorrowerGatewayService) (applicationId : Uuid) : Option Application :=
  (PyDict.find? s.applications applicationId).filter fun app => !app.isEmpty

def getStatus (pydantic : Pydantic) (s : BorrowerGatewayService) (applicationId : Uuid) :
    Except String LoanApplicationStatus :=
  match s.application? applicationId with
  | none => .error (notFound applicationId)
  | some app => do
    let id ← Application.item app "application_id"
    let status ← Application.item app "status"
    return {
      applicationId := ← pydantic.uuid id
      status := ← pydantic.str status
      currentGate := ← optional pydantic.str (PyDict.find? app "current_gate")
      amountRequested := ← optional pydantic.decimal (PyDict.find? app "amount_requested")
      amountSanctioned := ← optional pydantic.decimal (PyDict.find? app "amount_sanctioned")
      lenderId := ← optional pydantic.str (PyDict.find? app "lender_id")
      createdAt := ← optional pydantic.datetime (PyDict.find? app "created_at")
      updatedAt := ← optional pydantic.datetime (PyDict.find? app "updated_at") }

/-- The application's dict after an update from a gate. -/
def updateApplication (app : Application) (gate status : String) (extra : Extra) (now : Nat) :
    Application :=
  PyDict.update (PyDict.set (PyDict.set (PyDict.set app "current_gate" (.str gate))
    "status" (.str status)) "updated_at" (.datetime now)) extra.fields

def updateGate (s : BorrowerGatewayService) (applicationId : Uuid) (gate status : String)
    (extra : Extra) (now : Nat) : Except String BorrowerGatewayService :=
  match s.application? applicationId with
  | none => .error (notFound applicationId)
  | some app => .ok { s with
      applications := PyDict.set s.applications applicationId
        (updateApplication app gate status extra now) }

end BorrowerGatewayService

end OcenPlatform.Gateway
