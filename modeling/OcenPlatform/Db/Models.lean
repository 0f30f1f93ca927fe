import OcenPlatform.Db.Table
import OcenPlatform.Json
import OcenPlatform.Uuid

/-! The tables of the platform's database, as far as erasure, retention and the gateway
read and write them, with the constraints of their columns. -/

namespace OcenPlatform.Db

/-! ## Column types -/

/-- Microseconds since the epoch. -/
abbrev Time := Int

/-- `timedelta(days=n)`. -/
def days (n : Int) : Time := n * 86400000000

/-- What a `String(n)` column makes of a text. Excess characters are cut off if all of
them are spaces, and refused otherwise; a text has no NUL. -/
def varchar (n : Nat) (s : String) : Except String String :=
  if Char.ofNat 0 ∈ s.toList then .error "DBAPIError"
  else if s.length ≤ n then .ok s
  else if (s.toList.drop n).all (· = ' ') then .ok (String.ofList (s.toList.take n))
  else .error "DBAPIError"

theorem varchar_of_fits {n : Nat} {s : String} (hnul : Char.ofNat 0 ∉ s.toList)
    (hlength : s.length ≤ n) : varchar n s = .ok s := by
  rw [varchar, if_neg hnul, if_pos hlength]

/-- What a column holds, it takes again as it is. -/
theorem varchar_stored {n : Nat} {s stored : String} (h : varchar n s = .ok stored) :
    varchar n stored = .ok stored := by
  unfold varchar at h
  split at h
  · cases h
  rename_i hnul
  split at h
  · rename_i hfits
    obtain rfl := Except.ok.inj h
    exact varchar_of_fits hnul hfits
  split at h
  · obtain rfl := Except.ok.inj h
    refine varchar_of_fits ?_ ?_
    · rw [String.toList_ofList]
      exact fun hmem => hnul (List.mem_of_mem_take hmem)
    · rw [String.length_ofList, List.length_take]
      omega
  · cases h

/-- A text that was cut off fills its column. -/
theorem varchar_short {n : Nat} {s stored : String} (h : varchar n s = .ok stored)
    (hshort : stored.length < n) : stored = s := by
  unfold varchar at h
  split at h
  · cases h
  split at h
  · exact (Except.ok.inj h).symm
  rename_i hlong
  split at h
  · obtain rfl := Except.ok.inj h
    rw [String.length_ofList, List.length_take, String.length_toList] at hshort
    omega
  · cases h

/-- The nearest hundredth, halves away from zero. -/
def toCents (q : Rat) : Int :=
  if 0 ≤ q then (q * 100 + 1 / 2).floor else -(1 / 2 - q * 100).floor

/-- What a `Numeric(14, 2)` column makes of a number. -/
def numeric (q : Rat) : Except String Rat :=
  if (toCents q).natAbs < 100000000000000 then .ok (mkRat (toCents q) 100) else .error "DBAPIError"

/-! ## Records -/

structure LoanApplicationRecord where
  id : Uuid
  invoiceId : Uuid
  vendorGstin : String
  anchorGstin : String
  amountRequested : Rat
  status : String := "created"
  currentGate : Option String := none
  workflowId : Option String := none
  idempotencyKey : Option String := none
  selectedLenderId : Option String := none
  offerData : Option Json := none
  amountSanctioned : Option Rat := none
  createdAt : Time
  updatedAt : Time
  vendorGstinEnc : Option (List UInt8) := none
  vendorGstinIdx : Option String := none
  anchorGstinEnc : Option (List UInt8) := none
  anchorGstinIdx : Option String := none

structure VendorRecord where
  id : Uuid
  name : String
  gstin : String
  udyamNumber : Option String := none
  onboardedAt : Time
  nameEnc : Option (List UInt8) := none
  gstinEnc : Option (List UInt8) := none
  gstinIdx : Option String := none
  udyamNumberEnc : Option (List UInt8) := none
  udyamNumberIdx : Option String := none
  deriving DecidableEq

structure AnchorRecord where
  id : Uuid
  name : String
  gstin : String
  nameEnc : Option (List UInt8) := none
  gstinEnc : Option (List UInt8) := none
  gstinIdx : Option String := none
  deriving DecidableEq

structure ConsentRecord where
  id : Uuid
  dataPrincipalId : String
  purpose : String
  granted : Bool
  grantedAt : Option Time := none
  deriving DecidableEq

/-! ## Constraints -/

/-- Primary key, and the unique idempotency key, of which nulls are exempt. -/
def LoanApplicationsValid (rows : List LoanApplicationRecord) : Prop :=
  (rows.map LoanApplicationRecord.id).Nodup ∧
    (rows.filterMap LoanApplicationRecord.idempotencyKey).Nodup

def VendorsValid (rows : List VendorRecord) : Prop :=
  (rows.map VendorRecord.id).Nodup ∧ (rows.map VendorRecord.gstin).Nodup

def AnchorsValid (rows : List AnchorRecord) : Prop :=
  (rows.map AnchorRecord.id).Nodup ∧ (rows.map AnchorRecord.gstin).Nodup

def ConsentsValid (rows : List ConsentRecord) : Prop := (rows.map ConsentRecord.id).Nodup

instance : DecidablePred LoanApplicationsValid := fun _ => inferInstanceAs (Decidable (_ ∧ _))

instance : DecidablePred VendorsValid := fun _ => inferInstanceAs (Decidable (_ ∧ _))

instance : DecidablePred AnchorsValid := fun _ => inferInstanceAs (Decidable (_ ∧ _))

instance : DecidablePred ConsentsValid := fun _ => inferInstanceAs (Decidable (List.Nodup _))

theorem loanApplicationsValid_nil : LoanApplicationsValid [] := ⟨.nil, .nil⟩

theorem vendorsValid_nil : VendorsValid [] := ⟨.nil, .nil⟩

theorem anchorsValid_nil : AnchorsValid [] := ⟨.nil, .nil⟩

theorem consentsValid_nil : ConsentsValid [] := .nil

/-- One more row. -/
theorem loanApplicationsValid_snoc {rows : List LoanApplicationRecord}
    {record : LoanApplicationRecord} : LoanApplicationsValid (rows ++ [record]) ↔
      LoanApplicationsValid rows ∧ (∀ la ∈ rows, la.id ≠ record.id) ∧
        ∀ key, record.idempotencyKey = some key → ∀ la ∈ rows, la.idempotencyKey ≠ some key := by
  have hids : ((rows ++ [record]).map LoanApplicationRecord.id).Nodup ↔
      (rows.map LoanApplicationRecord.id).Nodup ∧ ∀ la ∈ rows, la.id ≠ record.id := by
    simp [List.nodup_append]
  have hkeys : ((rows ++ [record]).filterMap LoanApplicationRecord.idempotencyKey).Nodup ↔
      (rows.filterMap LoanApplicationRecord.idempotencyKey).Nodup ∧
        ∀ key, record.idempotencyKey = some key → ∀ la ∈ rows, la.idempotencyKey ≠ some key := by
    cases hkey : record.idempotencyKey with
    | none => simp [hkey]
    | some key =>
      simp only [List.filterMap_append, List.filterMap_cons_some hkey, List.filterMap_nil,
        List.nodup_append, List.nodup_singleton, true_and, List.mem_filterMap, List.mem_singleton,
        Option.some.injEq, forall_eq']
      constructor
      · rintro ⟨hnodup, hne⟩
        exact ⟨hnodup, fun la hla heq => hne key ⟨la, hla, heq⟩ key rfl rfl⟩
      · rintro ⟨hnodup, hne⟩
        refine ⟨hnodup, ?_⟩
        rintro _ ⟨la, hla, heq⟩ _ rfl rfl
        exact hne la hla heq
  unfold LoanApplicationsValid
  rw [hids, hkeys]
  tauto

structure Database where
  loanApplications : Table LoanApplicationRecord LoanApplicationsValid :=
    ⟨[], loanApplicationsValid_nil⟩
  vendors : Table VendorRecord VendorsValid := ⟨[], vendorsValid_nil⟩
  consents : Table ConsentRecord ConsentsValid := ⟨[], consentsValid_nil⟩

/-- Updates that keep ids and keys break no constraint. -/
theorem loanApplicationsValid_updateWhere {p : LoanApplicationRecord → Bool}
    {f : LoanApplicationRecord → LoanApplicationRecord} {rows : List LoanApplicationRecord}
    (h : LoanApplicationsValid rows) (hid : ∀ la ∈ rows, p la = true → (f la).id = la.id)
    (hkey : ∀ la ∈ rows, p la = true → (f la).idempotencyKey = la.idempotencyKey) :
    LoanApplicationsValid (updateWhere p f rows) := by
  unfold LoanApplicationsValid
  rw [map_updateWhere hid, filterMap_updateWhere hkey]
  exact h

theorem consentsValid_updateWhere {p : ConsentRecord → Bool} {f : ConsentRecord → ConsentRecord}
    {rows : List ConsentRecord} (h : ConsentsValid rows)
    (hid : ∀ c ∈ rows, p c = true → (f c).id = c.id) : ConsentsValid (updateWhere p f rows) := by
  unfold ConsentsValid
  rw [map_updateWhere hid]
  exact h

end OcenPlatform.Db
