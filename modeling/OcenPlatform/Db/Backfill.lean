import OcenPlatform.Db.Migrations
import OcenPlatform.Db.Paging
import OcenPlatform.Db.Table
import OcenPlatform.Durable.Lockstep
import OcenPlatform.Encoding.Hashlib

/-! `_backfill_table` of migration 003: page by page, it encrypts the plaintext of the rows
into their `_enc` and `_idx` columns. The application inserts rows meanwhile. -/

namespace OcenPlatform.Db.Backfill

open Migrations (Row Cell)
open Paging (page rank)

/-! ## Values -/

def asciiSpace (c : Char) : Bool := c ∈ [' ', '\t', '\n', '\r', '\x0b', '\x0c']

def hexValue (c : Char) : Option UInt8 :=
  if '0' ≤ c ∧ c ≤ '9' then some (c.toNat - 48).toUInt8
  else if 'a' ≤ c ∧ c ≤ 'f' then some (c.toNat - 87).toUInt8
  else if 'A' ≤ c ∧ c ≤ 'F' then some (c.toNat - 55).toUInt8
  else none

/-- `bytes.fromhex`: pairs of digits, with white space between them. -/
def fromhex : List Char → Except String (List UInt8)
  | [] => .ok []
  | [c] => if asciiSpace c then .ok [] else .error "ValueError"
  | c :: d :: rest =>
    if asciiSpace c then fromhex (d :: rest)
    else match hexValue c, hexValue d with
      | some high, some low => ((16 * high + low) :: ·) <$> fromhex rest
      | _, _ => .error "ValueError"

/-- AES-GCM by key, nonce and plaintext, and the two keys. -/
structure Environment where
  aesgcm : List UInt8 → List UInt8 → List UInt8 → Except String (List UInt8)
  key : List UInt8
  blindIndexKey : String

/-- A cipher that hides nothing, and two keys. -/
def plainEnvironment : Environment where
  aesgcm _ _ message := .ok message
  key := []
  blindIndexKey := "00"

variable (env : Environment)

/-- Version, nonce and ciphertext. -/
def encryptValue (nonce : List UInt8) (plaintext : String) : Except String (List UInt8) := do
  let ciphertext ← env.aesgcm env.key nonce (Hashlib.encode plaintext)
  return 1 :: nonce ++ ciphertext

def computeBlindIndex (value fieldName : String) : Except String String := do
  if env.blindIndexKey = "" then
    .error "DPDP_BLIND_INDEX_KEY must be set for backfill migration"
  else
    let key ← fromhex env.blindIndexKey.toList
    let domainKey := Hashlib.digestBytes (Hashlib.sha256 (key ++ Hashlib.encode fieldName))
    return Hashlib.hmacHex domainKey (Hashlib.encode value)

theorem computeBlindIndex_plain (value fieldName : String) :
    ∃ idx, computeBlindIndex plainEnvironment value fieldName = .ok idx := by
  have hkey : fromhex plainEnvironment.blindIndexKey.toList = .ok [0] := by decide +kernel
  have hset : plainEnvironment.blindIndexKey ≠ "" := by decide
  rw [computeBlindIndex, if_neg hset, hkey]
  exact ⟨_, rfl⟩

/-! ## Rows -/

/-- A plaintext column, and whether it has a blind index under a field name. -/
structure PlaintextColumn where
  name : String
  fieldName : String
  hasIdx : Bool
  deriving DecidableEq

def PlaintextColumn.enc (c : PlaintextColumn) : String := c.name ++ "_enc"

def PlaintextColumn.idx (c : PlaintextColumn) : String := c.name ++ "_idx"

def anchors : List PlaintextColumn := [
  { name := "name", fieldName := "anchor_name", hasIdx := false },
  { name := "gstin", fieldName := "anchor_gstin", hasIdx := true }]

def vendors : List PlaintextColumn := [
  { name := "name", fieldName := "vendor_name", hasIdx := false },
  { name := "gstin", fieldName := "vendor_gstin", hasIdx := true },
  { name := "udyam_number", fieldName := "vendor_udyam", hasIdx := true }]

def loanApplications : List PlaintextColumn := [
  { name := "vendor_gstin", fieldName := "loan_vendor_gstin", hasIdx := true },
  { name := "anchor_gstin", fieldName := "loan_anchor_gstin", hasIdx := true }]

/-- The values that one column of a row adds to its update. -/
def columnUpdate (urandom : String → List UInt8) (row : Row) (updates : PyDict String Cell)
    (c : PlaintextColumn) : Except String (PyDict String Cell) :=
  match row.cells c.name with
  | none => .ok updates
  | some (.text value) => do
    let updates := PyDict.set updates c.enc (.bytes (← encryptValue env (urandom c.name) value))
    if c.hasIdx then
      return PyDict.set updates c.idx (.text (← computeBlindIndex env value c.fieldName))
    return updates
  | some _ => .error "AttributeError"

def updates (urandom : String → List UInt8) (columns : List PlaintextColumn) (row : Row) :
    Except String (PyDict String Cell) :=
  columns.foldlM (columnUpdate env urandom row) []

/-- `SET` of these columns. -/
def assign (updates : PyDict String Cell) (r : Row) : Row :=
  { r with cells := fun c => (PyDict.find? updates c).or (r.cells c) }

/-- One row of a page, as it was read. -/
def backfillRow (urandom : Uuid → String → List UInt8) (columns : List PlaintextColumn)
    (rows : List Row) (row : Row) : Except String (List Row) := do
  let updates ← updates env (urandom row.id) columns row
  return updateWhere (fun r => r.id = row.id) (assign updates) rows

/-! ## The loop -/

def batchSize : Nat := 1000

/-- Before the query of a page, or before the commit of its rows. -/
inductive Phase where
  | query
  | batch (page : List Row)
  | returned
  | raised (error : String)

/-- The committed rows of the table, and where the loop is. -/
structure State where
  rows : List Row
  offset : Nat := 0
  phase : Phase := .query

/-- By the bytes of the ids. -/
def position (r : Row) : Nat := r.id.int.toNat

/-- The query of a page, or its updates and their commit. No one sees the updates before, and
none stay if one fails. -/
def advance (columns : List PlaintextColumn) (urandom : Uuid → String → List UInt8) (s : State) :
    State :=
  match s.phase with
  | .query => match page position batchSize s.offset s.rows with
    | [] => { s with phase := .returned }
    | rows => { s with phase := .batch rows }
  | .batch rows => match rows.foldlM (backfillRow env urandom columns) s.rows with
    | .ok rows => { s with rows, offset := s.offset + batchSize, phase := .query }
    | .error e => { s with phase := .raised e }
  | .returned | .raised _ => s

/-! ## What the updates write -/

/-- The `_enc` and `_idx` columns of what is not null. -/
def Filled (columns : List PlaintextColumn) (r : Row) : Prop :=
  ∀ c ∈ columns, (r.cells c.name).isSome = true →
    (r.cells c.enc).isSome = true ∧ (c.hasIdx = true → (r.cells c.idx).isSome = true)

instance (columns : List PlaintextColumn) : DecidablePred (Filled columns) :=
  fun _ => inferInstanceAs (Decidable (∀ c ∈ columns, _ → _ ∧ (_ → _)))

/-- No column is plaintext and `_enc` or `_idx` of another. -/
def Separate (columns : List PlaintextColumn) : Prop :=
  ∀ c ∈ columns, ∀ c' ∈ columns, c.name ≠ c'.enc ∧ c.name ≠ c'.idx

instance : DecidablePred Separate :=
  fun columns => inferInstanceAs (Decidable (∀ c ∈ columns, ∀ c' ∈ columns, _ ∧ _))

/-- What a row adds to its update: values for all of its plaintext, and no others. -/
structure Updates (columns : List PlaintextColumn) (row : Row) (updates : PyDict String Cell) :
    Prop where
  filled : ∀ c ∈ columns, (row.cells c.name).isSome = true →
    (PyDict.find? updates c.enc).isSome = true ∧
      (c.hasIdx = true → (PyDict.find? updates c.idx).isSome = true)
  only : ∀ k, (PyDict.find? updates k).isSome = true → ∃ c ∈ columns, k = c.enc ∨ k = c.idx

section Rows

variable {env : Environment} {columns : List PlaintextColumn} {row r : Row}
  {d d' : PyDict String Cell}

theorem isSome_find?_set {k k' : String} {v : Cell} :
    (PyDict.find? (PyDict.set d k v) k').isSome = true ↔
      k' = k ∨ (PyDict.find? d k').isSome = true := by
  by_cases h : k' = k
  · simp [h]
  · simp [PyDict.find?_set_ne h, h]

theorem columnUpdate_ok {urandom : String → List UInt8} {c : PlaintextColumn}
    (h : columnUpdate env urandom row d c = .ok d') :
    (∀ k, (PyDict.find? d k).isSome = true → (PyDict.find? d' k).isSome = true) ∧
    (∀ k, (PyDict.find? d' k).isSome = true → (PyDict.find? d k).isSome = true ∨
      k = c.enc ∨ k = c.idx) ∧
    ((row.cells c.name).isSome = true → (PyDict.find? d' c.enc).isSome = true ∧
      (c.hasIdx = true → (PyDict.find? d' c.idx).isSome = true)) := by
  unfold columnUpdate at h
  split at h
  · rename_i hnull
    obtain rfl := Except.ok.inj h
    exact ⟨fun _ => id, fun _ => .inl, by simp [hnull]⟩
  · obtain ⟨enc, -, h⟩ := exists_of_bind_ok h
    split at h
    · obtain ⟨idx, -, h⟩ := exists_of_bind_ok h
      obtain rfl := Except.ok.inj h
      simp only [isSome_find?_set]
      grind
    · obtain rfl := Except.ok.inj h
      simp only [isSome_find?_set]
      grind
  · cases h

theorem updates_ok {urandom : String → List UInt8} (h : updates env urandom columns row = .ok d) :
    Updates columns row d := by
  have hloop : ∀ (columns : List PlaintextColumn) (d d' : PyDict String Cell),
      columns.foldlM (columnUpdate env urandom row) d = .ok d' →
      (∀ k, (PyDict.find? d k).isSome = true → (PyDict.find? d' k).isSome = true) ∧
      (∀ k, (PyDict.find? d' k).isSome = true → (PyDict.find? d k).isSome = true ∨
        ∃ c ∈ columns, k = c.enc ∨ k = c.idx) ∧
      ∀ c ∈ columns, (row.cells c.name).isSome = true → (PyDict.find? d' c.enc).isSome = true ∧
        (c.hasIdx = true → (PyDict.find? d' c.idx).isSome = true) := by
    intro columns
    induction columns with
    | nil =>
      intro d d' h
      obtain rfl := Except.ok.inj h
      exact ⟨fun _ => id, fun _ => .inl, nofun⟩
    | cons c columns ih =>
      intro d d' h
      obtain ⟨d₁, hcolumn, h⟩ := exists_of_bind_ok h
      obtain ⟨hkeep, honly, hfilled⟩ := columnUpdate_ok hcolumn
      obtain ⟨hkeep', honly', hfilled'⟩ := ih d₁ d' h
      refine ⟨fun k hk => hkeep' k (hkeep k hk), fun k hk => ?_, ?_⟩
      · rcases honly' k hk with hk | ⟨c', hc', hk⟩
        · exact (honly k hk).imp_right fun hk => ⟨c, .head _, hk⟩
        · exact .inr ⟨c', .tail _ hc', hk⟩
      · rw [List.forall_mem_cons]
        refine ⟨fun hsome => ?_, hfilled'⟩
        exact ⟨hkeep' _ (hfilled hsome).1, fun hidx => hkeep' _ ((hfilled hsome).2 hidx)⟩
  obtain ⟨-, honly, hfilled⟩ := hloop columns [] d h
  exact ⟨hfilled, fun k hk => (honly k hk).resolve_left (by simp)⟩

theorem assign_plaintext (hseparate : Separate columns) (h : Updates columns row d)
    {c : PlaintextColumn} (hc : c ∈ columns) : (assign d r).cells c.name = r.cells c.name := by
  have hnone : PyDict.find? d c.name = none := by
    rw [← Option.not_isSome_iff_eq_none]
    intro hsome
    obtain ⟨c', hc', hname⟩ := h.only _ hsome
    exact hname.elim (hseparate c hc c' hc').1 (hseparate c hc c' hc').2
  simp [assign, hnone]

theorem assign_isSome (k : String) : ((assign d r).cells k).isSome = true ↔
    (PyDict.find? d k).isSome = true ∨ (r.cells k).isSome = true := by
  simp [assign, Option.isSome_or]

/-- The row that the values were read from is filled, and no other one is emptied. -/
theorem filled_assign (hseparate : Separate columns) (h : Updates columns row d)
    (hr : Filled columns r ∨ ∀ c ∈ columns, r.cells c.name = row.cells c.name) :
    Filled columns (assign d r) := by
  intro c hc hsome
  rw [assign_plaintext hseparate h hc] at hsome
  rw [assign_isSome, assign_isSome]
  rcases hr with hr | hr
  · exact ⟨.inr (hr c hc hsome).1, fun hidx => .inr ((hr c hc hsome).2 hidx)⟩
  · obtain ⟨henc, hidx⟩ := h.filled c hc (hr c hc ▸ hsome)
    exact ⟨.inl henc, fun h => .inl (hidx h)⟩

/-- What a batch makes of a row. -/
structure Written (columns : List PlaintextColumn) (ids : List Uuid) (r r' : Row) : Prop where
  id : r'.id = r.id
  plaintext : ∀ c ∈ columns, r'.cells c.name = r.cells c.name
  filled : Filled columns r ∨ r.id ∈ ids → Filled columns r'
  other : r.id ∉ ids → r' = r

theorem Written.refl : Written columns [] r r where
  id := rfl
  plaintext _ _ := rfl
  filled h := h.resolve_right List.not_mem_nil
  other _ := rfl

theorem Written.cons {i : Uuid} {ids : List Uuid} {r' r'' : Row} (h : Written columns [i] r r')
    (h' : Written columns ids r' r'') : Written columns (i :: ids) r r'' where
  id := h'.id.trans h.id
  plaintext c hc := (h'.plaintext c hc).trans (h.plaintext c hc)
  filled hr := by
    rw [List.mem_cons, ← or_assoc] at hr
    refine h'.filled (hr.imp (fun hr => h.filled ?_) fun hmem => h.id ▸ hmem)
    exact hr.imp_right List.mem_singleton.mpr
  other hr := by
    rw [List.mem_cons, not_or] at hr
    have hfirst := h.other (by simpa using hr.1)
    rw [h'.other (h.id ▸ hr.2), hfirst]

/-- One update of the table. -/
theorem written_assign (hseparate : Separate columns) (h : Updates columns row d)
    (hsame : r.id = row.id → ∀ c ∈ columns, r.cells c.name = row.cells c.name) :
    Written columns [row.id] r (if r.id = row.id then assign d r else r) := by
  by_cases hid : r.id = row.id
  · rw [if_pos hid]
    refine ⟨rfl, fun c hc => assign_plaintext hseparate h hc, fun _ => ?_, fun hne => ?_⟩
    · exact filled_assign hseparate h (.inr (hsame hid))
    · exact absurd (List.mem_singleton.mpr hid) hne
  · rw [if_neg hid]
    refine ⟨rfl, fun _ _ => rfl, fun hr => hr.resolve_right ?_, fun _ => rfl⟩
    exact fun hmem => hid (List.mem_singleton.mp hmem)

end Rows

/-- **Loop lemma.** A batch fills the rows of its page. -/
theorem batch_written {env : Environment} {columns : List PlaintextColumn}
    {urandom : Uuid → String → List UInt8} (hseparate : Separate columns) {page rows rows' : List Row}
    (hpage : ∀ p ∈ page, ∀ r ∈ rows, r.id = p.id → ∀ c ∈ columns, r.cells c.name = p.cells c.name)
    (h : page.foldlM (backfillRow env urandom columns) rows = .ok rows') :
    ∃ f : Row → Row, rows' = rows.map f ∧
      ∀ r ∈ rows, Written columns (page.map Schema.Row.id) r (f r) := by
  induction page generalizing rows with
  | nil =>
    obtain rfl := Except.ok.inj h
    exact ⟨id, (List.map_id _).symm, fun r _ => .refl⟩
  | cons p page ih =>
    obtain ⟨rows₁, hrow, h⟩ := exists_of_bind_ok h
    obtain ⟨d, hupdates, hrow⟩ := exists_of_bind_ok hrow
    obtain rfl := Except.ok.inj hrow
    rw [List.forall_mem_cons] at hpage
    have hrows : updateWhere (fun r => r.id = p.id) (assign d) rows =
        rows.map fun r => if r.id = p.id then assign d r else r := by
      simp only [updateWhere, decide_eq_true_eq]
    have hfirst : ∀ r ∈ rows, Written columns [p.id] r (if r.id = p.id then assign d r else r) :=
      fun r hr => written_assign hseparate (updates_ok hupdates) (hpage.1 r hr)
    rw [hrows] at h
    obtain ⟨f, rfl, hf⟩ := ih (by
      intro q hq r' hr' hid c hc
      obtain ⟨r, hr, rfl⟩ := List.mem_map.mp hr'
      rw [(hfirst r hr).plaintext c hc]
      exact hpage.2 q hq r hr ((hfirst r hr).id ▸ hid) c hc) h
    refine ⟨fun r => f (if r.id = p.id then assign d r else r), List.map_map, fun r hr => ?_⟩
    exact (hfirst r hr).cons (hf _ (List.mem_map_of_mem hr))

end OcenPlatform.Db.Backfill
