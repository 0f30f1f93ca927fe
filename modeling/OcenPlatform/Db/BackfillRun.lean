import OcenPlatform.Db.ConcurrentInserts
import OcenPlatform.Encoding.TextFile

/-! The backfill of a table that no one else writes. It can be interrupted and started again: what
a batch has committed stays, and what it has not is lost. -/

namespace OcenPlatform.Db.Backfill.Restarts

open Hashlib (encode)
open Migrations (Row Cell)
open Paging

/-! ## Fetched rows -/

/-- A value of a fetched row. -/
inductive Fetched where
  | id (rowId : Uuid)
  | value (cell : Option Cell)

/-- `SELECT id, {col_list}`. -/
def fetch (columns : List PlaintextColumn) (r : Row) : List Fetched :=
  .id r.id :: columns.map fun c => .value (r.cells c.name)

/-- `value = row[i + 1]` of a column, and what it adds to the update. -/
def columnUpdateAt (env : Environment) (urandom : String → List UInt8) (row : List Fetched)
    (updates : PyDict String Cell) (column : PlaintextColumn × Nat) :
    Except String (PyDict String Cell) :=
  match row[column.2 + 1]? with
  | some (.value cell) =>
    columnUpdate env urandom { id := ⟨0⟩, cells := fun _ => cell } updates column.1
  | some (.id _) => .error "AttributeError"
  | none => .error "IndexError"

/-- `for i, (col_name, field_name, has_idx) in enumerate(columns)`. -/
def updatesAt (env : Environment) (urandom : String → List UInt8) (columns : List PlaintextColumn)
    (row : List Fetched) : Except String (PyDict String Cell) :=
  columns.zipIdx.foldlM (columnUpdateAt env urandom row) []

theorem foldlM_zipIdx {α σ : Type} {f : σ → α → Except String σ} {g : σ → α × Nat → Except String σ}
    {l : List α} {n : Nat} (h : ∀ a i, l[i]? = some a → ∀ d, g d (a, n + i) = f d a) (d : σ) :
    (l.zipIdx n).foldlM g d = l.foldlM f d := by
  induction l generalizing n d with
  | nil => rfl
  | cons a l ih =>
    have hrest : ∀ b i, l[i]? = some b → ∀ d, g d (b, n + 1 + i) = f d b := by
      intro b i hb d
      rw [Nat.add_assoc, Nat.add_comm 1 i]
      exact h b (i + 1) hb d
    rw [List.zipIdx_cons, List.foldlM_cons, List.foldlM_cons, ← h a 0 rfl d]
    exact congrArg (g d (a, n) >>= ·) (funext fun d' => ih hrest d')

/-- The positions are those of the columns. -/
theorem updatesAt_fetch (env : Environment) (urandom : String → List UInt8)
    (columns : List PlaintextColumn) (r : Row) :
    updatesAt env urandom columns (fetch columns r) = updates env urandom columns r := by
  refine foldlM_zipIdx (fun c i hc d => ?_) []
  have hvalue : (fetch columns r)[i + 1]? = some (.value (r.cells c.name)) := by
    rw [fetch, List.getElem?_cons_succ, List.getElem?_map, hc, Option.map_some]
  simp only [columnUpdateAt, Nat.zero_add, hvalue, columnUpdate]

/-- One fetched row of a page. Its id is `row[0]`. -/
def backfillRowAt (env : Environment) (urandom : Uuid → String → List UInt8)
    (columns : List PlaintextColumn) (rows : List Row) (row : List Fetched) :
    Except String (List Row) :=
  match row with
  | .id rowId :: _ => do
    let updates ← updatesAt env (urandom rowId) columns row
    return updateWhere (fun r => r.id = rowId) (assign updates) rows
  | .value _ :: _ => .error "DataError"
  | [] => .error "IndexError"

/-- The loop, over fetched rows. -/
def advanceAt (env : Environment) (columns : List PlaintextColumn)
    (urandom : Uuid → String → List UInt8) (s : State) : State :=
  match s.phase with
  | .query => match page position batchSize s.offset s.rows with
    | [] => { s with phase := .returned }
    | rows => { s with phase := .batch rows }
  | .batch page =>
    match (page.map (fetch columns)).foldlM (backfillRowAt env urandom columns) s.rows with
    | .ok rows => { s with rows, offset := s.offset + batchSize, phase := .query }
    | .error e => { s with phase := .raised e }
  | .returned | .raised _ => s

theorem backfillRowAt_fetch (env : Environment) (urandom : Uuid → String → List UInt8)
    (columns : List PlaintextColumn) (rows : List Row) (r : Row) :
    backfillRowAt env urandom columns rows (fetch columns r) =
      backfillRow env urandom columns rows r := by
  rw [backfillRow, ← updatesAt_fetch]
  rfl

/-- Access by position is access by name. -/
theorem advanceAt_eq (env : Environment) (columns : List PlaintextColumn)
    (urandom : Uuid → String → List UInt8) (s : State) :
    advanceAt env columns urandom s = advance env columns urandom s := by
  have hbatch : ∀ page : List Row,
      (page.map (fetch columns)).foldlM (backfillRowAt env urandom columns) s.rows =
        page.foldlM (backfillRow env urandom columns) s.rows := by
    intro page
    rw [List.foldlM_map]
    simp only [backfillRowAt_fetch]
  simp only [advanceAt, hbatch]
  rfl

/-! ## Decryption -/

/-- The decryption of what `_encrypt_value` makes: version, nonce and ciphertext. -/
def decryptValue (aesgcmDecrypt : List UInt8 → List UInt8 → List UInt8 → Except String (List UInt8))
    (key : List UInt8) : List UInt8 → Except String String
  | [] => .error "ValueError"
  | version :: value =>
    if version = 1 then do
      TextFile.decode (← aesgcmDecrypt key (value.take 12) (value.drop 12))
    else .error "ValueError"

/-- The environment of a migration: its ciphers and keys, and what decrypts. -/
structure Ciphers extends Environment where
  aesgcmDecrypt : List UInt8 → List UInt8 → List UInt8 → Except String (List UInt8)

variable (env : Ciphers) (columns : List PlaintextColumn)

/-- A text that AES-GCM encrypts under the key and any nonce, and that decryption gives back. -/
def Undone (text : String) : Prop :=
  ∀ nonce : List UInt8, nonce.length = 12 → ∃ ciphertext,
    env.aesgcm env.key nonce (encode text) = .ok ciphertext ∧
      env.aesgcmDecrypt env.key nonce ciphertext = .ok (encode text)

/-- The plaintext of the row is texts that encryption takes and decryption gives back. -/
def Encryptable (r : Row) : Prop :=
  ∀ c ∈ columns, ∀ cell, r.cells c.name = some cell → ∃ text, cell = .text text ∧ Undone env text

/-- `DPDP_BLIND_INDEX_KEY` is set, to a hexadecimal text. -/
def BlindIndexKeySet : Prop :=
  env.blindIndexKey ≠ "" ∧ ∃ key, fromhex env.blindIndexKey.toList = .ok key

/-- No two columns have one name, and no column is plaintext and `_enc` or `_idx` of another. -/
structure WellNamed : Prop where
  names : (columns.map PlaintextColumn.name).Nodup
  separate : Separate columns

/-! ## The update of a row -/

/-- The update of a row writes this column on account of this plaintext column. -/
def Target (r : Row) (c : PlaintextColumn) (k : String) : Prop :=
  (r.cells c.name).isSome = true ∧ (k = c.enc ∨ c.hasIdx = true ∧ k = c.idx)

/-- The `_enc` value decrypts to the text, and the `_idx` value is its blind index. -/
def Encrypted (text : String) (c : PlaintextColumn) (cells : String → Option Cell) : Prop :=
  (∃ value, cells c.enc = some (.bytes value) ∧
    decryptValue env.aesgcmDecrypt env.key value = .ok text) ∧
  (c.hasIdx = true → ∃ idx, computeBlindIndex env.toEnvironment text c.fieldName = .ok idx ∧
    cells c.idx = some (.text idx))

section Columns

variable {env columns} {urandom : String → List UInt8} {r : Row} {c c' : PlaintextColumn}
  {text : String} {d : PyDict String Cell}

theorem enc_ne_idx (c c' : PlaintextColumn) : c.enc ≠ c'.idx := by
  intro h
  have hlast := congrArg (fun s => s.toList.getLast?) h
  simp [PlaintextColumn.enc, PlaintextColumn.idx] at hlast

theorem name_eq_of_enc (h : c.enc = c'.enc) : c.name = c'.name := by
  have hlist := congrArg String.toList h
  rw [PlaintextColumn.enc, PlaintextColumn.enc, String.toList_append, String.toList_append] at hlist
  exact String.toList_inj.mp (List.append_cancel_right hlist)

theorem name_eq_of_idx (h : c.idx = c'.idx) : c.name = c'.name := by
  have hlist := congrArg String.toList h
  rw [PlaintextColumn.idx, PlaintextColumn.idx, String.toList_append, String.toList_append] at hlist
  exact String.toList_inj.mp (List.append_cancel_right hlist)

/-- Columns of different names have no target in common. -/
theorem not_target_of_ne {k : String} (hname : c.name ≠ c'.name) (h : k = c.enc ∨ k = c.idx) :
    ¬ Target r c' k := by
  rintro ⟨-, h'⟩
  rcases h with rfl | rfl <;> rcases h' with h' | ⟨-, h'⟩
  · exact hname (name_eq_of_enc h')
  · exact enc_ne_idx c c' h'
  · exact enc_ne_idx c' c h'.symm
  · exact hname (name_eq_of_idx h')

theorem encryptValue_undone (h : Undone env text) {nonce : List UInt8} (hnonce : nonce.length = 12) :
    ∃ value, encryptValue env.toEnvironment nonce text = .ok value ∧
      decryptValue env.aesgcmDecrypt env.key value = .ok text := by
  obtain ⟨ciphertext, hencrypt, hdecrypt⟩ := h nonce hnonce
  refine ⟨1 :: nonce ++ ciphertext, by rw [encryptValue, hencrypt]; rfl, ?_⟩
  have htake : (nonce ++ ciphertext).take 12 = nonce := List.take_left' hnonce
  have hdrop : (nonce ++ ciphertext).drop 12 = ciphertext := List.drop_left' hnonce
  rw [List.cons_append, decryptValue, if_pos rfl, htake, hdrop, hdecrypt]
  exact TextFile.decode_eq_ok_iff.mpr rfl

theorem exists_blindIndex (hkey : BlindIndexKeySet env) (value fieldName : String) :
    ∃ idx, computeBlindIndex env.toEnvironment value fieldName = .ok idx := by
  obtain ⟨hset, key, hhex⟩ := hkey
  rw [computeBlindIndex, if_neg hset, hhex]
  exact ⟨_, rfl⟩

/-- One column: it writes its targets and leaves all else. -/
theorem columnUpdate_exact (hkey : BlindIndexKeySet env) (hnonce : (urandom c.name).length = 12)
    (hplain : ∀ cell, r.cells c.name = some cell → ∃ text, cell = .text text ∧ Undone env text)
    (d : PyDict String Cell) : ∃ d', columnUpdate env.toEnvironment urandom r d c = .ok d' ∧
      (∀ text, r.cells c.name = some (.text text) → Encrypted env text c (PyDict.find? d')) ∧
      ∀ k, ¬ Target r c k → PyDict.find? d' k = PyDict.find? d k := by
  cases hcell : r.cells c.name with
  | none => exact ⟨d, by rw [columnUpdate, hcell], nofun, fun _ _ => rfl⟩
  | some cell =>
    obtain ⟨text, rfl, hundone⟩ := hplain cell hcell
    obtain ⟨value, hencrypt, hdecrypt⟩ := encryptValue_undone hundone hnonce
    obtain ⟨idx, hidx⟩ := exists_blindIndex hkey text c.fieldName
    have hsome : (r.cells c.name).isSome = true := by rw [hcell]; rfl
    cases hhas : c.hasIdx with
    | false =>
      refine ⟨PyDict.set d c.enc (.bytes value), ?_, ?_, fun k hk => ?_⟩
      · simp only [columnUpdate, hcell, hencrypt, hhas]
        rfl
      · rintro text' htext'
        obtain rfl := Cell.text.inj (Option.some.inj htext')
        exact ⟨⟨value, PyDict.find?_set_self, hdecrypt⟩, by simp [hhas]⟩
      · exact PyDict.find?_set_ne fun hk' => hk ⟨hsome, .inl hk'⟩
    | true =>
      refine ⟨PyDict.set (PyDict.set d c.enc (.bytes value)) c.idx (.text idx), ?_, ?_, fun k hk => ?_⟩
      · simp only [columnUpdate, hcell, hencrypt, hidx, hhas]
        rfl
      · rintro text' htext'
        obtain rfl := Cell.text.inj (Option.some.inj htext')
        refine ⟨⟨value, ?_, hdecrypt⟩, fun _ => ⟨idx, hidx, PyDict.find?_set_self⟩⟩
        rw [PyDict.find?_set_ne (enc_ne_idx c c), PyDict.find?_set_self]
      · rw [PyDict.find?_set_ne fun hk' => hk ⟨hsome, .inr ⟨hhas, hk'⟩⟩,
          PyDict.find?_set_ne fun hk' => hk ⟨hsome, .inl hk'⟩]

theorem Encrypted.congr {cells cells' : String → Option Cell} (h : Encrypted env text c cells)
    (henc : cells' c.enc = cells c.enc) (hidx : cells' c.idx = cells c.idx) :
    Encrypted env text c cells' := by
  unfold Encrypted
  rw [henc, hidx]
  exact h

/-- **Loop lemma.** The columns write their targets, and none writes a target of another. -/
theorem updates_exact (hkey : BlindIndexKeySet env) (hnonce : ∀ name, (urandom name).length = 12)
    (hnames : (columns.map PlaintextColumn.name).Nodup) (hplain : Encryptable env columns r)
    (d : PyDict String Cell) :
    ∃ d', columns.foldlM (columnUpdate env.toEnvironment urandom r) d = .ok d' ∧
      (∀ c ∈ columns, ∀ text, r.cells c.name = some (.text text) →
        Encrypted env text c (PyDict.find? d')) ∧
      ∀ k, (∀ c ∈ columns, ¬ Target r c k) → PyDict.find? d' k = PyDict.find? d k := by
  induction columns generalizing d with
  | nil => exact ⟨d, rfl, nofun, fun _ _ => rfl⟩
  | cons c columns ih =>
    rw [List.map_cons, List.nodup_cons] at hnames
    obtain ⟨hnew, hnames⟩ := hnames
    obtain ⟨d₁, hcolumn, hencrypted, hkeep⟩ := columnUpdate_exact hkey (hnonce c.name) (hplain c (.head _)) d
    obtain ⟨d', hcolumns, hencrypted', hkeep'⟩ := ih hnames (fun c' hc' => hplain c' (.tail _ hc')) d₁
    refine ⟨d', by rw [List.foldlM_cons, hcolumn]; exact hcolumns, ?_, fun k hk => ?_⟩
    · have hother : ∀ k, k = c.enc ∨ k = c.idx → PyDict.find? d' k = PyDict.find? d₁ k := by
        intro k hk
        refine hkeep' k fun c' hc' => not_target_of_ne (fun hname => hnew ?_) hk
        exact hname ▸ List.mem_map_of_mem hc'
      rw [List.forall_mem_cons]
      refine ⟨fun text htext => ?_, hencrypted'⟩
      exact (hencrypted text htext).congr (hother _ (.inl rfl)) (hother _ (.inr rfl))
    · rw [List.forall_mem_cons] at hk
      rw [hkeep' k hk.2, hkeep k hk.1]

end Columns

/-! ## Rows -/

/-- What the migration does not write on account of a plaintext that is not null is as it was. -/
structure Kept (r r' : Row) : Prop where
  id : r'.id = r.id
  untouched : ∀ k, (∀ c ∈ columns, ¬ Target r c k) → r'.cells k = r.cells k

/-- And all plaintext of the row is encrypted. -/
structure Backfilled (r r' : Row) : Prop extends Kept columns r r' where
  encrypted : ∀ c ∈ columns, ∀ text, r.cells c.name = some (.text text) →
    Encrypted env text c r'.cells

section Rows

variable {env columns} {urandom : String → List UInt8} {r r' p : Row} {rows page : List Row}
  {c : PlaintextColumn} {k : String}

theorem Kept.refl (r : Row) : Kept columns r r := ⟨rfl, fun _ _ => rfl⟩

/-- The plaintext stays. -/
theorem Kept.plaintext (h : Kept columns r r') (hseparate : Separate columns) (hc : c ∈ columns) :
    r'.cells c.name = r.cells c.name := by
  refine h.untouched c.name fun c' hc' htarget => ?_
  rcases htarget with ⟨-, henc | ⟨-, hidx⟩⟩
  · exact (hseparate c hc c' hc').1 henc
  · exact (hseparate c hc c' hc').2 hidx

theorem Kept.target_iff (h : Kept columns r r') (hseparate : Separate columns) (hc : c ∈ columns) :
    Target r' c k ↔ Target r c k := by
  unfold Target
  rw [h.plaintext hseparate hc]

theorem Kept.encryptable (h : Kept columns r r') (hseparate : Separate columns)
    (hplain : Encryptable env columns r) : Encryptable env columns r' := by
  intro c hc cell hcell
  rw [h.plaintext hseparate hc] at hcell
  exact hplain c hc cell hcell

theorem assign_of_some {d : PyDict String Cell} {cell : Cell} (h : PyDict.find? d k = some cell) :
    (assign d r).cells k = some cell := by
  simp only [assign, h, Option.some_or]

theorem assign_of_none {d : PyDict String Cell} (h : PyDict.find? d k = none) :
    (assign d r).cells k = r.cells k := by
  simp only [assign, h, Option.none_or]

theorem Encrypted.assign {d : PyDict String Cell} {text : String}
    (h : Encrypted env text c (PyDict.find? d)) : Encrypted env text c (assign d r).cells := by
  obtain ⟨⟨value, henc, hdecrypt⟩, hidx⟩ := h
  refine ⟨⟨value, assign_of_some henc, hdecrypt⟩, fun hhas => ?_⟩
  obtain ⟨idx, hcompute, hfind⟩ := hidx hhas
  exact ⟨idx, hcompute, assign_of_some hfind⟩

/-- The update that a row gives, as it was read, backfills the row, as it is now. -/
theorem exists_updates (hkey : BlindIndexKeySet env) (hnonce : ∀ name, (urandom name).length = 12)
    (hcolumns : WellNamed columns) (hplain : Encryptable env columns r) (hp : Kept columns r p) :
    ∃ d, updates env.toEnvironment urandom columns p = .ok d ∧
      ∀ r', Kept columns r r' → Backfilled env columns r (assign d r') := by
  obtain ⟨hnames, hseparate⟩ := hcolumns
  obtain ⟨d, hupdates, hencrypted, hkeep⟩ :=
    updates_exact hkey hnonce hnames (hp.encryptable hseparate hplain) []
  refine ⟨d, hupdates, fun r' hr' => ⟨⟨hr'.id, fun k hk => ?_⟩, fun c hc text htext => ?_⟩⟩
  · have hnone : PyDict.find? d k = none := hkeep k fun c hc =>
      (hp.target_iff hseparate hc).not.mpr (hk c hc)
    rw [assign_of_none hnone]
    exact hr'.untouched k hk
  · exact (hencrypted c hc text ((hp.plaintext hseparate hc).trans htext)).assign

/-- The rows after one more `UPDATE`. -/
def updated (f : Row → Row) (id : Uuid) (d : PyDict String Cell) (r : Row) : Row :=
  if (f r).id = id then assign d (f r) else f r

theorem backfillRow_map {urandom : Uuid → String → List UInt8} {d : PyDict String Cell}
    (h : updates env.toEnvironment (urandom p.id) columns p = .ok d) (f : Row → Row) :
    backfillRow env.toEnvironment urandom columns (rows.map f) p = .ok (rows.map (updated f p.id d)) := by
  rw [backfillRow, h]
  simp only [updateWhere, decide_eq_true_eq, List.map_map]
  rfl

/-- The ids are unique: an `UPDATE` backfills the row that its values were read from. -/
theorem updated_row {d : PyDict String Cell} {f : Row → Row} (hunique : (rows.map Schema.Row.id).Nodup)
    (hr : r ∈ rows) (hf : Kept columns r (f r)) {r₀ : Row} (hr₀ : r₀ ∈ rows) (hp : p.id = r₀.id)
    (hd : ∀ r', Kept columns r₀ r' → Backfilled env columns r₀ (assign d r')) :
    Kept columns r (updated f p.id d r) ∧ (Backfilled env columns r (f r) ∨ r.id = p.id →
      Backfilled env columns r (updated f p.id d r)) := by
  by_cases hid : (f r).id = p.id
  · obtain rfl : r = r₀ := List.inj_on_of_nodup_map hunique hr hr₀ (by rw [← hf.id, hid, hp])
    have hbackfilled := hd (f r) hf
    rw [updated, if_pos hid]
    exact ⟨hbackfilled.toKept, fun _ => hbackfilled⟩
  · rw [updated, if_neg hid]
    exact ⟨hf, fun h => h.resolve_right (hf.id ▸ hid)⟩

/-- **Loop lemma.** A batch is written, and backfills the rows of its page. -/
theorem batch_exact {urandom : Uuid → String → List UInt8} (hkey : BlindIndexKeySet env)
    (hnonce : ∀ id name, (urandom id name).length = 12) (hcolumns : WellNamed columns)
    (hunique : (rows.map Schema.Row.id).Nodup) (hplain : ∀ r ∈ rows, Encryptable env columns r)
    (hpage : ∀ p ∈ page, ∃ r ∈ rows, Kept columns r p) {f : Row → Row}
    (hf : ∀ r ∈ rows, Kept columns r (f r)) :
    ∃ g, page.foldlM (backfillRow env.toEnvironment urandom columns) (rows.map f) = .ok (rows.map g) ∧
      ∀ r ∈ rows, Kept columns r (g r) ∧
        (Backfilled env columns r (f r) ∨ r.id ∈ page.map Schema.Row.id →
          Backfilled env columns r (g r)) := by
  induction page generalizing f with
  | nil => exact ⟨f, rfl, fun r hr => ⟨hf r hr, fun h => h.resolve_right List.not_mem_nil⟩⟩
  | cons p page ih =>
    rw [List.forall_mem_cons] at hpage
    obtain ⟨⟨r₀, hr₀, hp⟩, hpage⟩ := hpage
    obtain ⟨d, hupdates, hd⟩ := exists_updates hkey (hnonce p.id) hcolumns (hplain r₀ hr₀) hp
    have hfirst := fun r (hr : r ∈ rows) => updated_row hunique hr (hf r hr) hr₀ hp.id hd
    obtain ⟨g, hg, hrest⟩ := ih hpage fun r hr => (hfirst r hr).1
    refine ⟨g, ?_, fun r hr => ⟨(hrest r hr).1, fun h => (hrest r hr).2 ?_⟩⟩
    · rw [List.foldlM_cons, backfillRow_map hupdates]
      exact hg
    · rw [List.map_cons, List.mem_cons, ← or_assoc] at h
      exact h.imp_left (hfirst r hr).2

end Rows

/-! ## Runs -/

/-- `os.urandom(12)`, whenever a batch calls it. -/
abbrev Urandom := { urandom : Uuid → String → List UInt8 // ∀ id name, (urandom id name).length = 12 }

inductive Event where
  | advance (urandom : Urandom)
  /-- The migration is interrupted, wherever it is, and started again. -/
  | restart

def step (s : State) : Event → State
  | .advance urandom => advanceAt env.toEnvironment columns urandom.1 s
  | .restart => { rows := s.rows }

def run (rows : List Row) (events : List Event) : State := events.foldl (step env columns) { rows }

/-- The row is in the page at hand or in one still to come. -/
def Pending (s : State) (i : Uuid) : Prop :=
  match s.phase with
  | .query => s.offset ≤ rank position s.rows i.int.toNat
  | .batch page => i ∈ page.map Schema.Row.id ∨
      s.offset + batchSize ≤ rank position s.rows i.int.toNat
  | .returned | .raised _ => False

/-- **Invariant.** Rows `rows` have become `f`; what is not backfilled is pending. -/
structure Inv (rows : List Row) (f : Row → Row) (s : State) : Prop where
  rows_eq : s.rows = rows.map f
  sound : Sound s
  kept : ∀ r ∈ rows, Kept columns r (f r)
  progress : ∀ r ∈ rows, Backfilled env columns r (f r) ∨ Pending s r.id
  raised : ∀ e, s.phase ≠ .raised e

section Steps

variable {env columns} {rows : List Row} {f : Row → Row} {s : State}

theorem Inv.ids_eq (h : Inv env columns rows f s) : s.ids = rows.map Schema.Row.id := by
  rw [State.ids, h.rows_eq, List.map_map]
  exact List.map_congr_left fun r hr => (h.kept r hr).id

theorem Inv.mem_ids (h : Inv env columns rows f s) {r : Row} (hr : r ∈ rows) : r.id ∈ s.ids := by
  rw [h.ids_eq]
  exact List.mem_map_of_mem hr

/-- Positions are by ids. -/
theorem rank_of_ids {rows rows' : List Row} (h : rows'.map Schema.Row.id = rows.map Schema.Row.id)
    (k : Nat) : rank position rows' k = rank position rows k := by
  have hpositions : ∀ rows : List Row,
      rows.map position = (rows.map Schema.Row.id).map fun id => id.int.toNat := fun rows => by
    rw [List.map_map]
    rfl
  exact rank_congr (by rw [hpositions, hpositions, h]) k

theorem inv_start (hunique : (rows.map Schema.Row.id).Nodup) : Inv env columns rows id { rows } where
  rows_eq := (List.map_id rows).symm
  sound := ⟨hunique, nofun⟩
  kept r _ := .refl r
  progress _ _ := .inr (Nat.zero_le _)
  raised := nofun

/-- What is committed stays, and every row is pending again. -/
theorem Inv.restart (h : Inv env columns rows f s) : Inv env columns rows f { rows := s.rows } where
  rows_eq := h.rows_eq
  sound := ⟨h.sound.unique, nofun⟩
  kept := h.kept
  progress _ _ := .inr (Nat.zero_le _)
  raised := nofun

/-- The query finds no page any more: nothing is pending. -/
theorem Inv.last (h : Inv env columns rows f s) (hphase : s.phase = .query)
    (hpage : page position batchSize s.offset s.rows = []) :
    Inv env columns rows f { s with phase := .returned } where
  rows_eq := h.rows_eq
  sound := ⟨h.sound.unique, nofun⟩
  kept := h.kept
  progress r hr := by
    refine .inl ((h.progress r hr).resolve_right fun hpending => ?_)
    obtain ⟨r', hr', hid⟩ := List.mem_map.mp (h.mem_ids hr)
    have hlt := rank_lt_of_page_eq_nil (by decide) hpage hr'
    simp only [Pending, hphase] at hpending
    rw [← hid] at hpending
    exact absurd hlt (Nat.not_lt.mpr hpending)
  raised := nofun

/-- The query of a page: what is pending is on it or after it. -/
theorem Inv.read (h : Inv env columns rows f s) (hphase : s.phase = .query) :
    Inv env columns rows f { s with phase := .batch (page position batchSize s.offset s.rows) } where
  rows_eq := h.rows_eq
  sound := by
    refine ⟨h.sound.unique, fun page hpage p hp => ?_⟩
    obtain rfl := Phase.batch.inj hpage
    exact ((mem_page_iff h.sound.positions).mp hp).1
  kept := h.kept
  progress r hr := by
    refine (h.progress r hr).imp_right fun hpending => ?_
    simp only [Pending, hphase] at hpending
    simp only [Pending, mem_page_ids_iff h.sound (h.mem_ids hr)]
    omega
  raised := nofun

/-- The commit of a batch. -/
theorem Inv.batch (h : Inv env columns rows f s) {page : List Row} (hphase : s.phase = .batch page)
    {urandom : Uuid → String → List UInt8} (hkey : BlindIndexKeySet env)
    (hnonce : ∀ id name, (urandom id name).length = 12) (hcolumns : WellNamed columns)
    (hunique : (rows.map Schema.Row.id).Nodup) (hplain : ∀ r ∈ rows, Encryptable env columns r) :
    ∃ g, page.foldlM (backfillRow env.toEnvironment urandom columns) s.rows = .ok (rows.map g) ∧
      Inv env columns rows g { rows := rows.map g, offset := s.offset + batchSize } := by
  have hpage : ∀ p ∈ page, ∃ r ∈ rows, Kept columns r p := by
    intro p hp
    have hmem := h.sound.page page hphase p hp
    rw [h.rows_eq] at hmem
    obtain ⟨r, hr, rfl⟩ := List.mem_map.mp hmem
    exact ⟨r, hr, h.kept r hr⟩
  obtain ⟨g, hbatch, hg⟩ := batch_exact hkey hnonce hcolumns hunique hplain hpage h.kept
  have hids : (rows.map g).map Schema.Row.id = s.rows.map Schema.Row.id := by
    rw [List.map_map]
    refine Eq.trans ?_ h.ids_eq.symm
    exact List.map_congr_left fun r hr => (hg r hr).1.id
  refine ⟨g, by rw [h.rows_eq]; exact hbatch, rfl, ⟨?_, nofun⟩, fun r hr => (hg r hr).1,
    fun r hr => ?_, nofun⟩
  · rw [State.ids, hids]
    exact h.sound.unique
  · rcases h.progress r hr with hdone | hpending
    · exact .inl ((hg r hr).2 (.inl hdone))
    · simp only [Pending, hphase] at hpending
      refine hpending.imp (fun hmem => (hg r hr).2 (.inr hmem)) fun hafter => ?_
      simp only [Pending, rank_of_ids hids]
      exact hafter

theorem advance_last {urandom : Uuid → String → List UInt8} (hphase : s.phase = .query)
    (hpage : page position batchSize s.offset s.rows = []) :
    advance env.toEnvironment columns urandom s = { s with phase := .returned } := by
  simp only [advance, hphase, hpage]

theorem advance_read {urandom : Uuid → String → List UInt8} (hphase : s.phase = .query)
    (hpage : page position batchSize s.offset s.rows ≠ []) :
    advance env.toEnvironment columns urandom s =
      { s with phase := .batch (page position batchSize s.offset s.rows) } := by
  obtain ⟨r, page', hcons⟩ := List.exists_cons_of_ne_nil hpage
  simp only [advance, hphase, hcons]

theorem advance_batch {urandom : Uuid → String → List UInt8} {page rows' : List Row}
    (hphase : s.phase = .batch page)
    (hbatch : page.foldlM (backfillRow env.toEnvironment urandom columns) s.rows = .ok rows') :
    advance env.toEnvironment columns urandom s = { rows := rows', offset := s.offset + batchSize } := by
  simp only [advance, hphase, hbatch]

theorem advance_returned {urandom : Uuid → String → List UInt8} (hphase : s.phase = .returned) :
    advance env.toEnvironment columns urandom s = s := by
  simp only [advance, hphase]

end Steps

/-! ## Termination -/

/-- The pages that `count` rows fill. -/
def pages (count : Nat) : Nat := (count + (batchSize - 1)) / batchSize

/-- How many steps are left. -/
def remaining (s : State) : Nat :=
  match s.phase with
  | .query => 2 * pages (s.rows.length - s.offset) + 1
  | .batch _ => 2 * pages (s.rows.length - (s.offset + batchSize)) + 2
  | .returned | .raised _ => 0

section Termination

variable {env columns} {rows : List Row} {f : Row → Row} {s : State}

/-- **Step lemma.** -/
theorem Inv.advance (h : Inv env columns rows f s) (hkey : BlindIndexKeySet env)
    (hcolumns : WellNamed columns) (hunique : (rows.map Schema.Row.id).Nodup)
    (hplain : ∀ r ∈ rows, Encryptable env columns r) (urandom : Urandom) :
    (∃ g, Inv env columns rows g (Backfill.advance env.toEnvironment columns urandom.1 s)) ∧
      (s.phase = .returned ∨
        remaining (Backfill.advance env.toEnvironment columns urandom.1 s) < remaining s) := by
  cases hphase : s.phase with
  | query =>
    by_cases hpage : page position batchSize s.offset s.rows = []
    · rw [advance_last hphase hpage]
      refine ⟨⟨f, h.last hphase hpage⟩, .inr ?_⟩
      simp only [remaining, hphase]
      omega
    · have hlt : s.offset < s.rows.length := by
        by_contra hle
        exact hpage (page_eq_nil (Nat.le_of_not_lt hle))
      rw [advance_read hphase hpage]
      refine ⟨⟨f, h.read hphase⟩, .inr ?_⟩
      simp only [remaining, hphase, pages, batchSize]
      omega
  | batch page =>
    obtain ⟨g, hbatch, hg⟩ := h.batch hphase hkey urandom.2 hcolumns hunique hplain
    rw [advance_batch hphase hbatch]
    refine ⟨⟨g, hg⟩, .inr ?_⟩
    simp only [remaining, hphase, h.rows_eq, List.length_map]
    omega
  | returned => exact ⟨⟨f, by rwa [advance_returned hphase]⟩, .inl rfl⟩
  | raised e => exact absurd hphase (h.raised e)

theorem pages_mono {n m : Nat} (h : n ≤ m) : pages n ≤ pages m :=
  Nat.div_le_div_right (Nat.add_le_add_right h _)

theorem Inv.remaining_le (h : Inv env columns rows f s) : remaining s ≤ 2 * pages rows.length + 2 := by
  have hlength : s.rows.length = rows.length := by rw [h.rows_eq, List.length_map]
  have hpages : ∀ n, pages (s.rows.length - n) ≤ pages rows.length := fun n =>
    pages_mono (hlength ▸ Nat.sub_le _ _)
  unfold remaining
  cases s.phase with
  | query =>
    have hle := hpages s.offset
    simp only
    omega
  | batch page =>
    have hle := hpages (s.offset + batchSize)
    simp only
    omega
  | returned | raised => exact Nat.zero_le _

/-- **Run lemma.** -/
theorem inv_run (hkey : BlindIndexKeySet env) (hcolumns : WellNamed columns)
    (hunique : (rows.map Schema.Row.id).Nodup) (hplain : ∀ r ∈ rows, Encryptable env columns r)
    (events : List Event) : ∃ f, Inv env columns rows f (run env columns rows events) := by
  induction events using List.reverseRecOn with
  | nil => exact ⟨id, inv_start hunique⟩
  | append_singleton events event ih =>
    obtain ⟨f, hf⟩ := ih
    rw [run, List.foldl_append]
    cases event with
    | advance urandom =>
      have hnext := (hf.advance hkey hcolumns hunique hplain urandom).1
      rwa [← advanceAt_eq] at hnext
    | restart => exact ⟨f, hf.restart⟩

/-- A run that is not interrupted any more returns. -/
theorem returned_of_remaining_le (hkey : BlindIndexKeySet env) (hcolumns : WellNamed columns)
    (hunique : (rows.map Schema.Row.id).Nodup) (hplain : ∀ r ∈ rows, Encryptable env columns r)
    (hinv : ∃ f, Inv env columns rows f s) {more : List Urandom} (hmore : remaining s ≤ more.length) :
    ((more.map Event.advance).foldl (step env columns) s).phase = .returned := by
  induction more generalizing s with
  | nil =>
    obtain ⟨f, hf⟩ := hinv
    cases hphase : s.phase with
    | query => simp [remaining, hphase] at hmore
    | batch page => simp [remaining, hphase] at hmore
    | returned => exact hphase
    | raised e => exact absurd hphase (hf.raised e)
  | cons urandom more ih =>
    obtain ⟨f, hf⟩ := hinv
    obtain ⟨hnext, hless⟩ := hf.advance hkey hcolumns hunique hplain urandom
    rw [← advanceAt_eq] at hnext hless
    refine ih hnext ?_
    rcases hless with hreturned | hless
    · have hzero : remaining (step env columns s (.advance urandom)) = 0 := by
        rw [step, advanceAt_eq, advance_returned hreturned, remaining, hreturned]
      omega
    · rw [List.length_cons] at hmore
      exact Nat.le_of_lt_succ (Nat.lt_of_lt_of_le hless hmore)

end Termination

/-- **The backfill terminates and is complete, however often it is interrupted and started again:**
once it is left alone it returns after two steps a page, and whenever it has returned, each row has
for all its plaintext an `_enc` value that decrypts to it and its blind index, and is otherwise as it
was. -/
theorem backfill_complete (rows : List Row) (hunique : (rows.map Schema.Row.id).Nodup)
    (hplain : ∀ r ∈ rows, Encryptable env columns r) (hkey : BlindIndexKeySet env)
    (hcolumns : WellNamed columns) (events : List Event) :
    (∀ more : List Urandom, 2 * pages rows.length + 2 ≤ more.length →
      (run env columns rows (events ++ more.map .advance)).phase = .returned) ∧
    ((run env columns rows events).phase = .returned → ∃ f : Row → Row,
      (run env columns rows events).rows = rows.map f ∧ ∀ r ∈ rows, Backfilled env columns r (f r)) := by
  obtain ⟨f, hf⟩ := inv_run hkey hcolumns hunique hplain events
  refine ⟨fun more hmore => ?_, fun hreturned => ⟨f, hf.rows_eq, fun r hr => ?_⟩⟩
  · rw [run, List.foldl_append]
    exact returned_of_remaining_le hkey hcolumns hunique hplain ⟨f, hf⟩ (hf.remaining_le.trans hmore)
  · refine (hf.progress r hr).resolve_right fun hpending => ?_
    simp only [Pending, hreturned] at hpending

/-- The columns of all three tables are well named. -/
theorem wellNamed_of_mem (h : columns ∈ [anchors, vendors, loanApplications]) : WellNamed columns := by
  have hall : ∀ columns ∈ [anchors, vendors, loanApplications],
      (columns.map PlaintextColumn.name).Nodup ∧ Separate columns := by decide
  exact ⟨(hall columns h).1, (hall columns h).2⟩

/-! Two vendors, one without a Udyam number, and an interruption after the first page was read. -/

def plainCiphers : Ciphers where
  toEnvironment := plainEnvironment
  aesgcmDecrypt _ _ ciphertext := .ok ciphertext

def vendorRow (id : Uuid) (gstin : String) (udyamNumber : Option String) : Row where
  id := id
  cells
    | "name" => some (.text "Mehta Components")
    | "gstin" => some (.text gstin)
    | "udyam_number" => udyamNumber.map .text
    | _ => none

def twoVendors : List Row :=
  [vendorRow ⟨2⟩ "27AAPFU0939F1ZV" none, vendorRow ⟨1⟩ "29AAGCB7383J1Z4" (some "UDYAM-KR-03-0000001")]

def zeros : Urandom := ⟨fun _ _ => List.replicate 12 0, fun _ _ => rfl⟩

theorem encryptable_vendorRow (id : Uuid) (gstin : String) (udyamNumber : Option String) :
    Encryptable plainCiphers vendors (vendorRow id gstin udyamNumber) := by
  intro c _ cell hcell
  have htext : ∃ text, cell = .text text := by
    simp only [vendorRow] at hcell
    split at hcell
    · exact ⟨_, (Option.some.inj hcell).symm⟩
    · exact ⟨_, (Option.some.inj hcell).symm⟩
    · obtain ⟨text, -, htext⟩ := Option.map_eq_some_iff.mp hcell
      exact ⟨text, htext.symm⟩
    · cases hcell
  obtain ⟨text, rfl⟩ := htext
  exact ⟨text, rfl, fun _ _ => ⟨_, rfl, rfl⟩⟩

theorem encryptable_twoVendors : ∀ r ∈ twoVendors, Encryptable plainCiphers vendors r := by
  rw [twoVendors, List.forall_mem_cons, List.forall_mem_singleton]
  exact ⟨encryptable_vendorRow _ _ _, encryptable_vendorRow _ _ _⟩

def interrupted : List Event := [.advance zeros, .restart]

/-- Two steps a page after the interruption. -/
def resumed : List Event := interrupted ++ (List.replicate 4 zeros).map .advance

theorem backfill_complete_interrupted :
    (run plainCiphers vendors twoVendors resumed).phase = .returned ∧
    ∃ f : Row → Row, (run plainCiphers vendors twoVendors resumed).rows = twoVendors.map f ∧
      ∀ r ∈ twoVendors, Backfilled plainCiphers vendors r (f r) := by
  have hkey : BlindIndexKeySet plainCiphers := ⟨by decide, [0], by decide +kernel⟩
  have hcolumns : WellNamed vendors := wellNamed_of_mem vendors (by decide)
  have hreturned : (run plainCiphers vendors twoVendors resumed).phase = .returned :=
    (backfill_complete plainCiphers vendors twoVendors (by decide) encryptable_twoVendors hkey hcolumns
      interrupted).1 (List.replicate 4 zeros) (by decide)
  refine ⟨hreturned, ?_⟩
  exact (backfill_complete plainCiphers vendors twoVendors (by decide) encryptable_twoVendors hkey
    hcolumns resumed).2 hreturned

end OcenPlatform.Db.Backfill.Restarts
