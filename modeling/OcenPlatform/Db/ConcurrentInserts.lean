import Mathlib.Data.List.Induction
import OcenPlatform.Db.Backfill

/-! Inserts of the application while `loan_applications` is backfilled. A page is found by
how many rows come before it: a row that lands before the pages still to be read is
reached only if enough rows land before it in turn. -/

namespace OcenPlatform.Db.Backfill

open Migrations (Row Cell)
open Paging

/-! ## Runs -/

/-- A new loan application, with nothing encrypted. -/
def newRow (id : Uuid) (vendorGstin anchorGstin : String) : Row where
  id := id
  cells
    | "vendor_gstin" => some (.text vendorGstin)
    | "anchor_gstin" => some (.text anchorGstin)
    | _ => none

inductive Event where
  | insert (id : Uuid) (vendorGstin anchorGstin : String)
  | advance (urandom : Uuid → String → List UInt8)

def State.ids (s : State) : List Uuid := s.rows.map Schema.Row.id

/-- An id that is taken is refused. -/
def State.insert (s : State) (row : Row) : State :=
  if row.id ∈ s.ids then s else { s with rows := s.rows ++ [row] }

def step (env : Environment) (s : State) : Event → State
  | .insert id vendorGstin anchorGstin => s.insert (newRow id vendorGstin anchorGstin)
  | .advance urandom => advance env loanApplications urandom s

def run (env : Environment) (rows : List Row) (events : List Event) : State :=
  events.foldl (step env) { rows }

/-- The next query looks for a page that does not start after the row. -/
def Ahead (s : State) (id : Uuid) : Prop :=
  s.phase = .query ∧ id ∈ s.ids ∧ s.offset ≤ rank position s.rows id.int.toNat

/-! ## Steps -/

section Steps

variable {env : Environment} {s s' : State} {i : Uuid} {r : Row}

theorem separate_loanApplications : Separate loanApplications := by decide

theorem not_filled_newRow {vendorGstin anchorGstin : String} :
    ¬ Filled loanApplications (newRow i vendorGstin anchorGstin) := fun h => by
  have henc := (h _ (.head _) rfl).1
  cases henc

/-- The ids are unique, and the rows of a page are those of the table until their commit. -/
structure Sound (s : State) : Prop where
  unique : s.ids.Nodup
  page : ∀ rows, s.phase = .batch rows → ∀ p ∈ rows, p ∈ s.rows

theorem Sound.eq_of_id (hs : Sound s) {r' : Row} (hr : r ∈ s.rows) (hr' : r' ∈ s.rows)
    (hid : r.id = r'.id) : r = r' := List.inj_on_of_nodup_map hs.unique hr hr' hid

theorem Sound.positions (hs : Sound s) : (s.rows.map position).Nodup := by
  have hinj : Function.Injective fun id : Uuid => id.int.toNat := by
    rintro ⟨m⟩ ⟨n⟩ h
    exact congrArg Uuid.mk (BitVec.eq_of_toNat_eq h)
  have hmap := List.Nodup.map hinj hs.unique
  rwa [State.ids, List.map_map] at hmap

/-- What a step can do. -/
inductive Moves (s : State) : State → Prop
  | same : Moves s s
  | inserted (row : Row) (hnew : row.id ∉ s.ids) (hfilled : ¬ Filled loanApplications row) :
      Moves s { s with rows := s.rows ++ [row] }
  | last (hphase : s.phase = .query) : Moves s { s with phase := .returned }
  | read (hphase : s.phase = .query) :
      Moves s { s with phase := .batch (page position batchSize s.offset s.rows) }
  | failed (rows : List Row) (hphase : s.phase = .batch rows) (e : String) :
      Moves s { s with phase := .raised e }
  | written (rows : List Row) (hphase : s.phase = .batch rows) (f : Row → Row)
      (hf : ∀ r ∈ s.rows, Written loanApplications (rows.map Schema.Row.id) r (f r)) :
      Moves s { rows := s.rows.map f, offset := s.offset + batchSize, phase := .query }

theorem step_moves (hs : Sound s) (event : Event) : Moves s (step env s event) := by
  cases event with
  | insert id vendorGstin anchorGstin =>
    rw [step, State.insert]
    split
    · exact .same
    · rename_i hnew
      exact .inserted _ hnew not_filled_newRow
  | advance urandom =>
    rw [step, advance]
    split
    · rename_i hphase
      cases hpage : page position batchSize s.offset s.rows with
      | nil => exact .last hphase
      | cons row rows =>
        have hread : Moves s { s with phase := .batch (page position batchSize s.offset s.rows) } :=
          .read hphase
        rwa [hpage] at hread
    · rename_i rows hphase
      have hpage : ∀ p ∈ rows, ∀ r ∈ s.rows, r.id = p.id →
          ∀ c ∈ loanApplications, r.cells c.name = p.cells c.name := by
        intro p hp r hr hid c _
        rw [hs.eq_of_id hr (hs.page rows hphase p hp) hid]
      split
      · rename_i rows' hbatch
        obtain ⟨f, rfl, hf⟩ := batch_written separate_loanApplications hpage hbatch
        exact .written rows hphase f hf
      · exact .failed rows hphase _
    · exact .same
    · exact .same

theorem ids_written {rows : List Row} {f : Row → Row}
    (hf : ∀ r ∈ s.rows, Written loanApplications (rows.map Schema.Row.id) r (f r)) :
    (s.rows.map f).map Schema.Row.id = s.ids := by
  rw [List.map_map]
  exact List.map_congr_left fun r hr => (hf r hr).id

theorem Sound.moves (hs : Sound s) (h : Moves s s') : Sound s' := by
  cases h with
  | same => exact hs
  | inserted row hnew hfilled =>
    refine ⟨?_, fun rows hphase p hp => List.mem_append_left _ (hs.page rows hphase p hp)⟩
    rw [State.ids, List.map_append, List.nodup_append]
    refine ⟨hs.unique, List.nodup_singleton _, fun id hid id' hid' heq => hnew ?_⟩
    rw [← List.mem_singleton.mp hid', ← heq]
    exact hid
  | last hphase => exact ⟨hs.unique, nofun⟩
  | read hphase =>
    refine ⟨hs.unique, fun rows hrows p hp => ?_⟩
    obtain rfl := Phase.batch.inj hrows
    exact ((mem_page_iff hs.positions).mp hp).1
  | failed rows hphase e => exact ⟨hs.unique, nofun⟩
  | written rows hphase f hf =>
    refine ⟨?_, nofun⟩
    rw [State.ids, ids_written hf]
    exact hs.unique

theorem Moves.ids (h : Moves s s') (hi : i ∈ s.ids) : i ∈ s'.ids := by
  cases h with
  | same | last | read | failed => exact hi
  | inserted row hnew hfilled =>
    rw [State.ids, List.map_append]
    exact List.mem_append_left _ hi
  | written rows hphase f hf =>
    rw [State.ids, ids_written hf]
    exact hi

theorem rank_written {rows : List Row} {f : Row → Row}
    (hf : ∀ r ∈ s.rows, Written loanApplications (rows.map Schema.Row.id) r (f r)) (k : Nat) :
    rank position (s.rows.map f) k = rank position s.rows k := by
  refine rank_congr ?_ k
  rw [List.map_map]
  exact List.map_congr_left fun r hr => congrArg (·.int.toNat) (hf r hr).id

end Steps

/-! ## A row, step by step -/

def FilledAt (s : State) (i : Uuid) : Prop := ∀ r ∈ s.rows, r.id = i → Filled loanApplications r

/-- The row is in the page at hand or in one still to come, if there is any. -/
def Due (s : State) (i : Uuid) : Prop :=
  match s.phase with
  | .query => s.offset ≤ rank position s.rows i.int.toNat
  | .batch rows => i ∈ rows.map Schema.Row.id ∨
      s.offset + batchSize ≤ rank position s.rows i.int.toNat
  | .returned | .raised _ => True

/-- The row is empty and the page at hand does not have it. -/
structure Missed (s : State) (i : Uuid) : Prop where
  notFilled : ¬ FilledAt s i
  page : ∀ rows, s.phase = .batch rows → i ∉ rows.map Schema.Row.id

section Row

variable {env : Environment} {s s' : State} {i : Uuid}

theorem mem_page_ids_iff (hs : Sound s) (hi : i ∈ s.ids) :
    i ∈ (page position batchSize s.offset s.rows).map Schema.Row.id ↔
      s.offset ≤ rank position s.rows i.int.toNat ∧
        rank position s.rows i.int.toNat < s.offset + batchSize := by
  obtain ⟨r, hr, rfl⟩ := List.mem_map.mp hi
  have hpage : r ∈ page position batchSize s.offset s.rows ↔ _ := mem_page_iff hs.positions
  constructor
  · intro hmem
    obtain ⟨p, hp, hid⟩ := List.mem_map.mp hmem
    obtain rfl := hs.eq_of_id ((mem_page_iff hs.positions).mp hp).1 hr hid
    exact (hpage.mp hp).2
  · exact fun hrank => List.mem_map_of_mem (hpage.mpr ⟨hr, hrank⟩)

/-- A row that is due is filled, or stays due. -/
theorem FilledAt.moves (hs : Sound s) (hi : i ∈ s.ids) (hmoves : Moves s s')
    (h : FilledAt s i ∨ Due s i) : FilledAt s' i ∨ Due s' i := by
  cases hmoves with
  | same => exact h
  | inserted row hnew hfilled =>
    refine h.imp (fun h r hr hid => ?_) fun h => ?_
    · rcases List.mem_append.mp hr with hr | hr
      · exact h r hr hid
      · obtain rfl := List.mem_singleton.mp hr
        exact absurd (hid ▸ hi) hnew
    · have hrank := rank_le_snoc position s.rows row i.int.toNat
      unfold Due at h ⊢
      cases hphase : s.phase with
      | query => exact Nat.le_trans (by simpa only [hphase] using h) hrank
      | batch rows =>
        simp only [hphase] at h ⊢
        exact h.imp_right fun h => Nat.le_trans h hrank
      | returned | raised => trivial
  | last hphase => exact .inr trivial
  | read hphase =>
    refine h.imp_right fun h => ?_
    simp only [Due, hphase] at h ⊢
    rw [mem_page_ids_iff hs hi]
    omega
  | failed rows hphase e => exact .inr trivial
  | written rows hphase f hf =>
    have hwritten : (∀ r ∈ s.rows, r.id = i → Filled loanApplications r ∨ r.id ∈ rows.map Schema.Row.id) →
        FilledAt { rows := s.rows.map f, offset := s.offset + batchSize, phase := .query } i := by
      rintro hrow r' hr' hid
      obtain ⟨r, hr, rfl⟩ := List.mem_map.mp hr'
      exact (hf r hr).filled (hrow r hr ((hf r hr).id.symm.trans hid))
    rcases h with h | h
    · exact .inl (hwritten fun r hr hid => .inl (h r hr hid))
    · simp only [Due, hphase] at h
      refine h.imp (fun h => hwritten fun r hr hid => .inr (hid ▸ h)) fun h => ?_
      simp only [Due, rank_written hf]
      exact h

/-- A new row is empty and in no page. -/
theorem Missed.of_new (hs : Sound s) (hmoves : Moves s s') (hnew : i ∉ s.ids) (hi : i ∈ s'.ids) :
    Missed s' i := by
  cases hmoves with
  | same | last | read | failed => exact absurd hi hnew
  | inserted row hrow hfilled =>
    rw [State.ids, List.map_append, List.mem_append] at hi
    obtain rfl := List.mem_singleton.mp (hi.resolve_left hnew)
    refine ⟨fun hall => hfilled (hall row (by simp) rfl), fun rows hphase hmem => ?_⟩
    obtain ⟨p, hp, hid⟩ := List.mem_map.mp hmem
    exact hrow (hid ▸ List.mem_map_of_mem (hs.page rows hphase p hp))
  | written rows hphase f hf =>
    rw [State.ids, ids_written hf] at hi
    exact absurd hi hnew

/-- A row that no query is ahead of stays empty. -/
theorem Missed.moves (hs : Sound s) (hi : i ∈ s.ids) (hmoves : Moves s s') (h : Missed s i)
    (hahead : ¬ Ahead s i) : Missed s' i := by
  cases hmoves with
  | same => exact h
  | inserted row hnew hfilled =>
    refine ⟨fun hall => h.notFilled fun r hr => hall r (List.mem_append_left _ hr), h.page⟩
  | last hphase => exact ⟨h.notFilled, nofun⟩
  | read hphase =>
    refine ⟨h.notFilled, fun rows hrows hmem => hahead ⟨hphase, hi, ?_⟩⟩
    obtain rfl := Phase.batch.inj hrows
    exact ((mem_page_ids_iff hs hi).mp hmem).1
  | failed rows hphase e => exact ⟨h.notFilled, nofun⟩
  | written rows hphase f hf =>
    refine ⟨fun hall => h.notFilled fun r hr hid => ?_, nofun⟩
    have hsame := (hf r hr).other (hid ▸ h.page rows hphase)
    exact hsame ▸ hall (f r) (List.mem_map_of_mem hr) ((hf r hr).id.trans hid)

end Row

/-! ## Whole runs -/

section Run

variable {env : Environment} {rows : List Row} {events : List Event} {i : Uuid}

theorem run_snoc (event : Event) :
    run env rows (events ++ [event]) = step env (run env rows events) event := by
  rw [run, List.foldl_append]
  rfl

/-- **Run lemma.** -/
theorem sound_run (hunique : (rows.map Schema.Row.id).Nodup) (events : List Event) :
    Sound (run env rows events) := by
  induction events using List.reverseRecOn with
  | nil => exact ⟨hunique, nofun⟩
  | append_singleton events event ih =>
    rw [run_snoc]
    exact ih.moves (step_moves ih event)

/-- Once a query is ahead of a row, the row is filled or stays due. -/
theorem filledAt_run (hunique : (rows.map Schema.Row.id).Nodup) {before : List Event}
    (hahead : Ahead (run env rows before) i) (after : List Event) :
    i ∈ (run env rows (before ++ after)).ids ∧
      (FilledAt (run env rows (before ++ after)) i ∨ Due (run env rows (before ++ after)) i) := by
  induction after using List.reverseRecOn with
  | nil =>
    rw [List.append_nil]
    obtain ⟨hphase, hi, hrank⟩ := hahead
    exact ⟨hi, .inr (by simpa only [Due, hphase] using hrank)⟩
  | append_singleton after event ih =>
    rw [← List.append_assoc, run_snoc]
    have hs : Sound (run env rows (before ++ after)) := sound_run hunique _
    exact ⟨(step_moves hs event).ids ih.1, FilledAt.moves hs ih.1 (step_moves hs event) ih.2⟩

/-- The first query is ahead of every row of the start. -/
theorem ahead_or_missed (hunique : (rows.map Schema.Row.id).Nodup)
    (hi : i ∈ (run env rows events).ids) :
    (∃ before after, events = before ++ after ∧ Ahead (run env rows before) i) ∨
      Missed (run env rows events) i := by
  induction events using List.reverseRecOn with
  | nil => exact .inl ⟨[], [], rfl, rfl, hi, Nat.zero_le _⟩
  | append_singleton events event ih =>
    have hs : Sound (run env rows events) := sound_run hunique events
    have hmoves : Moves _ (step env (run env rows events) event) := step_moves hs event
    rw [run_snoc] at hi ⊢
    by_cases hbefore : i ∈ (run env rows events).ids
    · by_cases hahead : Ahead (run env rows events) i
      · exact .inl ⟨events, [event], rfl, hahead⟩
      · rcases ih hbefore with ⟨before, after, rfl, h⟩ | h
        · exact .inl ⟨before, after ++ [event], List.append_assoc .., h⟩
        · exact .inr (h.moves hs hbefore hmoves hahead)
    · exact .inr (Missed.of_new hs hmoves hbefore hi)

end Run

/-- When the loop returns, every row is filled exactly if a query was ahead of each. -/
theorem filled_iff_ahead (env : Environment) (rows : List Row)
    (hunique : (rows.map Schema.Row.id).Nodup) (events : List Event)
    (urandom : Uuid → String → List UInt8)
    (hquery : (run env rows events).phase = .query)
    (hreturned : (run env rows (events ++ [.advance urandom])).phase = .returned) :
    (∀ r ∈ (run env rows (events ++ [.advance urandom])).rows, Filled loanApplications r) ↔
      ∀ r ∈ (run env rows events).rows,
        ∃ before after, events = before ++ after ∧ Ahead (run env rows before) r.id := by
  have hs : Sound (run env rows events) := sound_run hunique events
  have hlast : page position batchSize (run env rows events).offset (run env rows events).rows = [] ∧
      (run env rows (events ++ [.advance urandom])).rows = (run env rows events).rows := by
    rw [run_snoc, step, advance] at hreturned ⊢
    simp only [hquery] at hreturned ⊢
    cases hpage : page position batchSize (run env rows events).offset (run env rows events).rows with
    | nil => exact ⟨rfl, rfl⟩
    | cons row rows =>
      rw [hpage] at hreturned
      cases hreturned
  rw [hlast.2]
  constructor
  · intro hall r hr
    have hi : r.id ∈ (run env rows events).ids := List.mem_map_of_mem hr
    refine (ahead_or_missed hunique hi).resolve_right fun hmissed => hmissed.notFilled ?_
    exact fun r' hr' _ => hall r' hr'
  · intro hahead r hr
    obtain ⟨before, after, rfl, h⟩ := hahead r hr
    refine (filledAt_run hunique h after).2.elim (fun h => h r hr rfl) fun hdue => ?_
    simp only [Due, hquery] at hdue
    exact absurd hdue (Nat.not_le_of_lt (rank_lt_of_page_eq_nil (by decide) hlast.1 hr))

/-- One application before the backfill and one more before its first query. -/
theorem filled_iff_ahead_early :
    (∀ r ∈ (run plainEnvironment [newRow ⟨5⟩ "V" "A"] ([.insert ⟨3⟩ "W" "B", .advance fun _ _ => [],
        .advance fun _ _ => []] ++ [.advance fun _ _ => []])).rows, Filled loanApplications r) ↔
      ∀ r ∈ (run plainEnvironment [newRow ⟨5⟩ "V" "A"] [.insert ⟨3⟩ "W" "B",
          .advance fun _ _ => [], .advance fun _ _ => []]).rows,
        ∃ before after, [.insert ⟨3⟩ "W" "B", .advance fun _ _ => [],
          .advance fun _ _ => []] = before ++ after ∧
          Ahead (run plainEnvironment [newRow ⟨5⟩ "V" "A"] before) r.id :=
  filled_iff_ahead plainEnvironment [newRow ⟨5⟩ "V" "A"] (by decide) [.insert ⟨3⟩ "W" "B",
    .advance fun _ _ => [], .advance fun _ _ => []] (fun _ _ => []) rfl rfl

/-- An application that comes after the first page was read is not on the second one. -/
theorem late_not_filled :
    (run plainEnvironment [newRow ⟨5⟩ "V" "A"] [.advance fun _ _ => [], .insert ⟨3⟩ "W" "B",
      .advance fun _ _ => [], .advance fun _ _ => []]).phase = .returned ∧
    ¬ ∀ r ∈ (run plainEnvironment [newRow ⟨5⟩ "V" "A"] [.advance fun _ _ => [],
      .insert ⟨3⟩ "W" "B", .advance fun _ _ => [], .advance fun _ _ => []]).rows,
        Filled loanApplications r := by
  refine ⟨rfl, ?_⟩
  decide +kernel

end OcenPlatform.Db.Backfill
