import Mathlib.Data.List.Nodup
import OcenPlatform.Durable.Logic

/-! Gated pipelines: a plan of stages that a workflow runs one activity at a
time, where a result may deny and so end the run. A history is read as a state
of the pipeline: `Passed` between two stages, `Running` inside one, `Denied`
after a denial. -/

namespace OcenPlatform.Durable

variable {S A R G O σ γ : Type}

/-! ## Splitting a history -/

theorem mem_scheduled {a : A} {h : History A R G} :
    a ∈ h.scheduled ↔ ∃ before after, h = before ++ .scheduled a :: after := by
  constructor
  · intro hmem
    obtain ⟨o, ho, hsched⟩ := List.mem_filterMap.mp hmem
    obtain rfl : o = .scheduled a := by cases o <;> simp_all
    exact List.append_of_mem ho
  · rintro ⟨before, after, rfl⟩
    simp

/-- What holds of every scheduled activity holds of this one, somewhere in the history. -/
theorem History.EachScheduled.of_mem {P : History A R G → A → Prop} {a : A}
    {h : History A R G} (hall : h.EachScheduled P) (hmem : a ∈ h.scheduled) :
    ∃ before after, h = before ++ .scheduled a :: after ∧ P before a := by
  obtain ⟨before, after, hsplit⟩ := mem_scheduled.mp hmem
  exact ⟨before, after, hsplit, hall before a after hsplit⟩

/-- Where no stage is scheduled twice, a scheduled stage splits the history in
one way. -/
theorem scheduled_split {stage : A → σ} {a a' : A} {b b' c c' : History A R G}
    (hn : ((b ++ .scheduled a :: c).scheduled.map stage).Nodup) (hs : stage a = stage a')
    (heq : b ++ .scheduled a :: c = b' ++ .scheduled a' :: c') : b = b' ∧ a = a' ∧ c = c' := by
  have hn' := hn
  rw [heq] at hn'
  rcases List.append_eq_append_iff.mp heq with ⟨mid, hb, hc⟩ | ⟨mid, hb, hc⟩
  · cases mid with
    | nil => simpa [hb] using hc
    | cons o mid =>
      obtain ⟨rfl, -⟩ : Obs.scheduled a = o ∧ _ := by simpa using hc
      simp [hb, hs, List.nodup_append] at hn'
  · cases mid with
    | nil =>
      obtain ⟨rfl, rfl⟩ : a' = a ∧ c' = c := by simpa using hc
      exact ⟨by simpa using hb, rfl, rfl⟩
    | cons o mid =>
      obtain ⟨rfl, -⟩ : Obs.scheduled a' = o ∧ _ := by simpa using hc
      simp [hb, hs, List.nodup_append] at hn

/-- So do the signals before the next completion. -/
theorem signalled_split {gs gs' : List G} {a a' : A} {r r' : R} {c c' : History A R G}
    (heq : gs.map .signalled ++ .completed a r :: c = gs'.map .signalled ++ .completed a' r' :: c') :
    gs = gs' ∧ a = a' ∧ r = r' ∧ c = c' := by
  induction gs generalizing gs' with
  | nil =>
    cases gs' with
    | nil => simpa [and_assoc] using heq
    | cons g' gs' => simp at heq
  | cons g gs ih =>
    cases gs' with
    | nil => simp at heq
    | cons g' gs' =>
      obtain ⟨rfl, hrest⟩ : g = g' ∧ _ := by simpa using heq
      obtain ⟨rfl, hsame⟩ := ih hrest
      exact ⟨rfl, hsame⟩

/-! ## Plans -/

/-- `verdict` is what the workflow makes of a result: it goes on, it is denied and
names a gate, or it cannot read the result. -/
structure Plan (A R σ γ : Type) where
  stages : List σ
  stage : A → σ
  verdict : A → R → Except String (Option γ)

namespace Plan

variable (P : Plan A R σ γ)

/-- Exactly the stages before `todo` were scheduled, all completed, none denied. -/
structure Passed (todo : List σ) (h : History A R G) : Prop where
  split : P.stages = h.results.map (fun p => P.stage p.1) ++ todo
  closed : h.scheduled = h.results.map Prod.fst
  clean : ∀ p ∈ h.results, P.verdict p.1 p.2 = .ok none
  untimed : .timedOut ∉ h

/-- The stages before `a` are passed and `a` is scheduled. -/
structure Running (a : A) (todo : List σ) (h : History A R G) : Prop where
  split : P.stages = h.results.map (fun p => P.stage p.1) ++ P.stage a :: todo
  closed : h.scheduled = h.results.map Prod.fst ++ [a]
  clean : ∀ p ∈ h.results, P.verdict p.1 p.2 = .ok none
  untimed : .timedOut ∉ h

/-- The stages before `a` are passed and `a` has completed with `r`. -/
structure Halted (a : A) (r : R) (h : History A R G) : Prop where
  last : ∃ before, h.results = before ++ [(a, r)] ∧
    ∀ p ∈ before, P.verdict p.1 p.2 = .ok none
  closed : h.scheduled = h.results.map Prod.fst
  ordered : h.scheduled.map P.stage <+: P.stages
  untimed : .timedOut ∉ h

/-- The last completed activity is `a`, it is the first that was denied, and nothing
was scheduled after it. -/
def Denied (a : A) (gate : γ) (h : History A R G) : Prop :=
  ∃ r, P.Halted a r h ∧ P.verdict a r = .ok (some gate)

/-- The last completed activity is `a` and its result cannot be read. -/
def Unreadable (a : A) (h : History A R G) : Prop :=
  ∃ r e, P.Halted a r h ∧ P.verdict a r = .error e

/-- No result was denied: what `Passed`, `Running` and `Unreadable` have in common. -/
structure Undenied (h : History A R G) : Prop where
  ordered : h.scheduled.map P.stage <+: P.stages
  clean : ∀ p ∈ h.results, ∀ gate, P.verdict p.1 p.2 ≠ .ok (some gate)
  untimed : .timedOut ∉ h

variable {P} {a : A} {todo : List σ} {h : History A R G}

theorem Passed.undenied (hp : P.Passed todo h) : P.Undenied h where
  ordered := ⟨todo, by rw [hp.closed, hp.split, List.map_map]; rfl⟩
  clean := by
    intro p hmem gate
    rw [hp.clean p hmem]
    exact fun heq => nomatch heq
  untimed := hp.untimed

theorem Running.undenied (hr : P.Running a todo h) : P.Undenied h where
  ordered := ⟨todo, by rw [hr.closed, hr.split]; simp [Function.comp_def]⟩
  clean := by
    intro p hmem gate
    rw [hr.clean p hmem]
    exact fun heq => nomatch heq
  untimed := hr.untimed

theorem Unreadable.undenied (hu : P.Unreadable a h) : P.Undenied h := by
  obtain ⟨r, e, hhalted, hverdict⟩ := hu
  obtain ⟨before, hresults, hclean⟩ := hhalted.last
  refine ⟨hhalted.ordered, fun p hmem gate => ?_, hhalted.untimed⟩
  have hmem : p ∈ before ∨ p = (a, r) := by simpa [hresults] using hmem
  rcases hmem with hmem | rfl
  · rw [hclean p hmem]
    exact fun heq => nomatch heq
  · rw [hverdict]
    exact fun heq => nomatch heq

theorem Undenied.failed (hu : P.Undenied h) (a : A) : P.Undenied (h ++ [.failed a]) where
  ordered := by simpa using hu.ordered
  clean := by simpa using hu.clean
  untimed := by simpa using hu.untimed

/-- A plan that names every stage once has one result for each. -/
theorem Passed.unique (hp : P.Passed todo h) (hn : P.stages.Nodup) {a' : A} {r r' : R}
    (ha : (a, r) ∈ h.results) (ha' : (a', r') ∈ h.results) (hs : P.stage a = P.stage a') :
    (a, r) = (a', r') := by
  rw [hp.split] at hn
  have hresults := (List.nodup_append.mp hn).1
  exact List.inj_on_of_nodup_map hresults ha ha' hs

theorem passed_signalled (gs : List G) :
    P.Passed P.stages (gs.map .signalled : History A R G) where
  split := by simp
  closed := by simp
  clean := by simp
  untimed := by simp

theorem Passed.signals (hp : P.Passed todo h) (gs : List G) :
    P.Passed todo (h ++ gs.map .signalled) where
  split := by simpa using hp.split
  closed := by simpa using hp.closed
  clean := by simpa using hp.clean
  untimed := by simpa using hp.untimed

/-- Scheduling the next stage, with the signals that arrive while it runs. -/
theorem Passed.schedule (hp : P.Passed (P.stage a :: todo) h) (gs : List G) :
    P.Running a todo (h ++ [.scheduled a] ++ gs.map .signalled) where
  split := by simpa using hp.split
  closed := by simpa using hp.closed
  clean := by simpa using hp.clean
  untimed := by simpa using hp.untimed

theorem Running.pass (hr : P.Running a todo h) {r : R} (hv : P.verdict a r = .ok none) :
    P.Passed todo (h ++ [.completed a r]) where
  split := by simpa using hr.split
  closed := by simpa using hr.closed
  clean := by
    intro p hp
    have hp : p ∈ h.results ∨ p = (a, r) := by simpa using hp
    rcases hp with hp | rfl
    · exact hr.clean p hp
    · exact hv
  untimed := by simpa using hr.untimed

theorem Running.halted (hr : P.Running a todo h) (r : R) :
    P.Halted a r (h ++ [.completed a r]) where
  last := ⟨h.results, by simp, hr.clean⟩
  closed := by simpa using hr.closed
  ordered := by simpa using hr.undenied.ordered
  untimed := by simpa using hr.untimed

/-- **Activity rule.** Executing the next stage of the plan. -/
theorem Passed.execute {w : Handlers S G} {K : Contract A R G O}
    {Q : R → History A R G → Prop} (hp : P.Passed (P.stage a :: todo) h)
    (hK : ∀ gs : List G, P.Running a todo (h ++ [.scheduled a] ++ gs.map .signalled) →
      K.pending a (h ++ [.scheduled a] ++ gs.map .signalled) ∧
      K.broken (h ++ [.scheduled a] ++ gs.map .signalled ++ [.failed a]) ∧
      ∀ r, Q r (h ++ [.scheduled a] ++ gs.map .signalled ++ [.completed a r])) :
    VC w K Q (Program.execute a : Program S A R O R) h :=
  fun gs => hK gs (hp.schedule gs)

/-! ## What follows a passed stage -/

/-- In a list without repeats, the successor of an element of `front` is in `front`
or comes right after it. -/
theorem successor_mem {l front back pre post : List σ} {x y : σ} (hn : l.Nodup)
    (hfront : l = front ++ back) (hpre : l = pre ++ x :: y :: post) (hmem : x ∈ front) :
    y ∈ front ∨ ∃ rest, back = y :: rest := by
  obtain ⟨f, f', rfl⟩ := List.append_of_mem hmem
  have heq : pre ++ x :: (y :: post) = f ++ x :: (f' ++ back) := by
    rw [← hpre, hfront, List.append_assoc, List.cons_append]
  have hpre' : x ∉ pre := by
    rintro hx
    rw [hpre] at hn
    exact (List.nodup_append.mp hn).2.2 _ hx _ (.head _) rfl
  have hpost : x ∉ y :: post := by
    rw [hpre] at hn
    exact (List.nodup_cons.mp (List.nodup_append.mp hn).2.1).1
  obtain ⟨-, -, hrest⟩ := (List.append_cons_inj_of_notMem hpre' hpost).mp heq
  cases f' with
  | nil => exact .inr ⟨post, hrest.symm⟩
  | cons z f' =>
    obtain ⟨rfl, -⟩ := List.cons.inj hrest
    exact .inl (by simp)

variable {a' : A} {r' : R} {s : σ} {pre post : List σ}

theorem mem_stage {f : A → σ} (hmem : (a', r') ∈ h.results) :
    f a' ∈ h.results.map (fun p => f p.1) :=
  List.mem_map.mpr ⟨_, hmem, rfl⟩

/-- What a passed stage is followed by has been scheduled, or comes next. -/
theorem Passed.next_scheduled (hp : P.Passed todo h) (hn : P.stages.Nodup)
    (hmem : (a', r') ∈ h.results) (hs : P.stages = pre ++ P.stage a' :: s :: post) :
    s ∈ h.scheduled.map P.stage ∨ ∃ rest, todo = s :: rest := by
  rcases successor_mem hn hp.split hs (mem_stage hmem) with hin | hnext
  · rw [hp.closed, List.map_map]
    exact .inl hin
  · exact .inr hnext

theorem Running.next_scheduled (hr : P.Running a todo h) (hn : P.stages.Nodup)
    (hmem : (a', r') ∈ h.results) (hs : P.stages = pre ++ P.stage a' :: s :: post) :
    s ∈ h.scheduled.map P.stage := by
  rw [hr.closed, List.map_append, List.map_map]
  rcases successor_mem hn hr.split hs (mem_stage hmem) with hin | ⟨rest, hnext⟩
  · exact List.mem_append_left _ hin
  · rw [← (List.cons.inj hnext).1]
    exact List.mem_append_right _ (.head _)

/-- In a halted run this holds of every stage but the last. -/
theorem Halted.next_scheduled {r : R} (hh : P.Halted a r h) (hn : P.stages.Nodup)
    (hmem : (a', r') ∈ h.results) (hne : (a', r') ≠ (a, r))
    (hs : P.stages = pre ++ P.stage a' :: s :: post) : s ∈ h.scheduled.map P.stage := by
  obtain ⟨before, hresults, -⟩ := hh.last
  obtain ⟨rest, hordered⟩ := hh.ordered
  have hbefore : (a', r') ∈ before := by
    have hmem : (a', r') ∈ before ∨ (a', r') = (a, r) := by simpa [hresults] using hmem
    exact hmem.resolve_right hne
  have hsched : h.scheduled.map P.stage = before.map (fun p => P.stage p.1) ++ [P.stage a] := by
    simp [hh.closed, hresults, Function.comp_def]
  rw [hsched] at hordered ⊢
  have hsplit : P.stages = before.map (fun p => P.stage p.1) ++ (P.stage a :: rest) := by
    simpa using hordered.symm
  rcases successor_mem hn hsplit hs (List.mem_map.mpr ⟨_, hbefore, rfl⟩) with hin | ⟨_, hnext⟩
  · exact List.mem_append_left _ hin
  · rw [← (List.cons.inj hnext).1]
    exact List.mem_append_right _ (.head _)

end Plan

end OcenPlatform.Durable
