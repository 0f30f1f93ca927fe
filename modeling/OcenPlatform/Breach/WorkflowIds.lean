import Mathlib.Data.Rat.Floor
import OcenPlatform.Breach.Accounting
import Std.Data.String.ToInt

/-! The ids of the breach workflows: the rule and the second in which the id is made. Two detections
of a rule share an id if its window fills twice in one second. -/

namespace OcenPlatform.Breach

open Durable
open Stamped (time)

variable {ε : Type} [Stamped ε]

/-- Different rules have ids that differ in the first letter of the rule. -/
theorem workflowId_inj {x y : String} {s t : Rat} (hx : x ∈ mapping.map Prod.snd)
    (hy : y ∈ mapping.map Prod.snd) (h : workflowId x s = workflowId y t) :
    x = y ∧ truncate s = truncate t := by
  have hchars := congrArg String.toList h
  simp only [workflowId, String.toList_append, List.append_assoc, List.append_cancel_left_eq] at hchars
  have hhead := congrArg List.head? hchars
  have hletters : ∀ x ∈ mapping.map Prod.snd, ∀ y ∈ mapping.map Prod.snd,
      x.toList ≠ [] ∧ (x.toList.head? = y.toList.head? → x = y) := by decide
  obtain ⟨hxs, hinj⟩ := hletters x hx y hy
  obtain ⟨hys, -⟩ := hletters y hy x hx
  rw [List.head?_append_of_ne_nil _ hxs, List.head?_append_of_ne_nil _ hys] at hhead
  obtain rfl := hinj hhead
  rw [List.append_cancel_left_eq, List.append_cancel_left_eq, String.toList_inj] at hchars
  exact ⟨rfl, Int.repr_inj.mp hchars⟩

/-! ## Seconds -/

theorem truncate_of_nonneg {q : Rat} (h : 0 ≤ q) : truncate q = ⌊q⌋ := by
  rw [truncate, Int.tdiv_eq_ediv_of_nonneg (Rat.num_nonneg.mpr h), ← Rat.floor_def]
  rfl

theorem truncate_of_nonpos {q : Rat} (h : q ≤ 0) : truncate q = ⌈q⌉ := by
  have hneg := truncate_of_nonneg (neg_nonneg.mpr h)
  rw [truncate, Rat.num_neg_eq_neg_num, Rat.den_neg_eq_den, Int.neg_tdiv] at hneg
  rw [truncate, ← neg_inj, hneg, Int.floor_neg]

theorem truncate_mono {s t : Rat} (h : s ≤ t) : truncate s ≤ truncate t := by
  rcases le_total 0 s with hs | hs
  · rw [truncate_of_nonneg hs, truncate_of_nonneg (hs.trans h)]
    exact Int.floor_le_floor h
  rcases le_total t 0 with ht | ht
  · rw [truncate_of_nonpos hs, truncate_of_nonpos ht]
    exact Int.ceil_le_ceil h
  · rw [truncate_of_nonpos hs, truncate_of_nonneg ht]
    exact (Int.ceil_le.mpr (by simpa using hs)).trans (Int.floor_nonneg.mpr ht)

theorem sub_truncate {q : Rat} : q - 1 < truncate q ∧ (truncate q : Rat) < q + 1 := by
  rcases le_total 0 q with h | h
  · rw [truncate_of_nonneg h]
    exact ⟨Int.sub_one_lt_floor q, (Int.floor_le q).trans_lt (lt_add_one q)⟩
  · rw [truncate_of_nonpos h]
    exact ⟨(sub_one_lt q).trans_le (Int.le_ceil q), Int.ceil_lt_add_one q⟩

/-- The second around zero has twice the length. -/
theorem lt_add_two {s t : Rat} (h : truncate s = truncate t) : t < s + 2 := by
  have hs := (sub_truncate (q := s)).2
  have ht := (sub_truncate (q := t)).1
  rw [← h] at ht
  linarith

/-- Between two readings of one second there are only readings of this second. -/
theorem truncate_between {s u t : Rat} (h : truncate s = truncate t) (hsu : s ≤ u) (hut : u ≤ t) :
    truncate s = truncate u :=
  le_antisymm (truncate_mono hsu) ((truncate_mono hut).trans_eq h.symm)

/-! ## When a window fills -/

/-- The events of a rule. -/
def eventsFor (x : String) (polls : List (Poll ε)) : List ε :=
  (polls.filter fun p => p.rule = some x).flatMap Poll.added

/-- The second of the workflow id that a message would have. -/
def Poll.second : Poll ε → Option Int
  | .message m => some (truncate m.named)
  | _ => none

/-- How many events of a rule are processed in a second. -/
def perSecond (x : String) (s : Int) (polls : List (Poll ε)) : Nat :=
  polls.countP fun p => p.rule = some x ∧ p.second = some s

omit [Stamped ε] in
theorem length_eventsFor (x : String) (polls : List (Poll ε)) :
    (eventsFor x polls).length = polls.countP fun p => p.rule = some x := by
  rw [eventsFor, List.length_flatMap, List.countP_eq_length_filter]
  have hone : ∀ p ∈ polls.filter fun p => p.rule = some x, p.added.length = 1 := by
    intro p hp
    cases p with
    | message m => rfl
    | nothing => simp [Poll.rule] at hp
    | kafkaError => simp [Poll.rule] at hp
  rw [List.map_congr_left hone]
  simp

/-- The message fills the window of its rule: with it, as many of the events that were in the window
are still young as the threshold says. -/
def Fills (c : Consumer ε) (x : String) (r : DetectionRule) (m : Message ε) : Prop :=
  (Poll.message m).rule = some x ∧ PyDict.find? c.rules x = some r ∧
    r.threshold ≤ (r.kept m (c.eventsOf x)).length

/-- After `m` has filled the window of its rule in the state `c`, and these messages have come in
between, `m'` fills it again: as many events have come since as the threshold says, or, if the start
has failed, they and what is still young of the old ones are as many. -/
def Refills (c : Consumer ε) (x : String) (r : DetectionRule) (m : Message ε)
    (between : List (Poll ε)) (m' : Message ε) : Prop :=
  if m.started then r.threshold ≤ (eventsFor x between).length + 1
  else r.threshold ≤ (r.kept m' (r.counted m (c.eventsOf x) ++ eventsFor x between)).length

/-- No message that fills a window is followed, in the same second, by one that fills it again. -/
def FillsOncePerSecond (detectionRules : List DetectionRule) (polls : List (Poll ε)) : Prop :=
  ∀ before m between m' rest x r, polls = before ++ .message m :: (between ++ .message m' :: rest) →
    Fills ((Consumer.load detectionRules).after before) x r m → (Poll.message m').rule = some x →
    truncate m.named = truncate m'.named →
    ¬ Refills ((Consumer.load detectionRules).after before) x r m between m'

section Windows

variable {c : Consumer ε} {x : String} {r : DetectionRule} {m : Message ε} {polls : List (Poll ε)}

theorem Fills.step (h : c.Configured) (hfills : Fills c x r m) :
    ∃ d, (c.step (.message m)).1 = some d ∧ d.message = m ∧ d.input.rule = x ∧
      (c.step (.message m)).2.eventsOf x = if m.started then [] else r.counted m (c.eventsOf x) := by
  obtain ⟨hrule, hr, hthreshold⟩ := hfills
  have hpass := step_pass h (.message m)
  generalize c.step (.message m) = next at hpass
  obtain ⟨o, c'⟩ := next
  cases hpass with
  | idle hnone =>
    rw [hnone x hrule] at hr
    cases hr
  | @added _ y r' _ hr' _ hbelow _ hread =>
    obtain rfl := Option.some.inj (hrule.symm.trans hread)
    obtain rfl := Option.some.inj (hr.symm.trans hr')
    omega
  | @detected _ y r' _ d hr' _ _ hmessage _ _ hrulename _ _ hcounted hevents hread =>
    obtain rfl := Option.some.inj (hrule.symm.trans hread)
    obtain rfl := Option.some.inj (hr.symm.trans hr')
    exact ⟨d, rfl, hmessage, hrulename, by rw [hevents, hcounted]⟩

/-- A detection is that of a message that fills the window. -/
theorem fills_of_step (h : c.Configured) {p : Poll ε} {d : Detection ε}
    (hd : (c.step p).1 = some d) : p = .message d.message ∧
      d.workflowId = workflowId d.input.rule d.message.named ∧
      d.input.rule ∈ mapping.map Prod.snd ∧ ∃ r, Fills c d.input.rule r d.message := by
  have hpass := step_pass h p
  rw [hd] at hpass
  cases hpass with
  | @detected m x r c' d hr _ hthreshold hmessage hname hmapped hrulename _ _ _ _ hread =>
    subst hmessage hrulename
    exact ⟨rfl, hname, hmapped, r, hread, hr, hthreshold⟩

/-- **Run lemma.** While a rule has no detection, its window loses nothing that is still young. -/
theorem prune_eventsOf_after (h : c.Configured) (hr : PyDict.find? c.rules x = some r) {now : Rat}
    (hnow : ∀ t ∈ polls.flatMap Poll.readings, t ≤ now)
    (hquiet : ∀ d ∈ c.detections polls, d.input.rule ≠ x) :
    Window.prune time now ((r.windowMinutes * 60 : Int) : Rat) ((c.after polls).eventsOf x) =
      Window.prune time now ((r.windowMinutes * 60 : Int) : Rat)
        (c.eventsOf x ++ eventsFor x polls) := by
  induction polls generalizing c with
  | nil => simp [eventsFor]
  | cons p polls ih =>
    rw [List.flatMap_cons] at hnow
    obtain ⟨hrules, hconfigured⟩ := step_configured h p
    have hrest := ih hconfigured (hrules ▸ hr) (fun t ht => hnow t (List.mem_append_right _ ht))
      fun d hd => hquiet d (List.mem_append_right _ hd)
    have hquiet' : ∀ d ∈ (c.step p).1, d.input.rule ≠ x := fun d hd =>
      hquiet d (List.mem_append_left _ (Option.mem_toList.mpr hd))
    rw [Consumer.after, Emitting.after_cons, hrest, Window.prune_append, Window.prune_append]
    have hpass := step_pass h p
    generalize c.step p = next at hpass hquiet'
    obtain ⟨o, c'⟩ := next
    -- Only the events of the rule are in its window.
    have hother : p.rule ≠ some x → eventsFor x (p :: polls) = eventsFor x polls := by
      intro hne
      simp [eventsFor, hne]
    cases hpass with
    | idle hnone =>
      rw [hother fun hrule => by rw [hnone x hrule] at hr; cases hr]
    | @added m y r' _ hr' hframe _ hevents hread =>
      by_cases hy : x = y
      · subst hy
        obtain rfl := Option.some.inj (hr.symm.trans hr')
        have hadded : eventsFor x (.message m :: polls) = m.added :: eventsFor x polls := by
          simp [eventsFor, hread, Poll.added]
        have hle : time m.added ≤ now := hnow _ (List.mem_append_left _ (.head _))
        rw [hadded, hevents, DetectionRule.kept, Window.prune_prune hle, ← Window.prune_append,
          ← Window.prune_append, List.append_assoc, List.singleton_append]
      · rw [hframe x hy, hother fun hrule => hy (Option.some.inj (hrule.symm.trans hread))]
    | @detected m y r' _ d _ hframe _ _ _ _ hrulename _ _ _ _ hread =>
      have hy : x ≠ y := fun heq => hquiet' d rfl (hrulename.trans heq.symm)
      rw [hframe x hy, hother fun hrule => hy (Option.some.inj (hrule.symm.trans hread))]

end Windows

/-! ## In the order of the clock -/

section Clock

variable {c : Consumer Rat} {x : String} {r : DetectionRule} {before between rest : List (Poll Rat)}
  {m m' : Message Rat}

/-- What comes between the two readings that make an id of their own each. -/
structure Ordered (m : Message Rat) (between : List (Poll Rat)) (m' : Message Rat) : Prop where
  after : ∀ t ∈ between.flatMap Poll.readings, m.named ≤ t
  before : ∀ t ∈ between.flatMap Poll.readings, t ≤ m'.added
  added : m.named ≤ m'.added
  named : m'.added ≤ m'.named

theorem Clocked.ordered (h : Clocked (before ++ .message m :: (between ++ .message m' :: rest))) :
    Ordered m between m' := by
  rw [Clocked, List.flatMap_append, List.flatMap_cons, List.flatMap_append, List.flatMap_cons] at h
  obtain ⟨-, h, -⟩ := List.pairwise_append.mp h
  obtain ⟨-, h, hlater⟩ := List.pairwise_append.mp h
  obtain ⟨-, h, hnext⟩ := List.pairwise_append.mp h
  obtain ⟨h, -, -⟩ := List.pairwise_append.mp h
  have hnamed : m.named ∈ (Poll.message m).readings := by simp [Poll.readings]
  have hadded : m'.added ∈ (Poll.message m').readings := .head _
  refine ⟨fun t ht => hlater _ hnamed t (List.mem_append_left _ ht), fun t ht => ?_, ?_, ?_⟩
  · exact hnext t ht _ (List.mem_append_left _ hadded)
  · exact hlater _ hnamed _ (List.mem_append_right _ (List.mem_append_left _ hadded))
  · exact (List.pairwise_cons.mp h).1 _ (by simp)

theorem mem_readings_of_mem_eventsFor {polls : List (Poll Rat)} {t : Rat}
    (h : t ∈ eventsFor x polls) : t ∈ polls.flatMap Poll.readings := by
  obtain ⟨p, hp, ht⟩ := List.mem_flatMap.mp h
  refine List.mem_flatMap.mpr ⟨p, (List.mem_filter.mp hp).1, ?_⟩
  cases p with
  | nothing => cases ht
  | kafkaError => cases ht
  | message m =>
    obtain rfl := List.mem_singleton.mp ht
    exact .head _

/-- A window that fills without a positive width needs no events. -/
theorem threshold_nonpos (hwidth : r.windowMinutes ≤ 0) {events : List Rat}
    (hsorted : (events ++ [m.added]).Pairwise (· ≤ ·))
    (hfills : r.threshold ≤ (r.kept m events).length) : r.threshold ≤ 0 := by
  have hnone : r.kept m events = [] := by
    refine List.filter_eq_nil_iff.mpr fun t ht hyoung => ?_
    have hle : t ≤ m.added := by
      rcases List.mem_append.mp ht with ht | ht
      · exact (List.pairwise_append.mp hsorted).2.2 t ht _ (.head _)
      · exact le_of_eq (List.mem_singleton.mp ht)
    have hcast : ((r.windowMinutes * 60 : Int) : Rat) ≤ 0 := by exact_mod_cast (by omega)
    have hlt : m.added - ((r.windowMinutes * 60 : Int) : Rat) < t := of_decide_eq_true hyoung
    linarith
  rwa [hnone, List.length_nil] at hfills

/-- Two detections of a rule in one second: of the events in between all are still young, so that
only their number counts. -/
theorem fills_iff_refills (h : c.Configured) (hfills : Fills c x r m)
    (hsorted : (c.eventsOf x ++ [m.added]).Pairwise (· ≤ ·)) (hordered : Ordered m between m')
    (hrule : (Poll.message m').rule = some x) (hsecond : truncate m.named = truncate m'.named)
    (hquiet : ∀ d ∈ (c.step (.message m)).2.detections between, d.input.rule ≠ x) :
    Fills ((c.step (.message m)).2.after between) x r m' ↔ Refills c x r m between m' := by
  obtain ⟨hrules, hstep⟩ := step_configured h (.message m)
  obtain ⟨hrules', -⟩ := after_configured hstep between
  have hr : PyDict.find? c.rules x = some r := hfills.2.1
  obtain ⟨d, -, -, -, hevents⟩ := hfills.step h
  have hkept : r.kept m' (((c.step (.message m)).2.after between).eventsOf x) =
      r.kept m' ((c.step (.message m)).2.eventsOf x ++ eventsFor x between) := by
    have hnow : ∀ t ∈ between.flatMap Poll.readings, t ≤ time m'.added := hordered.before
    rw [DetectionRule.kept, DetectionRule.kept, Window.prune_append, Window.prune_append,
      prune_eventsOf_after hstep (hrules ▸ hr) hnow hquiet]
  rw [Fills, hkept, hevents, hrules', hrules, Refills]
  simp only [hrule, hr, true_and]
  cases m.started with
  | false => rfl
  | true =>
    rw [if_pos rfl, if_pos rfl, List.nil_append]
    rcases le_or_gt r.windowMinutes 0 with hwidth | hwidth
    · have hnonpos := threshold_nonpos hwidth hsorted hfills.2.2
      constructor <;> intro _ <;> omega
    · have hcast : (60 : Rat) ≤ ((r.windowMinutes * 60 : Int) : Rat) := by exact_mod_cast (by omega)
      have hshort := lt_add_two hsecond
      have hall : r.kept m' (eventsFor x between) = eventsFor x between ++ [m'.added] := by
        refine List.filter_eq_self.mpr fun t ht => decide_eq_true ?_
        have hlate : m.named ≤ t := by
          rcases List.mem_append.mp ht with ht | ht
          · exact hordered.after t (mem_readings_of_mem_eventsFor ht)
          · exact hordered.added.trans_eq (List.mem_singleton.mp ht).symm
        have hnamed := hordered.named
        change m'.added - _ < t
        linarith
      rw [hall, List.length_append, List.length_singleton]
      push_cast
      rfl

end Clock

/-! ## Every run -/

section Runs

variable {detectionRules : List DetectionRule} {polls before between rest : List (Poll Rat)}
  {m m' : Message Rat} {x : String} {r : DetectionRule}

/-- A message in between has its second if it is also theirs. -/
theorem Ordered.second (h : Ordered m between m') (hsecond : truncate m.named = truncate m'.named)
    {m'' : Message Rat} (hmem : .message m'' ∈ between) :
    truncate m.named = truncate m''.named := by
  have hreading : m''.named ∈ between.flatMap Poll.readings :=
    List.mem_flatMap.mpr ⟨_, hmem, by simp [Poll.readings]⟩
  exact truncate_between hsecond (h.after _ hreading) ((h.before _ hreading).trans h.named)

/-- After a message that has filled its window, one that fills it again in the same second leaves
another detection of that second. -/
theorem Refills.exists_detection {c : Consumer Rat} (h : c.Configured)
    (hclock : Clocked (before ++ .message m :: (between ++ .message m' :: rest)))
    (hsorted : (c.eventsOf x ++ [m.added]).Pairwise (· ≤ ·)) (hfills : Fills c x r m)
    (hrule : (Poll.message m').rule = some x) (hsecond : truncate m.named = truncate m'.named)
    (hrefills : Refills c x r m between m') :
    ∃ e ∈ (c.step (.message m)).2.detections (between ++ .message m' :: rest), e.input.rule = x ∧
      e.workflowId = workflowId x e.message.named ∧ truncate m.named = truncate e.message.named := by
  have hm := (step_configured h (.message m)).2
  rw [Consumer.detections, Emitting.emitted_append]
  by_cases hquiet : ∀ d ∈ (c.step (.message m)).2.detections between, d.input.rule ≠ x
  · have hfills' := (fills_iff_refills h hfills hsorted hclock.ordered hrule hsecond hquiet).mpr hrefills
    have hlast := (after_configured hm between).2
    obtain ⟨e, he, hmessage, rfl, -⟩ := hfills'.step hlast
    obtain ⟨-, hname, -⟩ := fills_of_step hlast he
    refine ⟨e, List.mem_append_right _ ?_, rfl, hname, hmessage ▸ hsecond⟩
    rw [Emitting.emitted_cons_some he]
    exact .head _
  · simp only [not_forall, not_not] at hquiet
    obtain ⟨e, he, rfl⟩ := hquiet
    obtain ⟨first, p, last, hsplit, hp⟩ := Emitting.mem_emitted he
    obtain ⟨rfl, hname, -⟩ := fills_of_step (after_configured hm first).2 hp
    refine ⟨e, List.mem_append_left _ he, rfl, hname, hclock.ordered.second hsecond ?_⟩
    rw [hsplit]
    exact List.mem_append_right _ (.head _)

/-- A window that fills twice in a second has two detections in it. -/
theorem FillsOncePerSecond.of_nodup (hclock : Clocked polls)
    (hnodup : (((Consumer.load detectionRules).detections polls).map Detection.workflowId).Nodup) :
    FillsOncePerSecond detectionRules polls := by
  rintro before m between m' rest x r rfl hfills hrule hsecond hrefills
  have hbefore := (after_configured (configured_load detectionRules) before).2
  obtain ⟨d, hd, hmessage, hdrule, -⟩ := hfills.step hbefore
  obtain ⟨-, hname, -⟩ := fills_of_step hbefore hd
  obtain ⟨e, he, -, hname', hsame⟩ :=
    hrefills.exists_detection hbefore hclock hclock.sorted.2.2 hfills hrule hsecond
  rw [Consumer.detections, Emitting.emitted_append, Emitting.emitted_cons_some hd, List.map_append,
    List.map_cons] at hnodup
  refine (List.nodup_cons.mp (List.nodup_append.mp hnodup).2.1).1 (List.mem_map.mpr ⟨e, he, ?_⟩)
  rw [hname, hname', hdrule, workflowId, workflowId, hmessage, hsame]

/-- While the rule has no detection in between, no message of the second has filled its window. -/
theorem FillsOncePerSecond.not_fills (hfree : FillsOncePerSecond detectionRules polls)
    (hclock : Clocked polls)
    (hsplit : polls = before ++ .message m :: (between ++ .message m' :: rest))
    (hfills : Fills ((Consumer.load detectionRules).after before) x r m)
    (hsecond : truncate m.named = truncate m'.named)
    (hquiet : ∀ d ∈ (((Consumer.load detectionRules).after before).step
      (.message m)).2.detections between, d.input.rule ≠ x) {r' : DetectionRule} :
    ¬ Fills ((((Consumer.load detectionRules).after before).step (.message m)).2.after between)
      x r' m' := by
  intro hfills'
  subst hsplit
  have hbefore := (after_configured (configured_load detectionRules) before).2
  obtain ⟨hrules, hm⟩ := step_configured hbefore (.message m)
  have hr' := hfills'.2.1
  rw [(after_configured hm between).1, hrules] at hr'
  obtain rfl := Option.some.inj (hfills.2.1.symm.trans hr')
  refine hfree before m between m' rest x r rfl hfills hfills'.1 hsecond ?_
  exact (fills_iff_refills hbefore hfills hclock.sorted.2.2 hclock.ordered hfills'.1 hsecond
    hquiet).mp hfills'

/-- Of two detections with one id the first one's window has filled again. -/
theorem FillsOncePerSecond.nodup (hclock : Clocked polls)
    (hfree : FillsOncePerSecond detectionRules polls) :
    (((Consumer.load detectionRules).detections polls).map Detection.workflowId).Nodup := by
  rw [List.Nodup, List.pairwise_map, List.pairwise_iff_forall_sublist]
  intro d e hpair hid
  obtain ⟨before, op, between, op', rest, rfl, hd, he⟩ := Emitting.emitted_pair hpair
  have hbefore := (after_configured (configured_load detectionRules) before).2
  have hm := (step_configured hbefore op).2
  obtain ⟨rfl, hname, hmapped, r, hfills⟩ := fills_of_step hbefore hd
  obtain ⟨rfl, hname', hmapped', r', hfills'⟩ := fills_of_step (after_configured hm between).2 he
  rw [hname, hname'] at hid
  obtain ⟨hrule, hsecond⟩ := workflowId_inj hmapped hmapped' hid
  rw [← hrule] at hfills'
  by_cases hquiet : ∀ d' ∈ (((Consumer.load detectionRules).after before).step
      (.message d.message)).2.detections between, d'.input.rule ≠ d.input.rule
  · exact hfree.not_fills hclock rfl hfills hsecond hquiet hfills'
  · -- The first detection in between comes with its second after an uneventful stretch.
    simp only [not_forall, not_not, exists_prop] at hquiet
    obtain ⟨first, p, last, e', rfl, he', hrule', hfirst⟩ := Emitting.emitted_first hquiet
    obtain ⟨rfl, -, -, r'', hfills''⟩ := fills_of_step (after_configured hm first).2 he'
    have hmem : Poll.message e'.message ∈ first ++ .message e'.message :: last :=
      List.mem_append_right _ (.head _)
    have hsecond' := hclock.ordered.second hsecond hmem
    rw [hrule'] at hfills''
    rw [List.append_assoc, List.cons_append] at hfree hclock
    exact hfree.not_fills hclock rfl hfills hsecond' hfirst hfills''

/-- Where every start goes through, a second can hold as many events of a rule as the threshold of
the rule says. -/
theorem workflowIds_nodup_of_perSecond (hclock : Clocked polls)
    (hstarted : ∀ m, .message m ∈ polls → m.started = true)
    (hrate : ∀ x r s, PyDict.find? (loadDetectionRules detectionRules) x = some r →
      (perSecond x s polls : Int) ≤ max 1 r.threshold) :
    (((Consumer.load detectionRules).detections polls).map Detection.workflowId).Nodup := by
  refine FillsOncePerSecond.nodup hclock ?_
  rintro before m between m' rest x r rfl hfills hrule hsecond hrefills
  rw [Refills, if_pos (hstarted m (by simp)), length_eventsFor] at hrefills
  have hsame : between.countP (fun p => p.rule = some x) =
      perSecond x (truncate m.named) between := by
    refine List.countP_congr fun p hp => ?_
    cases p with
    | message m'' => simp [Poll.second, hclock.ordered.second hsecond hp]
    | nothing => simp [Poll.rule]
    | kafkaError => simp [Poll.rule]
  have hcount : perSecond x (truncate m.named)
      (before ++ .message m :: (between ++ .message m' :: rest)) =
        perSecond x (truncate m.named) before + (perSecond x (truncate m.named) between +
          (perSecond x (truncate m.named) rest + 1) + 1) := by
    simp [perSecond, Poll.second, List.countP_append, hfills.1, hrule, hsecond]
  have hr : PyDict.find? (loadDetectionRules detectionRules) x = some r := by
    rw [← hfills.2.1, (after_configured (configured_load detectionRules) before).1]
    rfl
  have hmost := hrate x r (truncate m.named) hr
  omega

/-- The detections of a run have workflow ids of their own exactly if no window fills twice in one
second. -/
theorem workflowIds_nodup_iff (detectionRules : List DetectionRule) (polls : List (Poll Rat))
    (hclock : Clocked polls) :
    (((Consumer.load detectionRules).detections polls).map Detection.workflowId).Nodup ↔
      FillsOncePerSecond detectionRules polls :=
  ⟨FillsOncePerSecond.of_nodup hclock, FillsOncePerSecond.nodup hclock⟩

/-- Two exports without a request; one is enough for a breach. -/
def exportsAt (s t : Rat) : List (Poll Rat) :=
  [.message (sampleMessage "pii_export" s s), .message (sampleMessage "pii_export" t t)]

theorem workflowIds_nodup_iff_exports : Clocked (exportsAt (1001 / 10) (1011 / 10)) ∧
    FillsOncePerSecond [⟨"export_without_dsr", 1, 1⟩] (exportsAt (1001 / 10) (1011 / 10)) := by
  have hclock : Clocked (exportsAt (1001 / 10) (1011 / 10)) := by decide +kernel
  exact ⟨hclock, (workflowIds_nodup_iff _ _ hclock).mp (by decide +kernel)⟩

/-- A tenth of a second apart. -/
def exports : List (Poll Rat) := exportsAt (1001 / 10) (1002 / 10)

theorem exports_share_workflowId : Clocked exports ∧
    ¬ (((Consumer.load [⟨"export_without_dsr", 1, 1⟩]).detections exports).map
      Detection.workflowId).Nodup := by
  decide +kernel

end Runs

end OcenPlatform.Breach
