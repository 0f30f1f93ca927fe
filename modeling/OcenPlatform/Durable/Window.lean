import Mathlib.Algebra.Order.Group.Defs
import Mathlib.Data.List.Basic
import Mathlib.Data.List.Induction

/-! Sliding windows: lists of events from which those are dropped that are too old at the
time of the next look, and admission by what is left. -/

namespace OcenPlatform.Durable.Window

/-! ## Any cutoff -/

section Cutoff

variable {ε τ : Type} [LinearOrder τ]

/-- What is younger than the cutoff. -/
def younger (time : ε → τ) (cutoff : τ) (events : List ε) : List ε :=
  events.filter fun e => cutoff < time e

variable {time : ε → τ} {first later : τ} {events : List ε}

theorem younger_append (events events' : List ε) : younger time later (events ++ events') =
    younger time later events ++ younger time later events' := List.filter_append ..

/-- What was dropped before would be dropped now. -/
theorem younger_younger (h : first ≤ later) :
    younger time later (younger time first events) = younger time later events := by
  unfold younger
  rw [List.filter_filter]
  refine List.filter_congr fun e _ => ?_
  rw [Bool.eq_iff_iff]
  simp only [Bool.and_eq_true, decide_eq_true_eq, and_iff_left_iff_imp]
  exact fun hlater => lt_of_le_of_lt h hlater

/-- What is kept of these events, if each of them is a look with a cutoff of its own. -/
def keptBy (cutoff : τ → τ) (nows : List τ) : List τ :=
  nows.foldl (fun es now => younger id (cutoff now) (es ++ [now])) []

variable {cutoff : τ → τ} {nows : List τ} {now : τ}

theorem keptBy_snoc : keptBy cutoff (nows ++ [now]) =
    younger id (cutoff now) (keptBy cutoff nows ++ [now]) := by
  rw [keptBy, List.foldl_append]
  rfl

/-- **Invariant.** What was dropped counts at no later look, if the cutoffs do not go back. -/
theorem younger_keptBy (hcutoff : Monotone cutoff) (hsorted : nows.Pairwise (· ≤ ·)) {later : τ}
    (hlater : ∀ t ∈ nows, t ≤ later) :
    younger id (cutoff later) (keptBy cutoff nows) = younger id (cutoff later) nows := by
  induction nows using List.reverseRecOn with
  | nil => rfl
  | append_singleton nows now ih =>
    obtain ⟨hnows, -, -⟩ := List.pairwise_append.mp hsorted
    have hnow : cutoff now ≤ cutoff later := hcutoff (hlater now (by simp))
    have hkept := ih hnows fun t ht => hlater t (List.mem_append_left _ ht)
    rw [keptBy_snoc, younger_younger hnow, younger_append, hkept, younger_append]

/-- A look finds what it would find if nothing had been dropped. -/
theorem keptBy_eq (hcutoff : Monotone cutoff) (hsorted : (nows ++ [now]).Pairwise (· ≤ ·)) :
    keptBy cutoff (nows ++ [now]) = younger id (cutoff now) (nows ++ [now]) := by
  obtain ⟨hnows, -, hle⟩ := List.pairwise_append.mp hsorted
  have hnow : ∀ t ∈ nows, t ≤ now := fun t ht => hle t ht now (.head _)
  rw [keptBy_snoc, younger_append, younger_keptBy hcutoff hnows hnow, younger_append]

end Cutoff

/-! ## A width -/

variable {ε τ : Type} [AddCommGroup τ] [LinearOrder τ]

/-- What is younger than `width`. -/
def prune (time : ε → τ) (now width : τ) (events : List ε) : List ε :=
  events.filter fun e => now - width < time e

section Prune

variable {time : ε → τ} {now later width : τ} {events : List ε}

theorem mem_prune {e : ε} : e ∈ prune time now width events ↔ e ∈ events ∧ now - width < time e := by
  simp [prune]

theorem prune_append (events events' : List ε) : prune time now width (events ++ events') =
    prune time now width events ++ prune time now width events' := List.filter_append ..

theorem prune_map {ε' : Type} (f : ε' → ε) (events : List ε') :
    prune time now width (events.map f) = (prune (time ∘ f) now width events).map f := by
  simp [prune, List.filter_map, Function.comp_def]

theorem prune_sublist : (prune time now width events).Sublist events := List.filter_sublist

/-- Of events in order of time, more than `n` are in the window if and only if the one that
has `n` younger ones is. -/
theorem lt_length_prune_iff {n : Nat} (hsorted : events.Pairwise (time · ≤ time ·)) :
    n < (prune time now width events).length ↔
      ∃ e ∈ events.reverse[n]?, now - width < time e := by
  have hdescending : events.reverse.Pairwise (time · ≥ time ·) := List.pairwise_reverse.mpr hsorted
  have hlength : (prune time now width events).length =
      (prune time now width events.reverse).length := by
    simp [prune, List.filter_reverse]
  rw [hlength]
  generalize events.reverse = latest at hdescending
  induction latest generalizing n with
  | nil => simp [prune]
  | cons e latest ih =>
    obtain ⟨he, hlatest⟩ := List.pairwise_cons.mp hdescending
    by_cases hyoung : now - width < time e
    · have hprune : prune time now width (e :: latest) = e :: prune time now width latest := by
        simp [prune, hyoung]
      rw [hprune]
      cases n with
      | zero => simp [hyoung]
      | succ n => simpa using ih hlatest
    · -- Everything after `e` is at least as old.
      have hold : ∀ e' ∈ e :: latest, ¬ now - width < time e' := by
        intro e' he' hlt
        rcases List.mem_cons.mp he' with rfl | he'
        · exact hyoung hlt
        · exact hyoung (lt_of_lt_of_le hlt (he e' he'))
      have hnone : prune time now width (e :: latest) = [] := by
        simpa [prune] using hold
      rw [hnone]
      simp only [List.length_nil, Nat.not_lt_zero, false_iff, not_exists, not_and]
      exact fun e' he' => hold e' (List.mem_of_getElem? he')

variable [IsOrderedAddMonoid τ]

/-- What was dropped before would be dropped now. -/
theorem prune_prune (h : now ≤ later) :
    prune time later width (prune time now width events) = prune time later width events :=
  younger_younger (sub_le_sub_right h width)

end Prune

/-! ## Admission -/

section Admission

variable (limit : Int) (width : τ)

/-- Admit if fewer than `limit` of the admitted ones are still in the window. -/
def offer (events : List τ) (now : τ) : Bool × List τ :=
  if limit ≤ (prune id now width events).length then (false, prune id now width events)
  else (true, prune id now width events ++ [now])

/-- What is kept after these requests. -/
def events (nows : List τ) : List τ := nows.foldl (fun es now => (offer limit width es now).2) []

/-- The requests that are admitted. -/
def admitted (nows : List τ) : List τ :=
  go [] nows
where
  go (es : List τ) : List τ → List τ
    | [] => []
    | now :: nows =>
      (bif (offer limit width es now).1 then [now] else []) ++ go (offer limit width es now).2 nows

variable {limit : Int} {width : τ} {nows : List τ} {now : τ}

theorem events_snoc : events limit width (nows ++ [now]) =
    (offer limit width (events limit width nows) now).2 := by
  simp [events]

theorem admitted_snoc : admitted limit width (nows ++ [now]) = admitted limit width nows ++
    bif (offer limit width (events limit width nows) now).1 then [now] else [] := by
  have hgo : ∀ es, admitted.go limit width es (nows ++ [now]) = admitted.go limit width es nows ++
      bif (offer limit width (nows.foldl (fun es now => (offer limit width es now).2) es) now).1
        then [now] else [] := by
    induction nows with
    | nil =>
      intro es
      simp only [List.nil_append, admitted.go, List.append_nil, List.foldl_nil]
    | cons first nows ih =>
      intro es
      simp only [List.cons_append, admitted.go, ih, List.append_assoc, List.foldl_cons]
  exact hgo []

/-- Never more than the limit is kept. -/
theorem length_events_le (hlimit : 0 ≤ limit) : (events limit width nows).length ≤ limit := by
  induction nows using List.reverseRecOn with
  | nil => simpa [events] using hlimit
  | append_singleton nows now ih =>
    have hprune : (prune id now width (events limit width nows)).length ≤
        (events limit width nows).length := List.length_filter_le _ _
    rw [events_snoc, offer]
    split
    · simp only
      omega
    · rename_i hless
      simp only [List.length_append, List.length_singleton]
      omega

variable [IsOrderedAddMonoid τ]

/-- **Invariant.** What pruning drops counts in no later window. -/
theorem prune_events (hsorted : nows.Pairwise (· ≤ ·)) {later : τ} (hlater : ∀ t ∈ nows, t ≤ later) :
    prune id later width (events limit width nows) =
      prune id later width (admitted limit width nows) := by
  induction nows using List.reverseRecOn with
  | nil => rfl
  | append_singleton nows now ih =>
    obtain ⟨hnows, -, -⟩ := List.pairwise_append.mp hsorted
    have hnow : now ≤ later := hlater now (by simp)
    have hkept := ih hnows fun t ht => hlater t (List.mem_append_left _ ht)
    rw [events_snoc, admitted_snoc, offer]
    split
    · simp only [cond_false, List.append_nil]
      rw [prune_prune hnow, hkept]
    · simp only [cond_true]
      rw [prune_append, prune_append, prune_prune hnow, hkept]

/-- A request is refused if and only if the window before it is full. -/
theorem offer_eq_false_iff (hsorted : nows.Pairwise (· ≤ ·)) (hnow : ∀ t ∈ nows, t ≤ now) :
    (offer limit width (events limit width nows) now).1 = false ↔
      limit ≤ (prune id now width (admitted limit width nows)).length := by
  rw [← prune_events hsorted hnow, offer]
  split <;> simp_all

/-- In no stretch of time that is shorter than the window are more than `limit` admitted. -/
theorem length_filter_admitted_le (hlimit : 0 ≤ limit) (hsorted : nows.Pairwise (· ≤ ·))
    {within : τ → Bool} (hwithin : ∀ s t, within s = true → within t = true → t - width < s) :
    ((admitted limit width nows).filter within).length ≤ limit := by
  induction nows using List.reverseRecOn with
  | nil => simpa [admitted, admitted.go] using hlimit
  | append_singleton nows now ih =>
    obtain ⟨hnows, -, hle⟩ := List.pairwise_append.mp hsorted
    have hnow : ∀ t ∈ nows, t ≤ now := fun t ht => hle t ht now (by simp)
    have hbefore := ih hnows
    rw [admitted_snoc, List.filter_append, List.length_append]
    cases hoffer : (offer limit width (events limit width nows) now).1 with
    | false => simpa using hbefore
    | true =>
      by_cases hin : within now = true
      · have hless : ¬ limit ≤ (prune id now width (admitted limit width nows)).length := by
          rw [← offer_eq_false_iff hnows hnow, hoffer]
          simp
        -- Whatever lies in the stretch together with `now` is in the window that ends at `now`.
        have hsub : ((admitted limit width nows).filter within).length ≤
            (prune id now width (admitted limit width nows)).length := by
          refine (List.monotone_filter_right _ fun t ht => ?_).length_le
          exact decide_eq_true (hwithin t now ht hin)
        simp only [cond_true, List.filter_cons_of_pos hin, List.filter_nil, List.length_singleton]
        omega
      · simpa [hin] using hbefore

end Admission

end OcenPlatform.Durable.Window
