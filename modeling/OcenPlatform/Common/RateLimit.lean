import Mathlib.Algebra.Order.Field.Rat
import Mathlib.Tactic.Linarith
import OcenPlatform.Durable.Window
import OcenPlatform.PyDict

/-! `RateLimitMiddleware`: a sliding window of admitted requests for each client address. -/

namespace OcenPlatform.Common

open Durable

structure HTTPException where
  statusCode : Nat
  detail : String
  deriving DecidableEq, Repr

structure RateLimitMiddleware where
  rpm : Int := 60
  requests : PyDict String (List Rat) := []

/-- A request, as far as the limiter looks at it: `request.client.host`, if there is a
client, and the reading of the clock. -/
structure Arrival where
  host : Option String
  now : Rat

def Arrival.clientIp (a : Arrival) : String := a.host.getD "unknown"

/-- What `dispatch` does with a request: it hands it on as it is, or counts it and hands it
on, or raises. -/
inductive LimiterOutcome where
  | passed
  | admitted
  | rejected (e : HTTPException)
  deriving DecidableEq, Repr

namespace RateLimitMiddleware

def windowSeconds : Rat := 60

/-- `self._requests[client_ip]` of a `defaultdict(list)`. -/
def stored (m : RateLimitMiddleware) (clientIp : String) : List Rat :=
  PyDict.get m.requests clientIp []

/-- `dispatch` up to `call_next`; nothing is awaited on the way. -/
def dispatch (enabled : Bool) (m : RateLimitMiddleware) (a : Arrival) :
    LimiterOutcome × RateLimitMiddleware :=
  if enabled = false then (.passed, m)
  else
    let kept := Window.prune id a.now windowSeconds (m.stored a.clientIp)
    let requests := PyDict.set m.requests a.clientIp kept
    if m.rpm ≤ kept.length then
      (.rejected {
        statusCode := 429
        detail := "Rate limit exceeded. Max " ++ toString m.rpm ++ " requests per minute." },
        { m with requests })
    else
      (.admitted, { m with requests := PyDict.set requests a.clientIp (kept ++ [a.now]) })

/-- The headers of a response, from the lists as they are when it is handed back. The
numbers stand for their texts. -/
def headers (m : RateLimitMiddleware) (clientIp : String) : PyDict String Int :=
  [("X-RateLimit-Limit", m.rpm),
    ("X-RateLimit-Remaining", m.rpm - (m.stored clientIp).length)]

/-! ## Runs -/

/-- The limiter after these requests. -/
def after (rpm : Int) (arrivals : List Arrival) : RateLimitMiddleware :=
  arrivals.foldl (fun m a => (m.dispatch true a).2) { rpm }

/-- Each request with what was done with it. -/
def decisions (m : RateLimitMiddleware) : List Arrival → List (Arrival × LimiterOutcome)
  | [] => []
  | a :: arrivals => (a, (m.dispatch true a).1) :: decisions (m.dispatch true a).2 arrivals

/-- When requests of the client were admitted. -/
def admitted (rpm : Int) (clientIp : String) (arrivals : List Arrival) : List Rat :=
  ((decisions { rpm } arrivals).filter fun d => d.1.clientIp = clientIp ∧ d.2 = .admitted).map
    fun d => d.1.now

/-- When requests of the client came. -/
def times (clientIp : String) (arrivals : List Arrival) : List Rat :=
  (arrivals.filter fun a => a.clientIp = clientIp).map Arrival.now

/-! ## One request -/

section Dispatch

variable {m : RateLimitMiddleware} {a : Arrival}

@[simp] theorem dispatch_rpm : (m.dispatch true a).2.rpm = m.rpm := by
  simp only [dispatch, Bool.true_eq_false, if_false]
  split <;> rfl

/-- The client's list is that of one window. -/
theorem stored_dispatch_self : (m.dispatch true a).2.stored a.clientIp =
    (Window.offer m.rpm windowSeconds (m.stored a.clientIp) a.now).2 := by
  simp only [dispatch, Window.offer, Bool.true_eq_false, if_false]
  split <;> simp [stored, PyDict.get]

/-- **Frame.** The lists of the others stay. -/
theorem stored_dispatch_ne {clientIp : String} (h : clientIp ≠ a.clientIp) :
    (m.dispatch true a).2.stored clientIp = m.stored clientIp := by
  simp only [dispatch, Bool.true_eq_false, if_false]
  split <;> simp [stored, PyDict.get, PyDict.find?_set_ne h]

theorem dispatch_admitted_iff : (m.dispatch true a).1 = .admitted ↔
    (Window.offer m.rpm windowSeconds (m.stored a.clientIp) a.now).1 = true := by
  simp only [dispatch, Window.offer, Bool.true_eq_false, if_false]
  split <;> simp

theorem dispatch_rejected_iff : (∃ e, (m.dispatch true a).1 = .rejected e) ↔
    (Window.offer m.rpm windowSeconds (m.stored a.clientIp) a.now).1 = false := by
  simp only [dispatch, Window.offer, Bool.true_eq_false, if_false]
  split <;> simp

/-- What is done with a request depends on the limit and the client's own list. -/
theorem dispatch_congr {m' : RateLimitMiddleware} (hrpm : m.rpm = m'.rpm)
    (hstored : m.stored a.clientIp = m'.stored a.clientIp) :
    (m.dispatch true a).1 = (m'.dispatch true a).1 := by
  simp only [dispatch, Bool.true_eq_false, if_false, hrpm, hstored]
  split <;> rfl

end Dispatch

/-! ## Every run -/

section Run

variable {rpm : Int} {clientIp : String} {arrivals : List Arrival} {a : Arrival}

theorem after_snoc : after rpm (arrivals ++ [a]) = ((after rpm arrivals).dispatch true a).2 := by
  simp [after]

@[simp] theorem after_rpm : (after rpm arrivals).rpm = rpm := by
  induction arrivals using List.reverseRecOn with
  | nil => rfl
  | append_singleton arrivals a ih => rw [after_snoc, dispatch_rpm, ih]

theorem times_snoc_self (h : a.clientIp = clientIp) :
    times clientIp (arrivals ++ [a]) = times clientIp arrivals ++ [a.now] := by
  simp [times, h]

theorem times_snoc_ne (h : a.clientIp ≠ clientIp) :
    times clientIp (arrivals ++ [a]) = times clientIp arrivals := by
  simp [times, h]

/-- **Projection.** A client's list is that of its own requests in one window. -/
theorem stored_after : (after rpm arrivals).stored clientIp =
    Window.events rpm windowSeconds (times clientIp arrivals) := by
  induction arrivals using List.reverseRecOn with
  | nil => rfl
  | append_singleton arrivals a ih =>
    rw [after_snoc]
    by_cases h : a.clientIp = clientIp
    · subst h
      rw [stored_dispatch_self, after_rpm, ih, times_snoc_self rfl, Window.events_snoc]
    · rw [stored_dispatch_ne (Ne.symm h), times_snoc_ne h, ih]

theorem decisions_snoc (m : RateLimitMiddleware) : decisions m (arrivals ++ [a]) =
    decisions m arrivals ++
      [(a, ((arrivals.foldl (fun m a => (m.dispatch true a).2) m).dispatch true a).1)] := by
  induction arrivals generalizing m with
  | nil => rfl
  | cons first arrivals ih =>
    simp only [List.cons_append, decisions, ih, List.foldl_cons]

/-- **Projection.** So are the admissions. -/
theorem admitted_eq : admitted rpm clientIp arrivals =
    Window.admitted rpm windowSeconds (times clientIp arrivals) := by
  induction arrivals using List.reverseRecOn with
  | nil => rfl
  | append_singleton arrivals a ih =>
    have hsnoc : decisions { rpm } (arrivals ++ [a]) = decisions { rpm } arrivals ++
        [(a, ((after rpm arrivals).dispatch true a).1)] := decisions_snoc { rpm }
    by_cases h : a.clientIp = clientIp
    · subst h
      have hoffer := dispatch_admitted_iff (m := after rpm arrivals) (a := a)
      rw [after_rpm, stored_after] at hoffer
      rw [times_snoc_self rfl, Window.admitted_snoc, ← ih, admitted, hsnoc, List.filter_append,
        List.map_append]
      congr 1
      cases hwindow : (Window.offer rpm windowSeconds (Window.events rpm windowSeconds
          (times a.clientIp arrivals)) a.now).1 with
      | true =>
        have hdone : ((after rpm arrivals).dispatch true a).1 = .admitted := hoffer.mpr hwindow
        simp [hdone]
      | false =>
        have hdone : ((after rpm arrivals).dispatch true a).1 ≠ .admitted := by
          rw [Ne, hoffer, hwindow]
          simp
        simp [hdone]
    · rw [times_snoc_ne h, ← ih, admitted, hsnoc, List.filter_append]
      simp [admitted, h]

theorem times_sorted (hclock : arrivals.Pairwise (·.now ≤ ·.now)) :
    (times clientIp arrivals).Pairwise (· ≤ ·) :=
  (hclock.sublist List.filter_sublist).map _ fun _ _ h => h

/-- In no stretch of time that is shorter than the window are more than `rpm` admitted. -/
theorem admitted_within (hrpm : 1 ≤ rpm) (hclock : arrivals.Pairwise (·.now ≤ ·.now))
    {within : Rat → Bool}
    (hwithin : ∀ s t, within s = true → within t = true → t - windowSeconds < s) :
    ((admitted rpm clientIp arrivals).filter within).length ≤ rpm := by
  rw [admitted_eq]
  exact Window.length_filter_admitted_le (by omega) (times_sorted hclock) hwithin

theorem length_stored_le (hrpm : 1 ≤ rpm) : ((after rpm arrivals).stored clientIp).length ≤ rpm := by
  rw [stored_after]
  exact Window.length_events_le (by omega)

/-- Whoever is rejected has used up the window. -/
theorem full_of_rejected (hrpm : 1 ≤ rpm) (hclock : (arrivals ++ [a]).Pairwise (·.now ≤ ·.now))
    (hrejected : ∃ e, ((after rpm arrivals).dispatch true a).1 = .rejected e) :
    ((admitted rpm a.clientIp arrivals).filter fun t => a.now - windowSeconds < t).length = rpm := by
  obtain ⟨harrivals, -, hlast⟩ := List.pairwise_append.mp hclock
  have hsorted : (times a.clientIp arrivals).Pairwise (· ≤ ·) := times_sorted harrivals
  have hnow : ∀ t ∈ times a.clientIp arrivals, t ≤ a.now := by
    intro t ht
    obtain ⟨b, hb, rfl⟩ := List.mem_map.mp ht
    exact hlast b (List.mem_filter.mp hb).1 a (by simp)
  rw [dispatch_rejected_iff, after_rpm, stored_after] at hrejected
  have hfull := (Window.offer_eq_false_iff hsorted hnow).mp hrejected
  -- What still counts is part of the stored list.
  have hkept : Window.prune id a.now windowSeconds
      (Window.events rpm windowSeconds (times a.clientIp arrivals)) =
        Window.prune id a.now windowSeconds
          (Window.admitted rpm windowSeconds (times a.clientIp arrivals)) :=
    Window.prune_events hsorted hnow
  have hstored : (Window.events rpm windowSeconds (times a.clientIp arrivals)).length ≤ rpm :=
    Window.length_events_le (by omega)
  have hprune : (Window.prune id a.now windowSeconds
      (Window.events rpm windowSeconds (times a.clientIp arrivals))).length ≤
        (Window.events rpm windowSeconds (times a.clientIp arrivals)).length :=
    List.length_filter_le _ _
  rw [hkept] at hprune
  rw [admitted_eq]
  change ((Window.prune id a.now windowSeconds _).length : Int) = rpm
  omega

/-- **Non-interference.** -/
theorem dispatch_own (arrivals : List Arrival) (a : Arrival) :
    ((after rpm arrivals).dispatch true a).1 =
      ((after rpm (arrivals.filter fun b => b.clientIp = a.clientIp)).dispatch true a).1 := by
  apply dispatch_congr
  · rw [after_rpm, after_rpm]
  · rw [stored_after, stored_after]
    simp [times]

end Run

/-- The limiter keeps its limit, and keeps clients apart. -/
theorem rate_limited (rpm : Int) (hrpm : 1 ≤ rpm) (arrivals : List Arrival)
    (hclock : arrivals.Pairwise (·.now ≤ ·.now)) :
    (∀ clientIp start,
      ((admitted rpm clientIp arrivals).filter fun t =>
        start ≤ t ∧ t < start + windowSeconds).length ≤ rpm ∧
      ((admitted rpm clientIp arrivals).filter fun t =>
        start < t ∧ t ≤ start + windowSeconds).length ≤ rpm) ∧
    (∀ before a rest, arrivals = before ++ a :: rest →
      ((∃ e, ((after rpm before).dispatch true a).1 = .rejected e) →
        ((admitted rpm a.clientIp before).filter fun t =>
          a.now - windowSeconds < t).length = rpm) ∧
      ((after rpm before).dispatch true a).1 =
        ((after rpm (before.filter fun b => b.clientIp = a.clientIp)).dispatch true a).1) ∧
    ∀ before rest, arrivals = before ++ rest → ∀ clientIp,
      ((after rpm before).stored clientIp).length ≤ rpm ∧
      ∃ remaining, PyDict.find? ((after rpm before).headers clientIp) "X-RateLimit-Remaining" =
        some remaining ∧ 0 ≤ remaining := by
  refine ⟨fun clientIp start => ⟨?_, ?_⟩, ?_, ?_⟩
  · apply admitted_within hrpm hclock
    intro s t hs ht
    simp only [decide_eq_true_eq] at hs ht
    linarith
  · apply admitted_within hrpm hclock
    intro s t hs ht
    simp only [decide_eq_true_eq] at hs ht
    linarith
  · rintro before a rest rfl
    refine ⟨full_of_rejected hrpm ?_, dispatch_own before a⟩
    rw [List.append_cons] at hclock
    exact (List.pairwise_append.mp hclock).1
  · rintro before rest - clientIp
    have hle : ((after rpm before).stored clientIp).length ≤ rpm := length_stored_le hrpm
    refine ⟨hle, rpm - ((after rpm before).stored clientIp).length, ?_, by omega⟩
    simp [headers]

/-- Two clients and a limit of one: the second request of the first client is rejected. -/
def sampleArrivals : List Arrival :=
  [⟨some "10.0.0.1", 0⟩, ⟨some "10.0.0.2", 1⟩, ⟨some "10.0.0.1", 59⟩, ⟨none, 60⟩]

example : (decisions { rpm := 1 } sampleArrivals).map Prod.snd = [.admitted, .admitted, .rejected
    { statusCode := 429, detail := "Rate limit exceeded. Max 1 requests per minute." },
    .admitted] := by decide +kernel

theorem rate_limited_sample : (1 : Int) ≤ 1 ∧ sampleArrivals.Pairwise (·.now ≤ ·.now) ∧
    ((admitted 1 "10.0.0.1" sampleArrivals).filter fun t =>
      0 ≤ t ∧ t < 0 + windowSeconds).length ≤ (1 : Int) := by
  have hclock : sampleArrivals.Pairwise (·.now ≤ ·.now) := by decide +kernel
  exact ⟨by decide, hclock, ((rate_limited 1 (by decide) sampleArrivals hclock).1 "10.0.0.1" 0).1⟩

end RateLimitMiddleware

end OcenPlatform.Common
