import OcenPlatform.Breach.Consumer

/-! `SlidingWindow.add` on given timestamps: the window that forgets, and the full history. -/

namespace OcenPlatform.Breach

open Durable

/-! ## Calls -/

/-- A call of `add`, with what the clock shows then. -/
structure AddCall where
  timestamp : Option Rat := none
  clock : Rat

/-- `timestamp or time.time()`. -/
def AddCall.now (call : AddCall) : Rat :=
  match call.timestamp with
  | some timestamp => if timestamp = 0 then call.clock else timestamp
  | none => call.clock

namespace SlidingWindow

/-- What the calls return. -/
def results (w : SlidingWindow Rat) : List AddCall → List Bool
  | [] => []
  | call :: calls => (w.add call.now).1 :: results (w.add call.now).2 calls

/-- `add` with a subtraction that rounds, as that of floats does. -/
def addRounded (round : Rat → Rat) (w : SlidingWindow Rat) (now : Rat) : Bool × SlidingWindow Rat :=
  let events := Window.younger id (round (now - w.windowSeconds)) (w.events ++ [now])
  (w.threshold ≤ events.length, { w with events })

theorem results_eq (w : SlidingWindow Rat) (calls : List AddCall) :
    w.results calls = Lockstep.results (addRounded id) w (calls.map AddCall.now) := by
  induction calls generalizing w with
  | nil => rfl
  | cons call calls ih =>
    rw [results, ih]
    rfl

section Rounded

variable {round : Rat → Rat} {w : SlidingWindow Rat}

theorem foldl_addRounded (hnew : w.events = []) (nows : List Rat) :
    nows.foldl (fun w now => (w.addRounded round now).2) w =
      { w with events := Window.keptBy (fun now => round (now - w.windowSeconds)) nows } := by
  induction nows using List.reverseRecOn with
  | nil =>
    rw [List.foldl_nil, Window.keptBy, List.foldl_nil, ← hnew]
  | append_singleton nows now ih =>
    rw [List.foldl_append, ih, Window.keptBy_snoc]
    rfl

/-- **The window that forgets counts what the full history would**, however the subtraction rounds,
as long as it keeps the order. -/
theorem addRounded_eq_fullHistory (hround : Monotone round) (hnew : w.events = [])
    {before : List Rat} {now : Rat} (hsorted : (before ++ [now]).Pairwise (· ≤ ·)) (rest : List Rat) :
    (Lockstep.results (addRounded round) w (before ++ now :: rest))[before.length]? =
      some (decide (w.threshold ≤
        (before ++ [now]).countP fun s => round (now - w.windowSeconds) < s)) := by
  have hcutoff : Monotone fun now => round (now - w.windowSeconds) :=
    fun s t h => hround (sub_le_sub_right h _)
  rw [Lockstep.results_getElem?, foldl_addRounded hnew, List.countP_eq_length_filter]
  change some (decide (w.threshold ≤ (Window.younger id (round (now - w.windowSeconds))
    (Window.keptBy (fun now => round (now - w.windowSeconds)) before ++ [now])).length)) = _
  have hkept := Window.keptBy_eq hcutoff hsorted
  rw [Window.keptBy_snoc] at hkept
  rw [hkept]
  rfl

end Rounded

end SlidingWindow

section FullHistory

variable {calls : List AddCall} {timestamps : List Rat}

/-- A positive timestamp is the time of the call. -/
theorem AddCall.now_eq {call : AddCall} {t : Rat} (h : call.timestamp = some t) (ht : 0 < t) :
    call.now = t := by
  rw [AddCall.now, h]
  exact if_neg ht.ne'

theorem map_now_eq (hcalls : calls.map AddCall.timestamp = timestamps.map some)
    (hpositive : ∀ t ∈ timestamps, 0 < t) : calls.map AddCall.now = timestamps := by
  induction calls generalizing timestamps with
  | nil =>
    rw [List.map_nil, eq_comm, List.map_eq_nil_iff] at hcalls
    rw [hcalls, List.map_nil]
  | cons call calls ih =>
    cases timestamps with
    | nil => cases hcalls
    | cons t timestamps =>
      obtain ⟨hcall, hcalls⟩ := List.cons.inj hcalls
      have hnow := AddCall.now_eq hcall (hpositive t (.head _))
      have hrest := ih hcalls fun t ht => hpositive t (.tail _ ht)
      rw [List.map_cons, hnow, hrest]

end FullHistory

/-- **The pruned window equals the full history:** for timestamps that do not decrease, a call
returns `True` exactly if `threshold` timestamps up to its own are greater than its own less
`window_seconds`. -/
theorem add_eq_fullHistory (windowSeconds threshold : Int) (timestamps : List Rat)
    (hpositive : ∀ t ∈ timestamps, 0 < t) (hsorted : timestamps.Pairwise (· ≤ ·))
    (calls : List AddCall) (hcalls : calls.map AddCall.timestamp = timestamps.map some) (n : Nat)
    (t : Rat) (hn : timestamps[n]? = some t) :
    (SlidingWindow.results { windowSeconds, threshold } calls)[n]? = some true ↔
      threshold ≤ (timestamps.take (n + 1)).countP fun s => t - windowSeconds < s := by
  obtain ⟨hlt, hget⟩ := List.getElem?_eq_some_iff.mp hn
  have hsplit : timestamps = timestamps.take n ++ t :: timestamps.drop (n + 1) := by
    rw [← hget, List.getElem_cons_drop hlt, List.take_append_drop]
  have htake : timestamps.take (n + 1) = timestamps.take n ++ [t] := by
    rw [← hget, List.take_append_getElem hlt]
  have hlength : (timestamps.take n).length = n := List.length_take_of_le hlt.le
  have hsorted' : (timestamps.take n ++ [t]).Pairwise (· ≤ ·) := htake ▸ hsorted.take
  have hresult := SlidingWindow.addRounded_eq_fullHistory (w := { windowSeconds, threshold })
    monotone_id rfl hsorted' (timestamps.drop (n + 1))
  rw [← hsplit, hlength, ← htake] at hresult
  rw [SlidingWindow.results_eq, map_now_eq hcalls hpositive, hresult, Option.some_inj,
    decide_eq_true_eq]
  rfl

/-- A timestamp that lies on the cutoff does not count. -/
theorem add_eq_fullHistory_tie :
    (SlidingWindow.results { windowSeconds := 10, threshold := 2 }
      [{ timestamp := some 1, clock := 0 }, { timestamp := some 10, clock := 0 },
        { timestamp := some 20, clock := 0 }])[2]? = some true ↔
      (2 : Int) ≤ (([1, 10, 20] : List Rat).take 3).countP fun s => 20 - ((10 : Int) : Rat) < s :=
  add_eq_fullHistory 10 2 [1, 10, 20] (by decide +kernel) (by decide +kernel) _ rfl 2 20 rfl

end OcenPlatform.Breach
