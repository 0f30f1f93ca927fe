import OcenPlatform.FrappeSync.Consumer

/-! What becomes of the events that the consumer polls. -/

namespace OcenPlatform.FrappeSync

open Durable

namespace Sync

variable {ρ : Type}

/-! ## The fate of an event -/

/-- The lines of a message from one of its polls on. -/
def Logged (s : Sync ρ) (p : ρ) (o : Nat) (lines : List Line) : Prop :=
  Entry.polled p o :: lines.map (Entry.logged p o) <:+: s.trace

/-- Nothing more is owed to the event: Frappe accepted it, or it was given up with a logged error,
after five failed attempts or an exception, or a restart passed it over. -/
inductive Settled (client : FrappeWebhookClient) (s : Sync ρ) (p : ρ) (o : Nat) (eventType : String)
    (event : Json) : Prop where
  | delivered (failures : List Line) (status : Nat) (hstatus : status < 300)
      (hlogged : s.Logged p o (failures ++ [.webhookDelivered eventType status (failures.length + 1)]))
      (haccepted : client.webhook eventType event ∈ s.accepted)
  | deadLetter (failures : List Line) (eventId : Json) (hcount : failures.length = maxRetries)
      (hfailures : ∀ line ∈ failures, line.isFailure = true)
      (hlogged : s.Logged p o (failures ++ [.webhookDeliveryFailed eventType maxRetries,
        .webhookDeadLetter eventType eventId]))
  | raised (failures : List Line) (error : String) (hcount : failures.length < maxRetries)
      (hfailures : ∀ line ∈ failures, line.isFailure = true)
      (hlogged : s.Logged p o (failures ++ [errorLine error]))
  | passedOver (committed : Option Nat) (hentry : .passedOver p o committed ∈ s.trace)
      (hcommitted : ∀ c, committed = some c → o < c)

/-- The message is being delivered, or was at a crash that no restart has followed. -/
def Holds (s : Sync ρ) (p : ρ) (o : Nat) : Prop :=
  (∃ eventType event attempt, s.phase = .delivering p o eventType event attempt) ∨
    s.phase = .down (some (p, o))

/-- No session will come back to the message. -/
structure Gone (s : Sync ρ) (p : ρ) (o : Nat) : Prop where
  passed : s.offsets.Passed p o
  not_held : ¬ s.Holds p o

def Accounted (client : FrappeWebhookClient) (s : Sync ρ) (p : ρ) (o : Nat) (eventType : String)
    (event : Json) : Prop :=
  s.Settled client p o eventType event ∨ s.Holds p o ∨ s.offsets.Comes p o

/-! ## The invariant -/

/-- The message in delivery, with the attempts that have failed. -/
structure Delivering (s : Sync ρ) (p : ρ) (o : Nat) (eventType : String) (event : Json)
    (attempt : Nat) : Prop where
  message : ∃ value, (s.log p)[o]? = some value ∧ forwards value = .ok (some (eventType, event))
  attempt_lt : attempt < maxRetries
  failures : ∃ failures : List Line, failures.length = attempt ∧
    (∀ line ∈ failures, line.isFailure = true) ∧
    Entry.polled p o :: failures.map (Entry.logged p o) <:+ s.trace

structure Inv (client : FrappeWebhookClient) (s : Sync ρ) : Prop where
  sound : s.offsets.Sound s.ends
  polled_lt : ∀ p o, .polled p o ∈ s.trace → o < s.ends p
  delivering : ∀ p o eventType event attempt, s.phase = .delivering p o eventType event attempt →
    s.Delivering p o eventType event attempt
  left_lt : ∀ p o, s.phase = .down (some (p, o)) → o < s.ends p
  accounted : ∀ p o value eventType event, .polled p o ∈ s.trace → (s.log p)[o]? = some value →
    forwards value = .ok (some (eventType, event)) → s.Accounted client p o eventType event

variable {client : FrappeWebhookClient} {s s' : Sync ρ} {p : ρ} {o : Nat} {eventType : String}
  {event : Json}

theorem Logged.mono {lines : List Line} (h : s.Logged p o lines) (htrace : s.trace <+: s'.trace) :
    s'.Logged p o lines := List.IsInfix.trans h (List.IsPrefix.isInfix htrace)

/-- A settled event stays settled. -/
theorem Settled.mono (h : s.Settled client p o eventType event) (htrace : s.trace <+: s'.trace)
    (haccepted : s.accepted ⊆ s'.accepted) : s'.Settled client p o eventType event := by
  cases h with
  | delivered failures status hstatus hlogged hmem =>
    exact .delivered failures status hstatus (hlogged.mono htrace) (haccepted hmem)
  | deadLetter failures eventId hcount hfailures hlogged =>
    exact .deadLetter failures eventId hcount hfailures (hlogged.mono htrace)
  | raised failures error hcount hfailures hlogged =>
    exact .raised failures error hcount hfailures (hlogged.mono htrace)
  | passedOver committed hentry hcommitted =>
    exact .passedOver committed (htrace.subset hentry) hcommitted

theorem Delivering.same {attempt : Nat} (h : s.Delivering p o eventType event attempt)
    (hlog : s'.log = s.log) (htrace : s'.trace = s.trace) :
    s'.Delivering p o eventType event attempt := by
  obtain ⟨hmessage, hattempt, hfailures⟩ := h
  rw [← hlog] at hmessage
  rw [← htrace] at hfailures
  exact ⟨hmessage, hattempt, hfailures⟩

theorem Accounted.mono (h : s.Accounted client p o eventType event) (htrace : s.trace <+: s'.trace)
    (haccepted : s.accepted ⊆ s'.accepted) (hholds : s.Holds p o → s'.Holds p o)
    (hcomes : s.offsets.Comes p o → s'.offsets.Comes p o) :
    s'.Accounted client p o eventType event :=
  h.imp (·.mono htrace haccepted) (Or.imp hholds hcomes)

theorem inv_init : (init : Sync ρ).Inv client where
  sound := ⟨nofun, fun _ => Nat.le_refl _⟩
  polled_lt := nofun
  delivering := nofun
  left_lt := nofun
  accounted := nofun

/-- What has been delivered of a message goes on with the next lines. -/
theorem suffix_append {failures lines : List Line}
    (h : Entry.polled p o :: failures.map (Entry.logged p o) <:+ s.trace)
    (htrace : s'.trace = s.trace ++ lines.map (Entry.logged p o)) :
    Entry.polled p o :: (failures ++ lines).map (Entry.logged p o) <:+ s'.trace := by
  obtain ⟨before, hbefore⟩ := h
  exact ⟨before, by simp [htrace, ← hbefore]⟩

/-- The consumer goes down, and holds on to the message that it delivers. -/
theorem inv_down (h : s.Inv client) {left : Option (ρ × Nat)}
    (hleft : ∀ p o, s.Holds p o ↔ left = some (p, o)) :
    ({ s with phase := .down left } : Sync ρ).Inv client where
  sound := h.sound
  polled_lt := h.polled_lt
  delivering := nofun
  left_lt p o hphase := by
    rcases (hleft p o).mpr (Phase.down.inj hphase) with ⟨eventType, event, attempt, hphase⟩ | hphase
    · obtain ⟨value, hvalue, -⟩ := (h.delivering p o eventType event attempt hphase).message
      exact (List.getElem?_eq_some_iff.mp hvalue).1
    · exact h.left_lt p o hphase
  accounted p o value eventType event hpolled hvalue hforwards :=
    (h.accounted p o value eventType event hpolled hvalue hforwards).mono (List.prefix_refl _)
      (List.Subset.refl _) (fun hholds => .inr (congrArg Phase.down ((hleft p o).mp hholds))) id

theorem mem_passedOver {offsets : Offsets ρ} {left : Option (ρ × Nat)} {entry : Entry ρ} :
    entry ∈ s.passedOver offsets left ↔ ∃ p o, left = some (p, o) ∧ o < offsets.position p ∧
      entry = .passedOver p o (s.offsets.committed p) := by
  unfold passedOver
  split
  · simp
  · next p o =>
    split
    · next ho => simp [ho]
    · next ho =>
      simp only [List.not_mem_nil, Option.some.injEq, Prod.mk.injEq, false_iff]
      rintro ⟨_, _, ⟨rfl, rfl⟩, hlt, -⟩
      exact ho hlt

theorem holds_idle (hphase : s.phase = .idle) (p : ρ) (o : Nat) :
    s.Holds p o ↔ none = some (p, o) := by simp [Holds, hphase]

theorem holds_delivering {p' : ρ} {o' attempt : Nat}
    (hphase : s.phase = .delivering p' o' eventType event attempt) (p : ρ) (o : Nat) :
    s.Holds p o ↔ some (p', o') = some (p, o) := by
  simp only [Holds, hphase, Phase.delivering.injEq, reduceCtorEq, or_false, Option.some.injEq,
    Prod.mk.injEq]
  constructor
  · rintro ⟨_, _, _, rfl, rfl, -⟩
    exact ⟨rfl, rfl⟩
  · rintro ⟨rfl, rfl⟩
    exact ⟨_, _, _, rfl, rfl, rfl, rfl, rfl⟩

/-! ## Steps of the stream and of the consumer -/

/-- A session starts. The message that a crash has interrupted comes again, or is passed over. -/
theorem inv_start (h : s.Inv client) {left : Option (ρ × Nat)} (hphase : s.phase = .down left) :
    ({ s with
      offsets := s.offsets.restart s.ends
      running := true
      phase := .idle
      trace := s.trace ++ s.passedOver (s.offsets.restart s.ends) left } : Sync ρ).Inv client := by
  have hpolled {p : ρ} {o : Nat}
      (hmem : .polled p o ∈ s.trace ++ s.passedOver (s.offsets.restart s.ends) left) :
      .polled p o ∈ s.trace := by
    rcases List.mem_append.mp hmem with hold | hnew
    · exact hold
    · obtain ⟨_, _, -, -, heq⟩ := mem_passedOver.mp hnew
      cases heq
  refine ⟨h.sound.restart, fun p o hmem => h.polled_lt p o (hpolled hmem), nofun, nofun, ?_⟩
  intro p o value eventType event hmem hvalue hforwards
  rcases h.accounted p o value eventType event (hpolled hmem) hvalue hforwards with
    hsettled | (⟨_, _, _, hdelivering⟩ | hdown) | hcomes
  · exact .inl (hsettled.mono (List.prefix_append _ _) (List.Subset.refl _))
  · cases hphase.symm.trans hdelivering
  · rcases Offsets.restart_cases (s := s.offsets) (h.left_lt p o hdown) with hagain | ⟨hlt, hcommitted⟩
    · exact .inr (.inr hagain)
    · obtain rfl := Phase.down.inj (hphase.symm.trans hdown)
      refine .inl (.passedOver _ (List.mem_append_right _ ?_) hcommitted)
      exact mem_passedOver.mpr ⟨p, o, rfl, hlt, rfl⟩
  · exact .inr (.inr (hcomes.restart h.sound))

section Steps

variable [DecidableEq ρ]

theorem inv_produce (h : s.Inv client) (q : ρ) (value : Except String Json) :
    (s.step client (.produce q value)).Inv client := by
  have hlog (p : ρ) : s.log p <+: (s.step client (.produce q value)).log p := by
    by_cases hp : p = q
    · subst hp
      simp [step]
    · simp [step, hp]
  have hends (p : ρ) : s.ends p ≤ (s.step client (.produce q value)).ends p := (hlog p).length_le
  have hget {p : ρ} {o : Nat} (ho : o < s.ends p) :
      ((s.step client (.produce q value)).log p)[o]? = (s.log p)[o]? := by
    obtain ⟨more, hmore⟩ := hlog p
    rw [← hmore, List.getElem?_append_left ho]
  constructor
  · exact h.sound.mono hends
  · exact fun p o hpolled => (h.polled_lt p o hpolled).trans_le (hends p)
  · intro p o eventType event attempt hphase
    obtain ⟨⟨value, hvalue, hforwards⟩, hattempt, hfailures⟩ :=
      h.delivering p o eventType event attempt hphase
    refine ⟨⟨value, ?_, hforwards⟩, hattempt, hfailures⟩
    rw [hget (List.getElem?_eq_some_iff.mp hvalue).1]
    exact hvalue
  · exact fun p o hphase => (h.left_lt p o hphase).trans_le (hends p)
  · intro p o value eventType event hpolled hvalue hforwards
    rw [hget (h.polled_lt p o hpolled)] at hvalue
    exact (h.accounted p o value eventType event hpolled hvalue hforwards).mono
      (List.prefix_refl _) (List.Subset.refl _) id id

theorem inv_commit (h : s.Inv client) (q : ρ) (o' : Nat) :
    (s.step client (.commit q o')).Inv client where
  sound := h.sound.commit q o'
  polled_lt := h.polled_lt
  delivering p o eventType event attempt hphase :=
    (h.delivering p o eventType event attempt hphase).same rfl rfl
  left_lt := h.left_lt
  accounted p o value eventType event hpolled hvalue hforwards :=
    (h.accounted p o value eventType event hpolled hvalue hforwards).mono (List.prefix_refl _)
      (List.Subset.refl _) id (·.commit q o')

theorem inv_stop (h : s.Inv client) : (s.step client .stop).Inv client where
  sound := h.sound
  polled_lt := h.polled_lt
  delivering p o eventType event attempt hphase :=
    (h.delivering p o eventType event attempt hphase).same rfl rfl
  left_lt := h.left_lt
  accounted p o value eventType event hpolled hvalue hforwards :=
    (h.accounted p o value eventType event hpolled hvalue hforwards).mono (List.prefix_refl _)
      (List.Subset.refl _) id id

/-! ## Steps of the loop -/

/-- **What a poll can do.** -/
inductive Received (s : Sync ρ) (p : ρ) : Sync ρ → Prop
  | nothing : Received s p s
  | ignored {value : Except String Json} (lines : List Line)
      (hvalue : (s.log p)[s.offsets.position p]? = some value)
      (hforwards : ∀ found, forwards value ≠ .ok (some found)) :
      Received s p { s with
        offsets := s.offsets.poll p
        trace := s.trace ++ .polled p (s.offsets.position p) ::
          lines.map (.logged p (s.offsets.position p)) }
  | taken {value : Except String Json} {eventType : String} {event : Json}
      (hvalue : (s.log p)[s.offsets.position p]? = some value)
      (hforwards : forwards value = .ok (some (eventType, event))) :
      Received s p { s with
        offsets := s.offsets.poll p
        phase := .delivering p (s.offsets.position p) eventType event 0
        trace := s.trace ++ [.polled p (s.offsets.position p)] }

theorem received (s : Sync ρ) (p : ρ) : s.Received p (s.receive p) := by
  cases hvalue : (s.log p)[s.offsets.position p]? with
  | none => simpa only [receive, hvalue] using .nothing
  | some value =>
    cases hforwards : forwards value with
    | error error =>
      have hlines := Received.ignored (s := s) [errorLine error] hvalue fun _ => by simp [hforwards]
      simpa [receive, hvalue, hforwards] using hlines
    | ok found =>
      cases found with
      | none =>
        have hlines := Received.ignored (s := s) [] hvalue fun _ => by simp [hforwards]
        simpa [receive, hvalue, hforwards] using hlines
      | some found => simpa [receive, hvalue, hforwards] using .taken hvalue hforwards

/-- **What a step can do.** -/
inductive Moves (client : FrappeWebhookClient) (s : Sync ρ) : SyncOp ρ → Sync ρ → Prop
  | stays (op : SyncOp ρ) : Moves client s op s
  | produced (p : ρ) (value : Except String Json) :
      Moves client s (.produce p value) { s with log := Function.update s.log p (s.log p ++ [value]) }
  | committed (p : ρ) (o : Nat) :
      Moves client s (.commit p o) { s with offsets := s.offsets.commit p o }
  | stopped : Moves client s .stop { s with running := false }
  | started {left : Option (ρ × Nat)} (hphase : s.phase = .down left) :
      Moves client s .start { s with
        offsets := s.offsets.restart s.ends
        running := true
        phase := .idle
        trace := s.trace ++ s.passedOver (s.offsets.restart s.ends) left }
  | down (op : SyncOp ρ) {left : Option (ρ × Nat)} (hleft : ∀ p o, s.Holds p o ↔ left = some (p, o)) :
      Moves client s op { s with phase := .down left }
  | received {p : ρ} {s' : Sync ρ} (hidle : s.phase = .idle) (hreceived : s.Received p s') :
      Moves client s (.pass (.message p)) s'
  | delivered {p : ρ} {o : Nat} {eventType : String} {event : Json} {attempt : Nat} (a : Attempt)
      (hphase : s.phase = .delivering p o eventType event attempt) :
      Moves client s (.attempt a) (s.deliver client p o eventType event attempt a)

/-- Inversion of a step. -/
theorem moves (client : FrappeWebhookClient) (s : Sync ρ) (op : SyncOp ρ) :
    s.Moves client op (s.step client op) := by
  cases op with
  | produce p value => exact .produced p value
  | commit p o => exact .committed p o
  | stop => exact .stopped
  | start =>
    cases hphase : s.phase with
    | down left => simpa only [step, hphase] using Moves.started hphase
    | idle => simpa only [step, hphase] using Moves.stays .start
    | delivering p o eventType event attempt => simpa only [step, hphase] using Moves.stays .start
  | crash =>
    cases hphase : s.phase with
    | down left => simpa only [step, hphase] using Moves.stays .crash
    | idle => simpa only [step, hphase] using Moves.down .crash (holds_idle hphase)
    | delivering p o eventType event attempt =>
      simpa only [step, hphase] using Moves.down .crash (holds_delivering hphase)
  | attempt a =>
    cases hphase : s.phase with
    | down left => simpa only [step, hphase] using Moves.stays (.attempt a)
    | idle => simpa only [step, hphase] using Moves.stays (.attempt a)
    | delivering p o eventType event attempt =>
      simpa only [step, hphase] using Moves.delivered a hphase
  | pass poll =>
    cases hphase : s.phase with
    | down left => simpa only [step, hphase] using Moves.stays (.pass poll)
    | delivering p o eventType event attempt =>
      simpa only [step, hphase] using Moves.stays (.pass poll)
    | idle =>
      cases hrunning : s.running with
      | false =>
        simpa only [step, hphase, hrunning] using Moves.down (.pass poll) (holds_idle hphase)
      | true =>
        cases poll with
        | nothing => simpa only [step, hphase, hrunning] using Moves.stays (.pass .nothing)
        | kafkaError => simpa only [step, hphase, hrunning] using Moves.stays (.pass .kafkaError)
        | message p =>
          simpa only [step, hphase, hrunning] using Moves.received hphase (received s p)

/-- A poll concerns the message that it takes only. -/
theorem Accounted.poll (h : s.Accounted client p o eventType event) {q : ρ} (hidle : s.phase = .idle)
    (htrace : s.trace <+: s'.trace) (haccepted : s.accepted ⊆ s'.accepted)
    (hoffsets : s'.offsets = s.offsets.poll q) (hother : ¬ (q = p ∧ s.offsets.position p = o)) :
    s'.Accounted client p o eventType event := by
  rcases h with hsettled | (⟨_, _, _, hdelivering⟩ | hdown) | hcomes
  · exact .inl (hsettled.mono htrace haccepted)
  · cases hidle.symm.trans hdelivering
  · cases hidle.symm.trans hdown
  · refine .inr (.inr ?_)
    rw [hoffsets]
    exact (hcomes.poll q).resolve_left hother

theorem inv_receive (h : s.Inv client) (hidle : s.phase = .idle) {q : ρ} (hreceived : s.Received q s') :
    s'.Inv client := by
  have hpolled {lines : List Line} {p : ρ} {o : Nat}
      (hmem : .polled p o ∈ s.trace ++ Entry.polled q (s.offsets.position q) ::
        lines.map (Entry.logged q (s.offsets.position q))) :
      .polled p o ∈ s.trace ∨ (q = p ∧ s.offsets.position p = o) := by
    simp only [List.mem_append, List.mem_cons, Entry.polled.injEq, List.mem_map, reduceCtorEq,
      and_false, exists_false, or_false] at hmem
    rcases hmem with hold | ⟨rfl, rfl⟩
    · exact .inl hold
    · exact .inr ⟨rfl, rfl⟩
  cases hreceived with
  | nothing => exact h
  | @ignored value lines hvalue hforwards =>
    have hlt := (List.getElem?_eq_some_iff.mp hvalue).1
    refine ⟨h.sound.poll hlt, fun p o hmem => ?_, fun _ _ _ _ _ hphase => ?_, fun _ _ hphase => ?_,
      fun p o value' eventType event hmem hvalue' hforwards' => ?_⟩
    · rcases hpolled hmem with hold | ⟨rfl, rfl⟩
      · exact h.polled_lt p o hold
      · exact hlt
    · cases hidle.symm.trans hphase
    · cases hidle.symm.trans hphase
    · have hother : ¬ (q = p ∧ s.offsets.position p = o) := by
        rintro ⟨rfl, rfl⟩
        obtain rfl := Option.some.inj (hvalue.symm.trans hvalue')
        exact hforwards _ hforwards'
      exact (h.accounted p o value' eventType event ((hpolled hmem).resolve_right hother) hvalue'
        hforwards').poll hidle (List.prefix_append _ _) (List.Subset.refl _) rfl hother
  | @taken value eventType' event' hvalue hforwards =>
    have hlt := (List.getElem?_eq_some_iff.mp hvalue).1
    refine ⟨h.sound.poll hlt, fun p o hmem => ?_, fun p o eventType event attempt hphase => ?_, nofun,
      fun p o value' eventType event hmem hvalue' hforwards' => ?_⟩
    · rcases @hpolled [] _ _ hmem with hold | ⟨rfl, rfl⟩
      · exact h.polled_lt p o hold
      · exact hlt
    · cases hphase
      exact ⟨⟨value, hvalue, hforwards⟩, by decide, [], rfl, nofun, List.suffix_append _ _⟩
    · by_cases htaken : q = p ∧ s.offsets.position p = o
      · obtain ⟨rfl, rfl⟩ := htaken
        exact .inr (.inl (.inl ⟨_, _, _, rfl⟩))
      · exact (h.accounted p o value' eventType event
          ((@hpolled [] _ _ hmem).resolve_right htaken) hvalue' hforwards').poll hidle
          (List.prefix_append _ _) (List.Subset.refl _) rfl htaken

end Steps

/-! ## Rounds of the delivery -/

/-- What is held goes on being delivered, or it is settled. -/
theorem inv_held (h : s.Inv client) {p : ρ} {o : Nat} {eventType : String} {event : Json}
    {attempt : Nat} (hphase : s.phase = .delivering p o eventType event attempt)
    {lines : List Line} (hlog : s'.log = s.log) (hoffsets : s'.offsets = s.offsets)
    (htrace : s'.trace = s.trace ++ lines.map (Entry.logged p o))
    (haccepted : s.accepted ⊆ s'.accepted)
    (hnext : s'.phase = .idle ∧ s'.Settled client p o eventType event ∨
      ∃ attempt', s'.phase = .delivering p o eventType event attempt' ∧
        s'.Delivering p o eventType event attempt') : s'.Inv client := by
  have hends : s'.ends = s.ends := by
    funext p
    rw [ends, hlog]
  have hpolled {p' : ρ} {o' : Nat} (hmem : .polled p' o' ∈ s'.trace) : .polled p' o' ∈ s.trace := by
    rw [htrace] at hmem
    rcases List.mem_append.mp hmem with hold | hnew
    · exact hold
    · obtain ⟨_, -, heq⟩ := List.mem_map.mp hnew
      cases heq
  have hprefix : s.trace <+: s'.trace := htrace ▸ List.prefix_append _ _
  refine ⟨?_, fun p' o' hmem => ?_, fun p' o' eventType' event' attempt' hphase' => ?_,
    fun p' o' hphase' => ?_, fun p' o' value eventType' event' hmem hvalue hforwards => ?_⟩
  · rw [hoffsets, hends]
    exact h.sound
  · rw [hends]
    exact h.polled_lt p' o' (hpolled hmem)
  · rcases hnext with ⟨hidle, -⟩ | ⟨attempt'', hdelivering, hnext⟩
    · cases hidle.symm.trans hphase'
    · cases hdelivering.symm.trans hphase'
      exact hnext
  · rcases hnext with ⟨hidle, -⟩ | ⟨attempt'', hdelivering, -⟩
    · cases hidle.symm.trans hphase'
    · cases hdelivering.symm.trans hphase'
  · rw [hlog] at hvalue
    rcases h.accounted p' o' value eventType' event' (hpolled hmem) hvalue hforwards with
      hsettled | (⟨_, _, _, hheld⟩ | hdown) | hcomes
    · exact .inl (hsettled.mono hprefix haccepted)
    · cases hphase.symm.trans hheld
      obtain ⟨value', hvalue', hforwards'⟩ := (h.delivering _ _ _ _ _ hphase).message
      obtain rfl := Option.some.inj (hvalue.symm.trans hvalue')
      cases hforwards.symm.trans hforwards'
      rcases hnext with ⟨-, hsettled⟩ | ⟨attempt', hdelivering, -⟩
      · exact .inl hsettled
      · exact .inr (.inl (.inl ⟨_, _, attempt', hdelivering⟩))
    · cases hphase.symm.trans hdown
    · exact .inr (.inr (hoffsets ▸ hcomes))

/-- The events to forward are dicts, so a dead letter has its line. -/
theorem deadLetterLine_of_forwards {value : Except String Json}
    (h : forwards value = .ok (some (eventType, event))) :
    ∃ eventId, deadLetterLine eventType event = .webhookDeadLetter eventType eventId := by
  obtain ⟨event', -, h⟩ := exists_of_bind_ok h
  obtain ⟨type, htype, h⟩ := exists_of_bind_ok h
  obtain ⟨found, -, h⟩ := exists_of_bind_ok h
  obtain rfl : event' = event := by
    cases found with
    | none => cases h
    | some found => exact (Prod.mk.inj (Option.some.inj (Except.ok.inj h))).2
  cases event' with
  | obj fields => exact ⟨_, rfl⟩
  | null => cases htype
  | bool b => cases htype
  | num q => cases htype
  | str s => cases htype
  | arr items => cases htype

theorem forall_mem_snoc {failures : List Line} {line : Line}
    (h : ∀ line ∈ failures, line.isFailure = true) (hline : line.isFailure = true) :
    ∀ line' ∈ failures ++ [line], line'.isFailure = true := by
  intro line' hmem
  rcases List.mem_append.mp hmem with hold | hnew
  · exact h line' hold
  · obtain rfl := List.mem_singleton.mp hnew
    exact hline

theorem inv_deliver (h : s.Inv client) {attempt : Nat}
    (hphase : s.phase = .delivering p o eventType event attempt) (a : Attempt) :
    (s.deliver client p o eventType event attempt a).Inv client := by
  obtain ⟨⟨value, hvalue, hforwards⟩, hattempt, failures, rfl, hfailures, hlogged⟩ :=
    h.delivering _ _ _ _ _ hphase
  rcases deliverRound_cases eventType failures.length a with
    ⟨status, hstatus, hround⟩ | ⟨line, hline, ⟨hagain, hround⟩ | ⟨hlast, hround⟩⟩ | ⟨error, hround⟩
  · simp only [deliver, hround]
    refine inv_held h hphase rfl rfl rfl (List.subset_append_left _ _) (.inl ⟨rfl, ?_⟩)
    exact .delivered failures status hstatus (suffix_append hlogged rfl).isInfix
      (List.mem_append_right _ (.head _))
  · simp only [deliver, hround]
    refine inv_held h hphase rfl rfl rfl (List.Subset.refl _) (.inr ⟨_, rfl, ?_⟩)
    exact ⟨⟨value, hvalue, hforwards⟩, hagain, failures ++ [line], by simp,
      forall_mem_snoc hfailures hline, suffix_append hlogged rfl⟩
  · obtain ⟨eventId, hdead⟩ := deadLetterLine_of_forwards hforwards
    simp only [deliver, hround, hdead]
    have htrace : s.trace ++ [line, .webhookDeliveryFailed eventType maxRetries].map (Entry.logged p o) ++
        [Entry.logged p o (.webhookDeadLetter eventType eventId)] =
        s.trace ++ [line, .webhookDeliveryFailed eventType maxRetries,
          .webhookDeadLetter eventType eventId].map (Entry.logged p o) := by simp
    refine inv_held h hphase rfl rfl htrace (List.Subset.refl _) (.inl ⟨rfl, ?_⟩)
    refine .deadLetter (failures ++ [line]) eventId ?_ (forall_mem_snoc hfailures hline) ?_
    · rw [List.length_append, List.length_singleton]
      omega
    · rw [List.append_assoc failures, List.singleton_append]
      exact (suffix_append hlogged (by exact htrace)).isInfix
  · simp only [deliver, hround]
    have htrace : s.trace ++ [].map (Entry.logged p o) ++ [Entry.logged p o (errorLine error)] =
        s.trace ++ [errorLine error].map (Entry.logged p o) := by simp
    refine inv_held h hphase rfl rfl htrace (List.Subset.refl _) (.inl ⟨rfl, ?_⟩)
    exact .raised failures error hattempt hfailures (suffix_append hlogged (by exact htrace)).isInfix

/-! ## Every run -/

section Run

variable [DecidableEq ρ]

/-- **Step lemma.** -/
theorem inv_step (h : s.Inv client) (op : SyncOp ρ) : (s.step client op).Inv client := by
  have hmoves := moves client s op
  generalize s.step client op = s' at hmoves ⊢
  cases hmoves with
  | stays => exact h
  | produced q value => exact inv_produce h q value
  | committed q o => exact inv_commit h q o
  | stopped => exact inv_stop h
  | started hphase => exact inv_start h hphase
  | down _ hleft => exact inv_down h hleft
  | received hidle hreceived => exact inv_receive h hidle hreceived
  | delivered a hphase => exact inv_deliver h hphase a

/-- **Run lemma.** -/
theorem inv_run (client : FrappeWebhookClient) (ops : List (SyncOp ρ)) :
    (run client ops).Inv client := by
  unfold run
  exact List.foldlRecOn ops (step client) inv_init fun s hs op _ => inv_step hs op

/-- **No polled event is unaccounted for.** -/
theorem polled_accounted (client : FrappeWebhookClient) (ops : List (SyncOp ρ)) (p : ρ) (o : Nat)
    (value : Except String Json) (eventType : String) (event : Json)
    (hpolled : .polled p o ∈ (run client ops).trace) (hvalue : ((run client ops).log p)[o]? = some value)
    (hforwards : forwards value = .ok (some (eventType, event))) :
    (run client ops).Accounted client p o eventType event :=
  (inv_run client ops).accounted p o value eventType event hpolled hvalue hforwards

/-! ## Messages that are gone -/

omit [DecidableEq ρ] in
/-- A round stays with its message. -/
theorem deliver_frame (client : FrappeWebhookClient) (s : Sync ρ) (p : ρ) (o : Nat)
    (eventType : String) (event : Json) (attempt : Nat) (a : Attempt) :
    (s.deliver client p o eventType event attempt a).offsets = s.offsets ∧
    (∃ lines : List Line, (s.deliver client p o eventType event attempt a).trace =
      s.trace ++ lines.map (Entry.logged p o)) ∧
    ((s.deliver client p o eventType event attempt a).phase = .idle ∨
      ∃ attempt', (s.deliver client p o eventType event attempt a).phase =
        .delivering p o eventType event attempt') := by
  unfold deliver
  rcases deliverRound_cases eventType attempt a with
    ⟨status, -, hround⟩ | ⟨line, -, ⟨-, hround⟩ | ⟨-, hround⟩⟩ | ⟨error, hround⟩ <;> rw [hround]
  · exact ⟨rfl, ⟨_, rfl⟩, .inl rfl⟩
  · exact ⟨rfl, ⟨_, rfl⟩, .inr ⟨_, rfl⟩⟩
  · refine ⟨rfl, ⟨[line, .webhookDeliveryFailed eventType maxRetries,
      deadLetterLine eventType event], ?_⟩, .inl rfl⟩
    simp
  · refine ⟨rfl, ⟨[errorLine error], ?_⟩, .inl rfl⟩
    simp

theorem gone_receive (h : s.Gone p o) (hidle : s.phase = .idle) {q : ρ}
    (hreceived : s.Received q s') : s'.Gone p o ∧
    ∃ later, s'.trace = s.trace ++ later ∧ ∀ entry ∈ later, entry.message ≠ (p, o) := by
  have hother : (q, s.offsets.position q) ≠ (p, o) := by
    rintro ⟨⟩
    exact Nat.lt_irrefl _ h.passed.2.1
  cases hreceived with
  | nothing => exact ⟨h, [], (List.append_nil _).symm, nofun⟩
  | ignored lines =>
    refine ⟨⟨h.passed.poll q, by simp [Holds, hidle]⟩, _, rfl, fun entry hentry => ?_⟩
    rcases List.mem_cons.mp hentry with rfl | hmem
    · exact hother
    · obtain ⟨line, -, rfl⟩ := List.mem_map.mp hmem
      exact hother
  | taken =>
    refine ⟨⟨h.passed.poll q, ?_⟩, _, rfl, fun entry hentry => ?_⟩
    · simp only [Holds, Phase.delivering.injEq, reduceCtorEq, or_false]
      rintro ⟨_, _, _, rfl, rfl, -⟩
      exact hother rfl
    · obtain rfl := List.mem_singleton.mp hentry
      exact hother

omit [DecidableEq ρ] in
theorem gone_deliver (h : s.Gone p o) {p' : ρ} {o' attempt : Nat}
    (hphase : s.phase = .delivering p' o' eventType event attempt) (a : Attempt) :
    (s.deliver client p' o' eventType event attempt a).Gone p o ∧
    ∃ later, (s.deliver client p' o' eventType event attempt a).trace = s.trace ++ later ∧
      ∀ entry ∈ later, entry.message ≠ (p, o) := by
  have hother : (p', o') ≠ (p, o) := by
    rintro ⟨⟩
    exact h.not_held (.inl ⟨_, _, _, hphase⟩)
  obtain ⟨hoffsets, ⟨lines, htrace⟩, hnext⟩ := deliver_frame client s p' o' eventType event attempt a
  refine ⟨⟨hoffsets ▸ h.passed, ?_⟩, _, htrace, fun entry hentry => ?_⟩
  · rcases hnext with hidle | ⟨attempt', hdelivering⟩
    · simp [Holds, hidle]
    · simp only [Holds, hdelivering, Phase.delivering.injEq, reduceCtorEq, or_false]
      rintro ⟨_, _, _, rfl, rfl, -⟩
      exact hother rfl
  · obtain ⟨line, -, rfl⟩ := List.mem_map.mp hentry
    exact hother

/-- **Step lemma.** Nothing happens any more to a message that is gone. -/
theorem gone_step (h : s.Gone p o) (op : SyncOp ρ) : (s.step client op).Gone p o ∧
    ∃ later, (s.step client op).trace = s.trace ++ later ∧ ∀ entry ∈ later, entry.message ≠ (p, o) := by
  have hsame : ∃ later, s.trace = s.trace ++ later ∧ ∀ entry ∈ later, entry.message ≠ (p, o) :=
    ⟨[], (List.append_nil _).symm, nofun⟩
  have hmoves := moves client s op
  generalize s.step client op = s' at hmoves ⊢
  cases hmoves with
  | stays => exact ⟨h, hsame⟩
  | produced q value => exact ⟨⟨h.passed, h.not_held⟩, hsame⟩
  | committed q o' => exact ⟨⟨h.passed.commit q o', h.not_held⟩, hsame⟩
  | stopped => exact ⟨⟨h.passed, h.not_held⟩, hsame⟩
  | started hphase =>
    refine ⟨⟨h.passed.restart, by simp [Holds]⟩, _, rfl, fun entry hentry heq => ?_⟩
    obtain ⟨p', o', rfl, -, rfl⟩ := mem_passedOver.mp hentry
    obtain ⟨rfl, rfl⟩ := Prod.mk.inj heq
    exact h.not_held (.inr hphase)
  | down _ hleft =>
    refine ⟨⟨h.passed, ?_⟩, hsame⟩
    rintro (⟨_, _, _, hdelivering⟩ | hdown)
    · cases hdelivering
    · exact h.not_held ((hleft p o).mpr (Phase.down.inj hdown))
  | received hidle hreceived => exact gone_receive h hidle hreceived
  | delivered a hphase => exact gone_deliver h hphase a

/-- **Run lemma.** -/
theorem gone_run (h : s.Gone p o) (ops : List (SyncOp ρ)) :
    ∃ later, (ops.foldl (step client) s).trace = s.trace ++ later ∧
      ∀ entry ∈ later, entry.message ≠ (p, o) := by
  induction ops generalizing s with
  | nil => exact ⟨[], (List.append_nil _).symm, nofun⟩
  | cons op ops ih =>
    obtain ⟨hgone, later, hlater, hothers⟩ := gone_step h op
    obtain ⟨later', hlater', hothers'⟩ := ih hgone
    refine ⟨later ++ later', by rw [List.foldl_cons, hlater', hlater, List.append_assoc], ?_⟩
    intro entry hentry
    rcases List.mem_append.mp hentry with hmem | hmem
    · exact hothers entry hmem
    · exact hothers' entry hmem

end Run

/-! A crash during a delivery: with a commit behind the event it is delivered after the restart,
with its own offset committed it is lost. -/

def sampleClient : FrappeWebhookClient where
  dumps _ := "\x7b\x7d"

def sampleEvent : Json := .obj [("event_type", .str "loan.closed"), ("event_id", .str "evt-1")]

def redeliveredRun : List (SyncOp (Fin 6)) :=
  [.start, .produce 0 (.ok .null), .produce 0 (.ok sampleEvent), .pass (.message 0), .commit 0 0,
    .pass (.message 0), .attempt (.response 503), .crash, .start, .pass (.message 0),
    .attempt (.response 200)]

theorem polled_accounted_redelivered :
    (run sampleClient redeliveredRun).Accounted sampleClient 0 1 "loan.closed" sampleEvent :=
  polled_accounted sampleClient redeliveredRun 0 1 (.ok sampleEvent) "loan.closed" sampleEvent
    (List.mem_of_getElem? (i := 2) rfl) rfl rfl

def lostRun : List (SyncOp (Fin 6)) :=
  [.start, .produce 0 (.ok sampleEvent), .pass (.message 0), .commit 0 0, .crash, .start]

/-- The event is polled once, it is one to forward, and no run goes on to it again. -/
theorem lostRun_neverDelivered :
    (run sampleClient lostRun).trace = [.polled 0 0, .passedOver 0 0 (some 1)] ∧
    ((run sampleClient lostRun).log 0)[0]? = some (.ok sampleEvent) ∧
    forwards (.ok sampleEvent) = .ok (some ("loan.closed", sampleEvent)) ∧
    ∀ more, ∃ later, (run sampleClient (lostRun ++ more)).trace =
      (run sampleClient lostRun).trace ++ later ∧ ∀ entry ∈ later, entry.message ≠ (0, 0) := by
  refine ⟨rfl, rfl, rfl, fun more => ?_⟩
  rw [run, List.foldl_append]
  refine gone_run ⟨⟨by decide, by decide, 1, rfl, by decide⟩, ?_⟩ more
  rintro (⟨_, _, _, hphase⟩ | hphase) <;> cases hphase

end Sync

end OcenPlatform.FrappeSync
