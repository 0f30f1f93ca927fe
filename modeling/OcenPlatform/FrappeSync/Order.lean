import OcenPlatform.FrappeSync.Delivery

/-! The order in which the consumer gets to the messages of a partition, over all its sessions. -/

namespace OcenPlatform.FrappeSync

open Durable

namespace Sync

variable {ρ : Type}

/-! ## First polls -/

def Polled (s : Sync ρ) (p : ρ) (o : Nat) : Prop := Entry.polled p o ∈ s.trace

/-- A message that is polled for the first time is behind all that has been polled of its partition. -/
def FirstsInOrder (trace : List (Entry ρ)) : Prop :=
  ∀ before after p o, trace = before ++ .polled p o :: after → Entry.polled p o ∉ before →
    ∀ o', Entry.polled p o' ∈ before → o' < o

theorem FirstsInOrder.concat {trace : List (Entry ρ)} {entry : Entry ρ} (h : FirstsInOrder trace)
    (hentry : ∀ p o, entry = .polled p o → entry ∉ trace → ∀ o', .polled p o' ∈ trace → o' < o) :
    FirstsInOrder (trace ++ [entry]) := by
  intro before after p o htrace hnew
  rcases List.eq_nil_or_concat' after with rfl | ⟨after, last, rfl⟩
  · obtain ⟨rfl, hlast⟩ := List.append_inj' htrace rfl
    obtain rfl := List.singleton_inj.mp hlast
    exact hentry p o rfl hnew
  · rw [← List.cons_append, ← List.append_assoc] at htrace
    exact h before after p o (List.append_inj' htrace rfl).1 hnew

theorem FirstsInOrder.append {trace more : List (Entry ρ)} (h : FirstsInOrder trace)
    (hmore : ∀ p o, Entry.polled p o ∉ more) : FirstsInOrder (trace ++ more) := by
  induction more using List.reverseRecOn with
  | nil => rwa [List.append_nil]
  | append_singleton more entry ih =>
    rw [← List.append_assoc]
    refine (ih fun p o hmem => hmore p o (List.mem_append_left _ hmem)).concat ?_
    rintro p o rfl
    exact absurd (List.mem_append_right _ (.head _)) (hmore p o)

/-! ## The invariant -/

structure Ordered (s : Sync ρ) : Prop where
  offsets : s.offsets.InOrder s.ends s.Polled
  firsts : FirstsInOrder s.trace

variable {client : FrappeWebhookClient} {s s' : Sync ρ}

/-- Entries that are no polls change nothing. -/
theorem Ordered.logged (h : s.Ordered) {more : List (Entry ρ)} (htrace : s'.trace = s.trace ++ more)
    (hmore : ∀ p o, Entry.polled p o ∉ more)
    (hoffsets : s.offsets.InOrder s.ends s.Polled → s'.offsets.InOrder s'.ends s.Polled) :
    s'.Ordered := by
  have hpolled : s'.Polled = s.Polled := by
    funext p o
    simp [Polled, htrace, hmore]
  refine ⟨hpolled ▸ hoffsets h.offsets, ?_⟩
  rw [htrace]
  exact h.firsts.append hmore

theorem Ordered.same (h : s.Ordered) (htrace : s'.trace = s.trace)
    (hoffsets : s.offsets.InOrder s.ends s.Polled → s'.offsets.InOrder s'.ends s.Polled) :
    s'.Ordered := h.logged (htrace.trans (List.append_nil _).symm) (fun _ _ => List.not_mem_nil) hoffsets

theorem ordered_init : (init : Sync ρ).Ordered where
  offsets := ⟨⟨nofun, fun _ => Nat.le_refl _⟩, fun _ => Nat.le_refl _, nofun, nofun,
    fun _ o _ ho => absurd ho (Nat.not_lt_zero o), nofun⟩
  firsts before after p o htrace := by
    cases before <;> cases htrace

/-- A round leaves the stream as it is. -/
theorem deliver_log (client : FrappeWebhookClient) (s : Sync ρ) (p : ρ) (o : Nat)
    (eventType : String) (event : Json) (attempt : Nat) (a : Attempt) :
    (s.deliver client p o eventType event attempt a).log = s.log := by
  unfold deliver
  rcases deliverRound_cases eventType attempt a with
    ⟨status, -, hround⟩ | ⟨line, -, ⟨-, hround⟩ | ⟨-, hround⟩⟩ | ⟨error, hround⟩ <;> rw [hround]

variable [DecidableEq ρ]

/-- A poll takes the message at the position. -/
theorem Ordered.poll (h : s.Ordered) {q : ρ} (hq : s.offsets.position q < s.ends q)
    (hends : s'.ends = s.ends) (hoffsets : s'.offsets = s.offsets.poll q) (lines : List Line)
    (htrace : s'.trace = s.trace ++ .polled q (s.offsets.position q) ::
      lines.map (.logged q (s.offsets.position q))) : s'.Ordered := by
  have hlines : ∀ p o, Entry.polled p o ∉ lines.map (Entry.logged q (s.offsets.position q)) := by
    simp
  constructor
  · rw [hends, hoffsets]
    refine h.offsets.poll hq fun p o => ?_
    simp [Polled, htrace]
  · rw [htrace, ← List.singleton_append, ← List.append_assoc]
    refine FirstsInOrder.append (h.firsts.concat ?_) hlines
    rintro p o ⟨⟩ hnew o' ho'
    exact h.offsets.lt_position ho' hnew

/-- **Step lemma.** -/
theorem ordered_step (h : s.Ordered) (op : SyncOp ρ) : (s.step client op).Ordered := by
  have hmoves := moves client s op
  generalize s.step client op = s' at hmoves ⊢
  cases hmoves with
  | stays => exact h
  | produced q value =>
    refine h.same rfl fun hoffsets => hoffsets.mono fun p => ?_
    by_cases hp : p = q
    · subst hp
      simp [ends]
    · simp [ends, hp]
  | committed q o => exact h.same rfl fun hoffsets => hoffsets.commit q o
  | stopped => exact h.same rfl id
  | down => exact h.same rfl id
  | started hphase =>
    refine h.logged rfl (fun p o hmem => ?_) fun hoffsets => hoffsets.restart
    obtain ⟨_, _, -, -, heq⟩ := mem_passedOver.mp hmem
    cases heq
  | received hidle hreceived =>
    cases hreceived with
    | nothing => exact h
    | ignored lines hvalue => exact h.poll (List.getElem?_eq_some_iff.mp hvalue).1 rfl rfl lines rfl
    | taken hvalue =>
      exact h.poll (List.getElem?_eq_some_iff.mp hvalue).1 rfl rfl [] rfl
  | @delivered p o eventType event attempt a hphase =>
    obtain ⟨hoffsets, ⟨lines, htrace⟩, -⟩ := deliver_frame client s p o eventType event attempt a
    have hends : (s.deliver client p o eventType event attempt a).ends = s.ends := by
      funext q
      rw [ends, deliver_log]
    refine h.logged htrace (fun p o => by simp) fun h => ?_
    rw [hoffsets, hends]
    exact h

/-- **Run lemma.** -/
theorem ordered_run (client : FrappeWebhookClient) (ops : List (SyncOp ρ)) :
    (run client ops).Ordered := by
  unfold run
  exact List.foldlRecOn ops (step client) ordered_init fun s hs op _ => ordered_step hs op

/-! ## The stream -/

/-- What is produced to a partition. -/
def produced (p : ρ) (ops : List (SyncOp ρ)) : List (Except String Json) :=
  ops.filterMap fun
    | .produce q value => if q = p then some value else none
    | _ => none

theorem mem_produced {p : ρ} {ops : List (SyncOp ρ)} {value : Except String Json} :
    value ∈ produced p ops ↔ .produce p value ∈ ops := by
  rw [produced, List.mem_filterMap]
  constructor
  · rintro ⟨op, hop, hvalue⟩
    cases op with
    | produce q value' =>
      obtain ⟨hq, hvalue⟩ := Option.ite_none_right_eq_some.mp hvalue
      rw [← hq, ← Option.some.inj hvalue]
      exact hop
    | _ => cases hvalue
  · exact fun hop => ⟨_, hop, if_pos rfl⟩

theorem log_frame (s : Sync ρ) {op : SyncOp ρ} (hop : ∀ p value, op ≠ .produce p value) :
    (s.step client op).log = s.log := by
  have hmoves := moves client s op
  generalize s.step client op = s' at hmoves ⊢
  cases hmoves with
  | produced q value => exact absurd rfl (hop q value)
  | received _ hreceived => cases hreceived <;> rfl
  | delivered => exact deliver_log ..
  | _ => rfl

/-- The stream grows by what is produced. -/
theorem log_step (s : Sync ρ) (op : SyncOp ρ) (p : ρ) :
    (s.step client op).log p = s.log p ++ produced p [op] := by
  cases op with
  | produce q value =>
    by_cases hq : q = p
    · subst hq
      simp [step, produced]
    · have hp : p ≠ q := Ne.symm hq
      simp [step, produced, hq, hp]
  | _ =>
    rw [log_frame s (by simp)]
    exact (List.append_nil _).symm

theorem log_foldl (ops : List (SyncOp ρ)) (s : Sync ρ) (p : ρ) :
    (ops.foldl (step client) s).log p = s.log p ++ produced p ops := by
  induction ops generalizing s with
  | nil => exact (List.append_nil _).symm
  | cons op ops ih =>
    rw [List.foldl_cons, ih, log_step, List.append_assoc]
    congr 1
    exact (List.filterMap_append (l := [op])).symm

theorem log_run (client : FrappeWebhookClient) (ops : List (SyncOp ρ)) (p : ρ) :
    (run client ops).log p = produced p ops := log_foldl ops init p

/-- **What a partition takes first, the consumer gets to first**: once it has polled a message, it
polls none of those before it that it has left out. -/
theorem produced_in_order (client : FrappeWebhookClient) (before between after : List (SyncOp ρ))
    (p : ρ) (first second : Except String Json) :
    let final := run client (before ++ .produce p first :: between ++ .produce p second :: after)
    let o := (produced p before).length
    let o' := o + 1 + (produced p between).length
    (final.log p)[o]? = some first ∧ (final.log p)[o']? = some second ∧
    ∀ front back, final.trace = front ++ .polled p o' :: back →
      Entry.polled p o ∈ front ∨ Entry.polled p o ∉ back := by
  intro final o o'
  have hlog : final.log p = produced p before ++ first :: produced p between ++
      second :: produced p after := by
    rw [log_run]
    simp [produced, List.filterMap_append]
  refine ⟨?_, ?_, fun front back htrace => ?_⟩
  · rw [hlog, List.append_assoc, List.getElem?_append_right (Nat.le_refl _), Nat.sub_self]
    rfl
  · have ho' : o' = (produced p before ++ first :: produced p between).length := by
      simp only [o', o, List.length_append, List.length_cons]
      omega
    rw [hlog, ho', List.getElem?_append_right (Nat.le_refl _), Nat.sub_self]
    rfl
  · by_contra hboth
    obtain ⟨hfront, hback⟩ := not_or.mp hboth
    obtain ⟨back, later, rfl, hnew⟩ := List.eq_append_cons_of_mem (not_not.mp hback)
    rw [← List.cons_append, ← List.append_assoc] at htrace
    have hne : o < o' := by
      change o < o + 1 + _
      omega
    have hlt := (ordered_run client _).firsts _ later p o htrace (by simp [hfront, hnew, hne.ne]) o'
      (by simp)
    omega

end Sync

end OcenPlatform.FrappeSync
