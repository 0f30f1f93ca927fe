import Mathlib.Logic.Function.Basic
import Mathlib.Order.Nat

/-! The offsets of a consumer of a partitioned log. What a session has polled can be committed
at any time; the next session goes on from the commits. -/

namespace OcenPlatform.Durable

/-- What is committed outlives a session. `first` is where the session started in a partition,
`position` what it polls next. -/
structure Offsets (ρ : Type) where
  committed : ρ → Option Nat
  first : ρ → Nat
  position : ρ → Nat

namespace Offsets

variable {ρ : Type}

section Definitions

variable [DecidableEq ρ]

def poll (s : Offsets ρ) (p : ρ) : Offsets ρ :=
  { s with position := Function.update s.position p (s.position p + 1) }

/-- The offset of a message that the session has polled is committed, and with it those before. -/
def commit (s : Offsets ρ) (p : ρ) (o : Nat) : Offsets ρ :=
  if s.first p ≤ o ∧ o < s.position p then
    { s with committed := Function.update s.committed p (some (o + 1)) }
  else s

end Definitions

/-- A session starts at the end of a partition that has no commit. -/
def restart (s : Offsets ρ) (ends : ρ → Nat) : Offsets ρ where
  committed := s.committed
  first p := (s.committed p).getD (ends p)
  position p := (s.committed p).getD (ends p)

/-- A commit is behind the position, and the position in the log. -/
structure Sound (s : Offsets ρ) (ends : ρ → Nat) : Prop where
  committed_le : ∀ p c, s.committed p = some c → c ≤ s.position p
  position_le : ∀ p, s.position p ≤ ends p

/-- The polls of the partition will come to the offset, in this session or, as the partition
has a commit, in the next. -/
def Comes (s : Offsets ρ) (p : ρ) (o : Nat) : Prop :=
  s.position p ≤ o ∧ (s.committed p).isSome = true

/-- No session will poll the offset again. -/
def Passed (s : Offsets ρ) (p : ρ) (o : Nat) : Prop :=
  o < s.first p ∧ o < s.position p ∧ ∃ c, s.committed p = some c ∧ o < c

variable {s : Offsets ρ} {ends : ρ → Nat} {p : ρ} {o : Nat}

theorem Sound.mono {ends' : ρ → Nat} (h : s.Sound ends) (hends : ∀ p, ends p ≤ ends' p) :
    s.Sound ends' where
  committed_le := h.committed_le
  position_le p := (h.position_le p).trans (hends p)

/-! ## Polls and commits -/

section Steps

variable [DecidableEq ρ]

@[simp] theorem poll_committed (q : ρ) : (s.poll q).committed = s.committed := rfl

@[simp] theorem poll_first (q : ρ) : (s.poll q).first = s.first := rfl

theorem poll_position_self : (s.poll p).position p = s.position p + 1 := Function.update_self ..

theorem poll_position_ne {q : ρ} (h : p ≠ q) : (s.poll q).position p = s.position p :=
  Function.update_of_ne h ..

theorem position_le_poll (q : ρ) : s.position p ≤ (s.poll q).position p := by
  by_cases h : p = q
  · rw [h, poll_position_self]
    exact Nat.le_succ _
  · exact (poll_position_ne h).ge

theorem Sound.poll (h : s.Sound ends) {q : ρ} (hq : s.position q < ends q) :
    (s.poll q).Sound ends where
  committed_le p c hc := (h.committed_le p c hc).trans (position_le_poll q)
  position_le p := by
    by_cases hp : p = q
    · rw [hp, poll_position_self]
      exact hq
    · rw [poll_position_ne hp]
      exact h.position_le p

/-- A poll takes the message that comes, or it comes still. -/
theorem Comes.poll (h : s.Comes p o) (q : ρ) :
    (q = p ∧ s.position p = o) ∨ (s.poll q).Comes p o := by
  by_cases hq : p = q
  · subst hq
    rcases h.1.eq_or_lt with heq | hlt
    · exact .inl ⟨rfl, heq⟩
    · refine .inr ⟨?_, h.2⟩
      rw [poll_position_self]
      exact hlt
  · refine .inr ⟨?_, h.2⟩
    rw [poll_position_ne hq]
    exact h.1

theorem Passed.poll (h : s.Passed p o) (q : ρ) : (s.poll q).Passed p o :=
  ⟨h.1, h.2.1.trans_le (position_le_poll q), h.2.2⟩

@[simp] theorem commit_first (q : ρ) (o' : Nat) : (s.commit q o').first = s.first := by
  unfold commit
  split <;> rfl

@[simp] theorem commit_position (q : ρ) (o' : Nat) : (s.commit q o').position = s.position := by
  unfold commit
  split <;> rfl

/-- The commit of a partition is a message that the session has polled, or the commit before. -/
theorem commit_committed (q : ρ) (o' : Nat) :
    (s.commit q o').committed p = s.committed p ∨
    ∃ n, (s.commit q o').committed p = some (n + 1) ∧ s.first p ≤ n ∧ n < s.position p := by
  unfold commit
  split
  · next hpolled =>
    by_cases hp : p = q
    · subst hp
      exact .inr ⟨o', Function.update_self .., hpolled⟩
    · exact .inl (Function.update_of_ne hp ..)
  · exact .inl rfl

theorem Sound.commit (h : s.Sound ends) (q : ρ) (o' : Nat) : (s.commit q o').Sound ends where
  committed_le p c hc := by
    rw [commit_position]
    rcases commit_committed (s := s) (p := p) q o' with hsame | ⟨n, hn, -, hlt⟩
    · exact h.committed_le p c (hsame ▸ hc)
    · rw [hn] at hc
      cases hc
      exact hlt
  position_le p := by
    rw [commit_position]
    exact h.position_le p

theorem Comes.commit (h : s.Comes p o) (q : ρ) (o' : Nat) : (s.commit q o').Comes p o := by
  refine ⟨by rw [commit_position]; exact h.1, ?_⟩
  rcases commit_committed (s := s) (p := p) q o' with hsame | ⟨n, hn, -⟩
  · rw [hsame]
    exact h.2
  · rw [hn]
    rfl

theorem Passed.commit (h : s.Passed p o) (q : ρ) (o' : Nat) : (s.commit q o').Passed p o := by
  refine ⟨by rw [commit_first]; exact h.1, by rw [commit_position]; exact h.2.1, ?_⟩
  rcases commit_committed (s := s) (p := p) q o' with hsame | ⟨n, hn, hfirst, -⟩
  · rw [hsame]
    exact h.2.2
  · exact ⟨n + 1, hn, Nat.lt_succ_of_lt (h.1.trans_le hfirst)⟩

end Steps

/-! ## Restarts -/

theorem Sound.restart (h : s.Sound ends) : (s.restart ends).Sound ends where
  committed_le p c hc := by
    have hc : s.committed p = some c := hc
    simp [Offsets.restart, hc]
  position_le p := by
    cases hc : s.committed p with
    | none => simp [Offsets.restart, hc]
    | some c => simpa [Offsets.restart, hc] using (h.committed_le p c hc).trans (h.position_le p)

/-- Behind a commit an offset is polled again. -/
theorem comes_restart {c : Nat} (hc : s.committed p = some c) (ho : c ≤ o) :
    (s.restart ends).Comes p o := by
  simp [Comes, Offsets.restart, hc, ho]

/-- After a restart an offset comes again, unless it is behind the commit or nothing has been
committed. -/
theorem restart_cases (ho : o < ends p) : (s.restart ends).Comes p o ∨
    (o < (s.restart ends).position p ∧ ∀ c, s.committed p = some c → o < c) := by
  cases hc : s.committed p with
  | none =>
    refine .inr ⟨?_, nofun⟩
    simpa [Offsets.restart, hc] using ho
  | some c =>
    rcases Nat.lt_or_ge o c with hlt | hge
    · refine .inr ⟨?_, fun c' hc' => Option.some.inj hc' ▸ hlt⟩
      simpa [Offsets.restart, hc] using hlt
    · exact .inl (comes_restart hc hge)

theorem Comes.restart (h : s.Comes p o) (hsound : s.Sound ends) : (s.restart ends).Comes p o := by
  obtain ⟨c, hc⟩ := Option.isSome_iff_exists.mp h.2
  exact comes_restart hc ((hsound.committed_le p c hc).trans h.1)

theorem Passed.restart (h : s.Passed p o) : (s.restart ends).Passed p o := by
  obtain ⟨-, -, c, hc, ho⟩ := h
  simp [Passed, Offsets.restart, hc, ho]

/-! ## First polls -/

/-- Nothing is left out between where the session started and what any session has polled. -/
structure InOrder (s : Offsets ρ) (ends : ρ → Nat) (polled : ρ → Nat → Prop) : Prop where
  sound : s.Sound ends
  first_le_position : ∀ p, s.first p ≤ s.position p
  first_le_committed : ∀ p c, s.committed p = some c → s.first p ≤ c
  polled_lt : ∀ p o, polled p o → o < ends p
  session : ∀ p o, s.first p ≤ o → o < s.position p → polled p o
  below : ∀ p o o', polled p o → s.first p ≤ o' → o' < o → polled p o'

section Polled

variable {polled polled' : ρ → Nat → Prop}

/-- What comes for the first time comes behind everything that has been polled. -/
theorem InOrder.lt_position (h : s.InOrder ends polled) (ho : polled p o)
    (hnew : ¬ polled p (s.position p)) : o < s.position p := by
  by_contra hle
  rcases (Nat.not_lt.mp hle).eq_or_lt with heq | hlt
  · exact hnew (heq ▸ ho)
  · exact hnew (h.below p o _ ho (h.first_le_position p) hlt)

theorem InOrder.mono {ends' : ρ → Nat} (h : s.InOrder ends polled) (hends : ∀ p, ends p ≤ ends' p) :
    s.InOrder ends' polled :=
  { h with
    sound := h.sound.mono hends
    polled_lt := fun p o ho => (h.polled_lt p o ho).trans_le (hends p) }

theorem InOrder.restart (h : s.InOrder ends polled) : (s.restart ends).InOrder ends polled where
  sound := h.sound.restart
  first_le_position _ := Nat.le_refl _
  first_le_committed p c hc := by
    have hc : s.committed p = some c := hc
    simp [Offsets.restart, hc]
  polled_lt := h.polled_lt
  session p o hfirst hlt := absurd hlt (Nat.not_lt.mpr hfirst)
  below p o o' ho hfirst hlt := by
    refine h.below p o o' ho ?_ hlt
    cases hc : s.committed p with
    | none =>
      have hfirst : ends p ≤ o' := by simpa [Offsets.restart, hc] using hfirst
      exact absurd (hfirst.trans_lt hlt) (Nat.not_lt.mpr (h.polled_lt p o ho).le)
    | some c =>
      have hfirst : c ≤ o' := by simpa [Offsets.restart, hc] using hfirst
      exact (h.first_le_committed p c hc).trans hfirst

variable [DecidableEq ρ]

theorem InOrder.poll (h : s.InOrder ends polled) {q : ρ} (hq : s.position q < ends q)
    (hpolled : ∀ p o, polled' p o ↔ polled p o ∨ (p = q ∧ o = s.position q)) :
    (s.poll q).InOrder ends polled' where
  sound := h.sound.poll hq
  first_le_position p := (h.first_le_position p).trans (position_le_poll q)
  first_le_committed := h.first_le_committed
  polled_lt p o ho := by
    rcases (hpolled p o).mp ho with ho | ⟨rfl, rfl⟩
    · exact h.polled_lt p o ho
    · exact hq
  session p o hfirst hlt := by
    refine (hpolled p o).mpr ?_
    by_cases hp : p = q
    · subst hp
      rw [poll_position_self] at hlt
      rcases (Nat.le_of_lt_succ hlt).eq_or_lt with heq | hlt
      · exact .inr ⟨rfl, heq⟩
      · exact .inl (h.session p o hfirst hlt)
    · rw [poll_position_ne hp] at hlt
      exact .inl (h.session p o hfirst hlt)
  below p o o' ho hfirst hlt := by
    refine (hpolled p o').mpr (.inl ?_)
    rcases (hpolled p o).mp ho with ho | ⟨rfl, rfl⟩
    · exact h.below p o o' ho hfirst hlt
    · exact h.session p o' hfirst hlt

theorem InOrder.commit (h : s.InOrder ends polled) (q : ρ) (o' : Nat) :
    (s.commit q o').InOrder ends polled where
  sound := h.sound.commit q o'
  first_le_position p := by
    rw [commit_first, commit_position]
    exact h.first_le_position p
  first_le_committed p c hc := by
    rw [commit_first]
    rcases commit_committed (s := s) (p := p) q o' with hsame | ⟨n, hn, hfirst, -⟩
    · exact h.first_le_committed p c (hsame ▸ hc)
    · rw [hn] at hc
      cases hc
      exact hfirst.trans (Nat.le_succ n)
  polled_lt := h.polled_lt
  session p o hfirst hlt := by
    rw [commit_first] at hfirst
    rw [commit_position] at hlt
    exact h.session p o hfirst hlt
  below p o o'' ho hfirst hlt := by
    rw [commit_first] at hfirst
    exact h.below p o o'' ho hfirst hlt

end Polled

end Offsets

end OcenPlatform.Durable
