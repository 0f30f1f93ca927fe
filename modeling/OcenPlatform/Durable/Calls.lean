import OcenPlatform.Durable.Attempt

/-! Processes put together from processes, and which calls they can make: calls of
one kind only, at most so many of a kind, or calls that all agree in something. -/

namespace OcenPlatform.Durable

variable {W A R E α β κ : Type} {C C' : Type} {Y : C → Type} {Y' : C' → Type}

namespace Proc

/-- `p` in a `try` block: its value or its exception goes to `f`. -/
def tryBind (p : Proc C Y α) (f : Except String α → Proc C Y β) : Proc C Y β :=
  match p with
  | .done v => f (.ok v)
  | .raise e => f (.error e)
  | .call c next => .call c fun y => (next y).tryBind f

/-- Each call is made by a process of its own. -/
def interpret (impl : (c : C) → Proc C' Y' (Y c)) : Proc C Y α → Proc C' Y' α
  | .done v => .done v
  | .raise e => .raise e
  | .call c next => (impl c).tryBind fun y => (next y).interpret impl

theorem bind_assoc {γ : Type} (p : Proc C Y α) (f : α → Proc C Y β) (g : β → Proc C Y γ) :
    p >>= f >>= g = p >>= fun v => f v >>= g := by
  change (p.bind f).bind g = p.bind fun v => (f v).bind g
  induction p with
  | done v => rfl
  | raise e => rfl
  | call c next ih => simp only [bind, ih]

theorem tryBind_bind {γ : Type} (p : Proc C Y α) (f : Except String α → Proc C Y β)
    (g : β → Proc C Y γ) : (p.tryBind f).bind g = p.tryBind fun y => (f y).bind g := by
  induction p with
  | done v => rfl
  | raise e => rfl
  | call c next ih => simp only [tryBind, bind, ih]

theorem ofExcept_ok_bind (v : α) (f : α → Proc C Y β) : (ofExcept (.ok v) >>= f) = f v := rfl

theorem ofExcept_error_bind (e : String) (f : α → Proc C Y β) :
    (ofExcept (.error e) >>= f) = .raise e := rfl

theorem tryBind_ofExcept (p : Proc C Y α) : p.tryBind ofExcept = p := by
  induction p with
  | done v => rfl
  | raise e => rfl
  | call c next ih => simp only [tryBind, ih]

section Interpret

variable (impl : (c : C) → Proc C' Y' (Y c))

theorem interpret_bind (p : Proc C Y α) (f : α → Proc C Y β) :
    (p >>= f).interpret impl = p.interpret impl >>= fun v => (f v).interpret impl := by
  change (p.bind f).interpret impl = (p.interpret impl).bind _
  induction p with
  | done v => rfl
  | raise e => rfl
  | call c next ih => simp only [bind, interpret, tryBind_bind, ih]

theorem interpret_ask (c : C) : (ask c).interpret impl = impl c := by
  have hanswer : (fun y : Except String (Y c) => (ofExcept y).interpret impl) = ofExcept := by
    funext y
    cases y <;> rfl
  rw [ask, interpret, hanswer, tryBind_ofExcept]

theorem interpret_ask_bind (c : C) (f : Y c → Proc C Y β) :
    (ask c >>= f).interpret impl = impl c >>= fun v => (f v).interpret impl := by
  rw [interpret_bind, interpret_ask]

end Interpret

/-! ## Calls of one kind only -/

/-- Whatever is answered, every call is one that `Q` allows. -/
def Every (Q : C → Prop) : Proc C Y α → Prop
  | .done _ => True
  | .raise _ => True
  | .call c next => Q c ∧ ∀ y, (next y).Every Q

section Every

variable {Q : C → Prop}

theorem every_bind {p : Proc C Y α} {f : α → Proc C Y β} (hp : p.Every Q)
    (hf : ∀ v, (f v).Every Q) : (p >>= f).Every Q := by
  change (p.bind f).Every Q
  induction p with
  | done v => exact hf v
  | raise e => trivial
  | call c next ih => exact ⟨hp.1, fun y => ih y (hp.2 y)⟩

theorem every_tryBind {p : Proc C Y α} {f : Except String α → Proc C Y β} (hp : p.Every Q)
    (hf : ∀ y, (f y).Every Q) : (p.tryBind f).Every Q := by
  induction p with
  | done v => exact hf _
  | raise e => exact hf _
  | call c next ih => exact ⟨hp.1, fun y => ih y (hp.2 y)⟩

theorem every_ask {c : C} (hc : Q c) : (ask c : Proc C Y (Y c)).Every Q := by
  refine ⟨hc, fun y => ?_⟩
  cases y <;> trivial

theorem every_ask_bind {c : C} {f : Y c → Proc C Y β} (hc : Q c) (hf : ∀ v, (f v).Every Q) :
    (ask c >>= f).Every Q :=
  every_bind (every_ask hc) hf

theorem every_ofExcept_bind {e : Except String α} {f : α → Proc C Y β} (hf : ∀ v, (f v).Every Q) :
    (ofExcept e >>= f).Every Q := by
  cases e with
  | ok v => exact hf v
  | error err => trivial

theorem every_tryAsk {c : C} (hc : Q c) : (tryAsk c : Proc C Y Unit).Every Q :=
  ⟨hc, fun _ => trivial⟩

theorem Every.mono {Q' : C → Prop} {p : Proc C Y α} (hp : p.Every Q) (hQ : ∀ c, Q c → Q' c) :
    p.Every Q' := by
  induction p with
  | done v => trivial
  | raise e => trivial
  | call c next ih => exact ⟨hQ c hp.1, fun y => ih y (hp.2 y)⟩

theorem every_interpret {Q' : C' → Prop} {impl : (c : C) → Proc C' Y' (Y c)}
    (himpl : ∀ c, Q c → (impl c).Every Q') {p : Proc C Y α} (hp : p.Every Q) :
    (p.interpret impl).Every Q' := by
  induction p with
  | done v => trivial
  | raise e => trivial
  | call c next ih => exact every_tryBind (himpl c hp.1) fun y => ih y (hp.2 y)

end Every

/-! ## At most so many calls of a kind -/

/-- Whatever is answered, at most `n` calls are made that satisfy `P`. -/
def AtMost (P : C → Bool) : Nat → Proc C Y α → Prop
  | _, .done _ => True
  | _, .raise _ => True
  | n, .call c next => (P c = true → 0 < n) ∧ ∀ y, AtMost P (n - if P c then 1 else 0) (next y)

section AtMost

variable {P : C → Bool} {n m : Nat}

theorem AtMost.mono {p : Proc C Y α} (hp : AtMost P n p) (hnm : n ≤ m) : AtMost P m p := by
  induction p generalizing n m with
  | done v => trivial
  | raise e => trivial
  | call c next ih =>
    refine ⟨fun hc => ?_, fun y => ih y (hp.2 y) (by omega)⟩
    have hn := hp.1 hc
    omega

theorem atMost_tryBind {p : Proc C Y α} {f : Except String α → Proc C Y β} (hp : AtMost P n p)
    (hf : ∀ y, AtMost P m (f y)) : AtMost P (n + m) (p.tryBind f) := by
  induction p generalizing n with
  | done v => exact (hf _).mono (by omega)
  | raise e => exact (hf _).mono (by omega)
  | call c next ih =>
    refine ⟨fun hc => ?_, fun y => (ih y (hp.2 y)).mono ?_⟩
    · have hn := hp.1 hc
      omega
    by_cases hc : P c = true
    · have hn := hp.1 hc
      simp only [hc, if_true]
      omega
    · simp [hc]

/-- A process makes as many calls of a kind as the calls of which it is built stand for. -/
theorem atMost_interpret {P' : C' → Bool} {impl : (c : C) → Proc C' Y' (Y c)}
    (himpl : ∀ c, AtMost P' (if P c then 1 else 0) (impl c)) {p : Proc C Y α}
    (hp : AtMost P n p) : AtMost P' n (p.interpret impl) := by
  induction p generalizing n with
  | done v => trivial
  | raise e => trivial
  | call c next ih =>
    refine (atMost_tryBind (himpl c) fun y => ih y (hp.2 y)).mono ?_
    by_cases hc : P c = true
    · have hn := hp.1 hc
      simp only [hc, if_true]
      omega
    · simp [hc]

theorem atMost_ask_bind {c : C} {f : Y c → Proc C Y β} (hc : P c = true → 0 < n)
    (hf : ∀ v, AtMost P (n - if P c then 1 else 0) (f v)) : AtMost P n (ask c >>= f) := by
  refine ⟨hc, fun y => ?_⟩
  cases y with
  | ok v => exact hf v
  | error e => trivial

theorem atMost_ask_bind_none {c : C} {f : Y c → Proc C Y β} (hc : P c = false)
    (hf : ∀ v, AtMost P n (f v)) : AtMost P n (ask c >>= f) :=
  atMost_ask_bind (by simp [hc]) fun v => by simpa [hc] using hf v

theorem atMost_ask_bind_succ {c : C} {f : Y c → Proc C Y β} (hf : ∀ v, AtMost P n (f v)) :
    AtMost P (n + 1) (ask c >>= f) :=
  atMost_ask_bind (fun _ => Nat.succ_pos n) fun v => (hf v).mono (by split <;> omega)

theorem atMost_ofExcept_bind {e : Except String α} {f : α → Proc C Y β} (hf : ∀ v, AtMost P n (f v)) :
    AtMost P n (ofExcept e >>= f) := by
  cases e with
  | ok v => exact hf v
  | error err => trivial

theorem Every.atMost {p : Proc C Y α} (hp : p.Every fun c => P c = false) : AtMost P n p := by
  induction p generalizing n with
  | done v => trivial
  | raise e => trivial
  | call c next ih =>
    refine ⟨fun hc => ?_, fun y => ih y (hp.2 y)⟩
    rw [hp.1] at hc
    cases hc

theorem AtMost.every {p : Proc C Y α} (hp : AtMost P 0 p) : p.Every fun c => P c = false := by
  induction p with
  | done v => trivial
  | raise e => trivial
  | call c next ih =>
    refine ⟨Bool.eq_false_iff.mpr fun hc => ?_, fun y => ih y ((hp.2 y).mono (by omega))⟩
    exact absurd (hp.1 hc) (by omega)

theorem atMost_ask (c : C) : AtMost P (if P c then 1 else 0) (ask c : Proc C Y (Y c)) := by
  refine ⟨fun hc => by simp [hc], fun y => ?_⟩
  cases y <;> trivial

end AtMost

/-! ## Calls that agree -/

/-- Whatever is answered, all calls for which `f` is defined have the same `f`. -/
def Uniform (f : C → Option κ) : Proc C Y α → Prop
  | .done _ => True
  | .raise _ => True
  | .call c next => (∀ k, f c = some k → ∀ y, (next y).Every fun c' => ∀ k', f c' = some k' → k' = k) ∧
      ∀ y, (next y).Uniform f

section Uniform

variable {f : C → Option κ} {k : κ}

theorem Every.uniform {p : Proc C Y α} (hp : p.Every fun c => ∀ k', f c = some k' → k' = k) :
    p.Uniform f := by
  induction p with
  | done v => trivial
  | raise e => trivial
  | call c next ih =>
    refine ⟨fun k' hk' y => ?_, fun y => ih y (hp.2 y)⟩
    obtain rfl := hp.1 k' hk'
    exact hp.2 y

theorem uniform_tryBind {p : Proc C Y α} {g : Except String α → Proc C Y β}
    (hp : p.Every fun c => f c = none) (hg : ∀ y, (g y).Uniform f) : (p.tryBind g).Uniform f := by
  induction p with
  | done v => exact hg _
  | raise e => exact hg _
  | call c next ih =>
    refine ⟨fun k hk => ?_, fun y => ih y (hp.2 y)⟩
    rw [hp.1] at hk
    cases hk

/-- One call stands for calls that agree, and no other stands for such calls. -/
theorem uniform_interpret {f : C' → Option κ} {P : C → Bool} {impl : (c : C) → Proc C' Y' (Y c)}
    (hnone : ∀ c, P c = false → (impl c).Every fun c' => f c' = none)
    (hsome : ∀ c, P c = true → ∃ k, (impl c).Every fun c' => ∀ k', f c' = some k' → k' = k)
    {p : Proc C Y α} (hp : p.AtMost P 1) : (p.interpret impl).Uniform f := by
  induction p with
  | done v => trivial
  | raise e => trivial
  | call c next ih =>
    by_cases hc : P c = true
    · obtain ⟨k, hk⟩ := hsome c hc
      apply Every.uniform (k := k)
      refine every_tryBind hk fun y => ?_
      have hrest : (next y).AtMost P 0 := by simpa [hc] using hp.2 y
      refine (every_interpret hnone hrest.every).mono fun c' hc' k' hk' => ?_
      rw [hc'] at hk'
      cases hk'
    · have hc' : P c = false := by simpa using hc
      exact uniform_tryBind (hnone c hc') fun y => ih y (by simpa [hc] using hp.2 y)

end Uniform

/-! ## Calls that cannot be left out -/

/-- Whatever is answered, nothing is returned before a call that satisfies `Q`. -/
def Surely (Q : C → Prop) : Proc C Y α → Prop
  | .done _ => False
  | .raise _ => True
  | .call c next => Q c ∨ ∀ y, (next y).Surely Q

section Surely

variable {Q : C → Prop}

theorem surely_bind_left {p : Proc C Y α} (hp : p.Surely Q) (f : α → Proc C Y β) :
    (p >>= f).Surely Q := by
  change (p.bind f).Surely Q
  induction p with
  | done v => cases hp
  | raise e => trivial
  | call c next ih =>
    rcases hp with hc | hnext
    · exact .inl hc
    · exact .inr fun y => ih y (hnext y)

theorem surely_bind_right {p : Proc C Y α} {f : α → Proc C Y β} (hf : ∀ v, (f v).Surely Q) :
    (p >>= f).Surely Q := by
  change (p.bind f).Surely Q
  induction p with
  | done v => exact hf v
  | raise e => trivial
  | call c next ih => exact .inr fun y => ih y

end Surely

end Proc

/-! ## Calls of an attempt -/

/-- The entry records a call that satisfies `P`. -/
def Entry.calls (P : C → Bool) : Entry W A C Y R E → Bool
  | .called _ c _ => P c
  | _ => false

namespace Reaches

variable {a : A} {p q : Proc C Y R} {seg : Log W A C Y R E}

theorem every {Q : C → Prop} (h : Reaches a p seg q) (hp : p.Every Q) :
    q.Every Q ∧ ∀ a' c y, .called a' c y ∈ seg → Q c := by
  induction h with
  | here => exact ⟨hp, by simp⟩
  | called _ ih =>
    obtain ⟨hq, hseg⟩ := ih (hp.2 _)
    refine ⟨hq, fun a' c y hmem => ?_⟩
    rcases List.mem_cons.mp hmem with heq | hmem
    · cases heq
      exact hp.1
    · exact hseg a' c y hmem
  | changed _ ih =>
    obtain ⟨hq, hseg⟩ := ih hp
    exact ⟨hq, fun a' c y hmem => hseg a' c y (by simpa using hmem)⟩

theorem atMost {P : C → Bool} {n : Nat} (h : Reaches a p seg q) (hp : p.AtMost P n) :
    ∃ m, q.AtMost P m ∧ seg.countP (Entry.calls P) + m ≤ n := by
  induction h generalizing n with
  | here => exact ⟨n, hp, by simp⟩
  | @called c next y seg q _ ih =>
    obtain ⟨m, hq, hle⟩ := ih (hp.2 y)
    refine ⟨m, hq, ?_⟩
    by_cases hc : P c = true
    · have hn := hp.1 hc
      simp only [hc, if_true] at hle
      simp only [List.countP_cons, Entry.calls, hc, if_true]
      omega
    · simp only [hc] at hle
      simp only [List.countP_cons, Entry.calls, hc]
      simpa using hle
  | changed _ ih =>
    obtain ⟨m, hq, hle⟩ := ih hp
    exact ⟨m, hq, by simpa [List.countP_cons, Entry.calls] using hle⟩

/-- Before its only call of a kind an attempt has made none. -/
theorem not_calls {P : C → Bool} {c : C} {next : Except String (Y c) → Proc C Y R}
    (h : Reaches a p seg (.call c next)) (hp : p.AtMost P 1) (hc : P c = true) :
    ∀ e ∈ seg, e.calls P = false := by
  obtain ⟨m, hq, hle⟩ := h.atMost hp
  have hm := hq.1 hc
  have hzero : seg.countP (Entry.calls P) = 0 := by omega
  intro e he
  simpa using List.countP_eq_zero.mp hzero e he

/-- The only call of a kind. -/
theorem only_call {P : C → Bool} {e e' : Entry W A C Y R E} (h : Reaches a p seg q)
    (hp : p.AtMost P 1) (hmem : e ∈ seg) (he : e.calls P = true) (hmem' : e' ∈ seg)
    (he' : e'.calls P = true) : e' = e := by
  obtain ⟨front, back, rfl⟩ := List.append_of_mem hmem
  obtain ⟨m, -, hle⟩ := h.atMost hp
  simp only [List.countP_append, List.countP_cons, he, if_true] at hle
  have hfront : front.countP (Entry.calls P) = 0 := by omega
  have hback : back.countP (Entry.calls P) = 0 := by omega
  rcases List.mem_append.mp hmem' with hin | hin
  · exact absurd he' (List.countP_eq_zero.mp hfront e' hin)
  · rcases List.mem_cons.mp hin with heq | hin
    · exact heq
    · exact absurd he' (List.countP_eq_zero.mp hback e' hin)

/-- An attempt that has returned has made the calls that cannot be left out. -/
theorem surely {Q : C → Prop} {r : R} (h : Reaches a p seg (.done r)) (hp : p.Surely Q) :
    ∃ c y, .called a c y ∈ seg ∧ Q c := by
  generalize hq : Proc.done r = q at h
  induction h with
  | here =>
    subst hq
    cases hp
  | @called c next y seg q _ ih =>
    rcases hp with hc | hnext
    · exact ⟨c, y, .head _, hc⟩
    · obtain ⟨c', y', hmem, hc'⟩ := ih (hnext y) hq
      exact ⟨c', y', .tail _ hmem, hc'⟩
  | changed _ ih =>
    obtain ⟨c, y, hmem, hc⟩ := ih hp hq
    exact ⟨c, y, .tail _ hmem, hc⟩

/-- An attempt that stands at another call has got an answer to `await c`. -/
theorem ask_step {c c' : C} {f : Y c → Proc C Y R} {next : Except String (Y c') → Proc C Y R}
    (h : Reaches a (Proc.ask c >>= f) seg (.call c' next)) (hne : c' ≠ c) :
    ∃ front v back, seg = front ++ .called a c (.ok v) :: back ∧
      Reaches a (f v) back (.call c' next) := by
  rcases call_inv h with hstay | ⟨front, y, back, rfl, hback⟩
  · cases hstay
    exact absurd rfl hne
  · cases y with
    | ok v => exact ⟨front, v, back, rfl, hback⟩
    | error err => cases hback.raise_inv

/-- The calls of an attempt agree with the next one. -/
theorem uniform {f : C → Option κ} {c : C} {next : Except String (Y c) → Proc C Y R} {k : κ}
    (h : Reaches a p seg (.call c next)) (hp : p.Uniform f) (hk : f c = some k) :
    ∀ a' c' y' k', .called a' c' y' ∈ seg → f c' = some k' → k' = k := by
  generalize hq : Proc.call c next = q at h
  induction h with
  | here => simp
  | @called c₀ next₀ y seg q hseg ih =>
    intro a' c' y' k' hmem hk'
    rcases List.mem_cons.mp hmem with heq | hmem
    · cases heq
      subst hq
      have hnext := (hseg.every (hp.1 k' hk' y)).1
      exact (hnext.1 k hk).symm
    · exact ih (hp.2 y) hq a' c' y' k' hmem hk'
  | changed _ ih =>
    intro a' c' y' k' hmem hk'
    exact ih hp hq a' c' y' k' (by simpa using hmem) hk'

end Reaches

end OcenPlatform.Durable
