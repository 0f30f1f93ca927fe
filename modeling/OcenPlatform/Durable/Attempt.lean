import OcenPlatform.Durable.Program

/-! The code of an activity as a process that calls the outside world and goes on
with the answers. One execution of it is an attempt; what attempts do is recorded
in a log, together with the changes of the environment around them. -/

namespace OcenPlatform.Durable

variable {W A R E α β : Type} {C : Type} {Y : C → Type}

/-- `Y c` is what call `c` answers. `raise` carries the name of the exception's type. -/
inductive Proc (C : Type) (Y : C → Type) (α : Type) where
  | done (value : α)
  | raise (error : String)
  | call (c : C) (next : Except String (Y c) → Proc C Y α)

namespace Proc

def bind : Proc C Y α → (α → Proc C Y β) → Proc C Y β
  | .done v, f => f v
  | .raise e, _ => .raise e
  | .call c next, f => .call c fun y => (next y).bind f

instance : Monad (Proc C Y) where
  pure := .done
  bind := bind

def ofExcept : Except String α → Proc C Y α
  | .ok v => .done v
  | .error e => .raise e

/-- `await c`: an exception of the call is raised here. -/
def ask (c : C) : Proc C Y (Y c) := .call c ofExcept

/-- `await c` in a `try` block that catches every exception and goes on. -/
def tryAsk (c : C) : Proc C Y Unit := .call c fun _ => .done ()

/-! ## What a process can return -/

/-- Some answers make the process return `v`. -/
inductive Returns : Proc C Y α → α → Prop
  | done {v} : Returns (.done v) v
  | call {c next v} (y : Except String (Y c)) : Returns (next y) v → Returns (.call c next) v

theorem returns_pure {v v' : α} : Returns (pure v : Proc C Y α) v' ↔ v' = v := by
  constructor
  · intro h
    cases h
    rfl
  · rintro rfl
    exact .done

theorem returns_bind (p : Proc C Y α) (f : α → Proc C Y β) (v : β) :
    Returns (p >>= f) v ↔ ∃ u, Returns p u ∧ Returns (f u) v := by
  change Returns (p.bind f) v ↔ _
  induction p with
  | done u =>
    constructor
    · intro h
      exact ⟨u, .done, h⟩
    · rintro ⟨_, h, hf⟩
      cases h
      exact hf
  | raise e =>
    constructor
    · intro h
      cases h
    · rintro ⟨_, h, -⟩
      cases h
  | call c next ih =>
    constructor
    · intro h
      cases h with
      | call y hnext =>
        obtain ⟨u, hu, hf⟩ := (ih y).mp hnext
        exact ⟨u, .call y hu, hf⟩
    · rintro ⟨u, h, hf⟩
      cases h with
      | call y hu => exact .call y ((ih y).mpr ⟨u, hu, hf⟩)

theorem returns_ofExcept {e : Except String α} {v : α} :
    Returns (ofExcept e : Proc C Y α) v ↔ e = .ok v := by
  constructor
  · intro h
    cases e with
    | ok u =>
      cases h
      rfl
    | error err => cases h
  · rintro rfl
    exact .done

/-- Whatever the calls answer, the process returns. -/
inductive NeverRaises : Proc C Y α → Prop
  | done {v} : NeverRaises (.done v)
  | call {c next} : (∀ y, NeverRaises (next y)) → NeverRaises (.call c next)

theorem not_neverRaises_raise {e : String} : ¬ NeverRaises (.raise e : Proc C Y α) := by
  intro h
  cases h

theorem NeverRaises.exists_returns {p : Proc C Y α} (h : p.NeverRaises) : ∃ v, p.Returns v := by
  induction h with
  | done => exact ⟨_, .done⟩
  | call _ ih =>
    obtain ⟨v, hv⟩ := ih (.error "")
    exact ⟨v, .call _ hv⟩

end Proc

/-! ## Logs -/

/-- What a log records: the attempts of activities, on which worker they start, the
calls they make, how they end, and the changes of the environment. -/
inductive Entry (W A : Type) (C : Type) (Y : C → Type) (R E : Type) where
  | started (w : W) (a : A)
  | called (a : A) (c : C) (y : Except String (Y c))
  | finished (a : A) (r : R)
  | ended (a : A)
  | changed (env : E)

abbrev Log (W A : Type) (C : Type) (Y : C → Type) (R E : Type) := List (Entry W A C Y R E)

@[simp] def Entry.result? : Entry W A C Y R E → Option (A × R)
  | .finished a r => some (a, r)
  | _ => none

@[simp] def Entry.change? : Entry W A C Y R E → Option E
  | .changed env => some env
  | _ => none

namespace Log

def results (l : Log W A C Y R E) : List (A × R) := l.filterMap Entry.result?

/-- What the last change of the environment has left, if there is one. -/
def lastChange (l : Log W A C Y R E) : Option E := (l.filterMap Entry.change?).getLast?

def envAfter (env : E) (l : Log W A C Y R E) : E := (lastChange l).getD env

variable {l l' : Log W A C Y R E} {env : E}

@[simp] theorem results_append : results (l ++ l') = results l ++ results l' :=
  List.filterMap_append

@[simp] theorem results_nil : results ([] : Log W A C Y R E) = [] := rfl

@[simp] theorem results_cons (o : Entry W A C Y R E) :
    results (o :: l) = o.result?.toList ++ results l := by
  cases o <;> rfl

@[simp] theorem envAfter_snoc (o : Entry W A C Y R E) :
    envAfter env (l ++ [o]) = o.change?.getD (envAfter env l) := by
  cases o <;> simp [envAfter, lastChange]

theorem envAfter_append : envAfter env (l ++ l') = (lastChange l').getD (envAfter env l) := by
  unfold envAfter lastChange
  rw [List.filterMap_append, List.getLast?_append]
  cases (l'.filterMap Entry.change?).getLast? <;> rfl

theorem lastChange_called (a : A) (c : C) (y : Except String (Y c)) :
    lastChange (.called a c y :: l) = lastChange l := rfl

theorem mem_results {a : A} {r : R} :
    (a, r) ∈ results l ↔ ∃ before after, l = before ++ .finished a r :: after := by
  constructor
  · intro hmem
    obtain ⟨o, ho, hresult⟩ := List.mem_filterMap.mp hmem
    obtain rfl : o = .finished a r := by cases o <;> simp_all
    exact List.append_of_mem ho
  · rintro ⟨before, after, rfl⟩
    simp [results]

end Log

/-! ## Following an attempt through the log -/

/-- An attempt of `a` that stands at `p` stands at `q` after this part of the log. -/
inductive Reaches (a : A) : Proc C Y R → Log W A C Y R E → Proc C Y R → Prop
  | here {p} : Reaches a p [] p
  | called {c next y seg q} : Reaches a (next y) seg q →
      Reaches a (.call c next) (.called a c y :: seg) q
  | changed {p env seg q} : Reaches a p seg q → Reaches a p (.changed env :: seg) q

namespace Reaches

variable {a : A} {p q : Proc C Y R} {seg : Log W A C Y R E}

theorem snoc_called {c : C} {next : Except String (Y c) → Proc C Y R}
    (h : Reaches a p seg (.call c next)) (y : Except String (Y c)) :
    Reaches a p (seg ++ [.called a c y]) (next y) := by
  generalize hq : Proc.call c next = q at h
  induction h with
  | here =>
    subst hq
    exact .called .here
  | called _ ih => exact .called (ih hq)
  | changed _ ih => exact .changed (ih hq)

theorem snoc_changed (h : Reaches a p seg q) (env : E) :
    Reaches a p (seg ++ [.changed env]) q := by
  induction h with
  | here => exact .changed .here
  | called _ ih => exact .called ih
  | changed _ ih => exact .changed ih

/-- Nothing starts or ends in the middle of an attempt. -/
theorem not_started (h : Reaches a p seg q) (w : W) (a' : A) : .started w a' ∉ seg := by
  induction h with
  | here => simp
  | called _ ih => simpa using ih
  | changed _ ih => simpa using ih

theorem done_inv {r : R} (h : Reaches a (.done r) seg q) : q = .done r := by
  generalize hp : Proc.done r = p at h
  induction h with
  | here => rfl
  | called _ _ => cases hp
  | changed _ ih => exact ih hp

theorem raise_inv {err : String} (h : Reaches a (.raise err) seg q) : q = .raise err := by
  generalize hp : Proc.raise err = p at h
  induction h with
  | here => rfl
  | called _ _ => cases hp
  | changed _ ih => exact ih hp

/-- An attempt that stands at a call stays there or makes it. -/
theorem call_inv {c : C} {next : Except String (Y c) → Proc C Y R}
    (h : Reaches a (.call c next) seg q) : q = .call c next ∨
      ∃ front y back, seg = front ++ .called a c y :: back ∧ Reaches a (next y) back q := by
  generalize hp : Proc.call c next = p at h
  induction h with
  | here => exact .inl rfl
  | @called c' next' y seg q hseg _ =>
    cases hp
    exact .inr ⟨[], y, seg, rfl, hseg⟩
  | @changed p env seg q _ ih =>
    rcases ih hp with hstay | ⟨front, y, back, rfl, hback⟩
    · exact .inl hstay
    · exact .inr ⟨.changed env :: front, y, back, rfl, hback⟩

/-- An attempt that goes through `await c` has got an answer to it. -/
theorem ask_inv {c : C} {f : Y c → Proc C Y R} {r : R}
    (h : Reaches a (Proc.ask c >>= f) seg (.done r)) :
    ∃ front v back, seg = front ++ .called a c (.ok v) :: back ∧ Reaches a (f v) back (.done r) := by
  rcases call_inv h with hstay | ⟨front, y, back, rfl, hback⟩
  · cases hstay
  · cases y with
    | ok v => exact ⟨front, v, back, rfl, hback⟩
    | error err => cases hback.raise_inv

theorem returns {r : R} (h : Reaches a p seg (.done r)) : p.Returns r := by
  generalize hq : Proc.done r = q at h
  induction h with
  | here =>
    subst hq
    exact .done
  | called _ ih => exact .call _ (ih hq)
  | changed _ ih => exact ih hq

end Reaches

/-- The last start of an attempt splits a log in one way. -/
theorem started_split {w w' : W} {a a' : A} {b b' seg seg' : Log W A C Y R E}
    (hseg : ∀ w a, .started w a ∉ seg) (hseg' : ∀ w a, .started w a ∉ seg')
    (heq : b ++ .started w a :: seg = b' ++ .started w' a' :: seg') : b = b' ∧ seg = seg' := by
  rcases List.append_eq_append_iff.mp heq with ⟨mid, hb, hsplit⟩ | ⟨mid, hb, hsplit⟩
  · cases mid with
    | nil =>
      obtain ⟨-, rfl⟩ := List.cons.inj hsplit
      exact ⟨by simpa using hb.symm, rfl⟩
    | cons o mid =>
      obtain ⟨-, rfl⟩ := List.cons.inj hsplit
      exact absurd (by simp) (hseg w' a')
  · cases mid with
    | nil =>
      obtain ⟨-, rfl⟩ := List.cons.inj hsplit
      exact ⟨by simpa using hb, rfl⟩
    | cons o mid =>
      obtain ⟨-, rfl⟩ := List.cons.inj hsplit
      exact absurd (by simp) (hseg' w a)

end OcenPlatform.Durable
