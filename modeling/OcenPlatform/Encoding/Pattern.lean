import Mathlib.Data.List.Basic

/-! Patterns `^c₁c₂…cₙ$` with a class for each character, and the two readings of their `$`: at the
end of the text only, or also before a newline that ends it. -/

namespace OcenPlatform.Pattern

abbrev CharClass := Char → Bool

/-- The text has one character for each class. -/
def fits : List CharClass → List Char → Bool
  | [], [] => true
  | p :: classes, c :: cs => p c && fits classes cs
  | _, _ => false

/-- The text up to the first `n` characters fits, and `$` matches after them in Python's reading. -/
def pyMatch (classes : List CharClass) (s : String) : Bool :=
  let n := classes.length
  fits classes (s.toList.take n) && (s.toList.drop n = [] || s.toList.drop n = ['\n'])

/-- `$` matches at the end of the text only. -/
def strictMatch (classes : List CharClass) (s : String) : Bool := fits classes s.toList

variable {classes classes' : List CharClass} {p q r : CharClass} {cs : List Char} {s : String}

theorem length_of_fits (h : fits classes cs) : cs.length = classes.length := by
  induction classes generalizing cs with
  | nil =>
    cases cs with
    | nil => rfl
    | cons c cs => cases h
  | cons p classes ih =>
    cases cs with
    | nil => cases h
    | cons c cs =>
      rw [fits, Bool.and_eq_true] at h
      rw [List.length_cons, List.length_cons, ih h.2]

theorem fits_replicate {n : Nat} :
    fits (List.replicate n p) cs ↔ cs.length = n ∧ ∀ c ∈ cs, p c := by
  induction n generalizing cs with
  | zero => cases cs <;> simp [fits]
  | succ n ih =>
    cases cs with
    | nil => simp [List.replicate_succ, fits]
    | cons c cs =>
      rw [List.replicate_succ, fits, Bool.and_eq_true, ih]
      simp only [List.length_cons, Nat.add_right_cancel_iff, List.mem_cons, forall_eq_or_imp]
      tauto

/-- A class that is the union of two. -/
theorem fits_union (hr : ∀ c, r c = (p c || q c)) :
    fits (classes ++ r :: classes') cs =
      (fits (classes ++ p :: classes') cs || fits (classes ++ q :: classes') cs) := by
  induction classes generalizing cs with
  | nil =>
    cases cs with
    | nil => rfl
    | cons c cs => rw [List.nil_append, List.nil_append, List.nil_append, fits, fits, fits, hr,
        Bool.and_or_distrib_right]
  | cons p' classes ih =>
    cases cs with
    | nil => rfl
    | cons c cs => rw [List.cons_append, List.cons_append, List.cons_append, fits, fits, fits, ih,
        Bool.and_or_distrib_left]

/-- A text that fits with either class at one place has a character there that is in both. -/
theorem exists_of_fits_both (hp : fits (classes ++ p :: classes') cs)
    (hq : fits (classes ++ q :: classes') cs) : ∃ c, p c ∧ q c := by
  induction classes generalizing cs with
  | nil =>
    cases cs with
    | nil => cases hp
    | cons c cs =>
      rw [List.nil_append, fits, Bool.and_eq_true] at hp hq
      exact ⟨c, hp.1, hq.1⟩
  | cons p' classes ih =>
    cases cs with
    | nil => cases hp
    | cons c cs =>
      rw [List.cons_append, fits, Bool.and_eq_true] at hp hq
      exact ih hp.2 hq.2

/-- Python's reading accepts one more text for each that fits: the one with a newline added. -/
theorem pyMatch_iff : pyMatch classes s ↔
    strictMatch classes s ∨ ∃ t, s = t ++ "\n" ∧ strictMatch classes t := by
  unfold pyMatch strictMatch
  simp only [Bool.and_eq_true, Bool.or_eq_true, decide_eq_true_eq]
  constructor
  · rintro ⟨hfits, hend | hend⟩
    · left
      rwa [← List.take_append_drop classes.length s.toList, hend, List.append_nil]
    · refine .inr ⟨String.ofList (s.toList.take classes.length), ?_, by rwa [String.toList_ofList]⟩
      apply String.toList_injective
      rw [String.toList_append, String.toList_ofList]
      conv_lhs => rw [← List.take_append_drop classes.length s.toList, hend]
      rfl
  · rintro (hfits | ⟨t, rfl, hfits⟩)
    · have hlength := length_of_fits hfits
      rw [List.take_of_length_le (Nat.le_of_eq hlength), List.drop_of_length_le (Nat.le_of_eq hlength)]
      exact ⟨hfits, .inl rfl⟩
    · have hlength := length_of_fits hfits
      rw [String.toList_append, List.take_left' hlength, List.drop_left' hlength]
      exact ⟨hfits, .inr rfl⟩

/-- The text with the newline is not one that fits. -/
theorem not_strictMatch_newline (h : strictMatch classes s) : ¬ strictMatch classes (s ++ "\n") := by
  intro h'
  have hlength := length_of_fits h
  have hlength' := length_of_fits h'
  rw [String.toList_append, List.length_append, hlength] at hlength'
  have hnewline : "\n".toList.length = 1 := rfl
  omega

end OcenPlatform.Pattern
