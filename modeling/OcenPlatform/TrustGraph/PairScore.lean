import Mathlib.Algebra.Order.Field.Rat
import Mathlib.Data.Nat.Cast.Order.Field
import OcenPlatform.TrustGraph.FanOut

/-! The composite trust score of `trust_scores`: its bounds, and what one more repaid loan does
to it. -/

namespace OcenPlatform.TrustGraph

open Sql

/-! ## Before rounding -/

/-- The share of the loans that are repaid. -/
def repaidShare (totalLoans repaidLoans : Nat) : Rat := repaidLoans / totalLoans

def promptBonus (avgDaysToRepay : Option Rat) : Rat := if avgDaysToRepay.any (· ≤ 30) then 10 else 0

/-- The trust score before it is rounded. -/
def rawScore (totalLoans repaidLoans : Nat) (avgDaysToRepay : Option Rat) : Rat :=
  if totalLoans < 3 then repaidShare totalLoans repaidLoans * 50
  else repaidShare totalLoans repaidLoans * 70 + (min totalLoans 20 : Nat) + promptBonus avgDaysToRepay

section Raw

variable {n k : Nat} {avg avg' : Option Rat}

theorem trustScore_eq {pg : Postgres} (hdiv : ∀ p q, pg.div p q = p / q) :
    trustScore pg n k avg = round (rawScore n k avg) 0 := by
  unfold trustScore rawScore repaidShare promptBonus
  simp only [hdiv]
  by_cases hzero : n = 0
  · subst hzero
    have hround : Sql.round ((0 : Nat) : Rat) 0 = (0 : Nat) := Sql.round_natCast 0
    simpa using hround.symm
  · rw [if_neg hzero]
    split
    · rfl
    · rw [div_mul_cancel₀ _ (by norm_num)]

theorem repaidShare_nonneg : 0 ≤ repaidShare n k := div_nonneg (Nat.cast_nonneg k) (Nat.cast_nonneg n)

theorem repaidShare_le_one (h : k ≤ n) : repaidShare n k ≤ 1 :=
  div_le_one_of_le₀ (Nat.cast_le.mpr h) (Nat.cast_nonneg n)

/-- One more loan that is repaid does not lower the share. -/
theorem repaidShare_le_succ (h : k ≤ n) : repaidShare n k ≤ repaidShare (n + 1) (k + 1) := by
  rcases Nat.eq_zero_or_pos n with rfl | hn
  · rw [repaidShare, Nat.cast_zero, div_zero]
    exact repaidShare_nonneg
  · have hkn : (k : Rat) ≤ n := Nat.cast_le.mpr h
    unfold repaidShare
    rw [div_le_div_iff₀ (by positivity) (by positivity)]
    push_cast
    linarith

theorem promptBonus_bounds : 0 ≤ promptBonus avg ∧ promptBonus avg ≤ 10 := by
  unfold promptBonus
  split <;> norm_num

theorem promptBonus_le (h : avg.any (· ≤ 30) → avg'.any (· ≤ 30)) : promptBonus avg ≤ promptBonus avg' := by
  by_cases havg : avg.any (· ≤ 30)
  · rw [promptBonus, promptBonus, if_pos havg, if_pos (h havg)]
  · rw [promptBonus, if_neg havg]
    exact promptBonus_bounds.1

theorem rawScore_nonneg : 0 ≤ rawScore n k avg := by
  have hshare : 0 ≤ repaidShare n k := repaidShare_nonneg
  have hbonus : 0 ≤ promptBonus avg := promptBonus_bounds.1
  unfold rawScore
  split <;> positivity

theorem rawScore_le_fifty (h : k ≤ n) (hfew : n < 3) : rawScore n k avg ≤ 50 := by
  have hshare := repaidShare_le_one h
  rw [rawScore, if_pos hfew]
  linarith

theorem rawScore_le_hundred (h : k ≤ n) : rawScore n k avg ≤ 100 := by
  by_cases hfew : n < 3
  · have hfifty : rawScore n k avg ≤ 50 := rawScore_le_fifty h hfew
    linarith
  · have hshare := repaidShare_le_one h
    have hvolume : ((min n 20 : Nat) : Rat) ≤ 20 := mod_cast min_le_right n 20
    have hbonus : promptBonus avg ≤ 10 := promptBonus_bounds.2
    rw [rawScore, if_neg hfew]
    linarith

/-- The first repaid loan under the second formula: the volume alone makes up for the loans that
are not repaid. -/
theorem rawScore_switch (h : k ≤ 2) : rawScore 2 k avg ≤ rawScore 3 (k + 1) avg' := by
  have hk : (k : Rat) ≤ 2 := mod_cast h
  have hbonus : 0 ≤ promptBonus avg' := promptBonus_bounds.1
  have hvolume : ((min 3 20 : Nat) : Rat) = 3 := by norm_num
  rw [rawScore, if_pos (by decide), rawScore, if_neg (by decide), hvolume]
  unfold repaidShare
  push_cast
  linarith

theorem rawScore_le_succ (h : k ≤ n) (havg : avg.any (· ≤ 30) → avg'.any (· ≤ 30)) :
    rawScore n k avg ≤ rawScore (n + 1) (k + 1) avg' := by
  have hshare := repaidShare_le_succ h
  rcases Nat.lt_trichotomy n 2 with hlt | rfl | hgt
  · rw [rawScore, if_pos (by omega), rawScore, if_pos (by omega)]
    linarith
  · exact rawScore_switch h
  · have hbonus := promptBonus_le havg
    have hvolume : ((min n 20 : Nat) : Rat) ≤ (min (n + 1) 20 : Nat) :=
      Nat.cast_le.mpr (min_le_min_right 20 (Nat.le_succ n))
    rw [rawScore, if_neg (by omega), rawScore, if_neg (by omega)]
    linarith

end Raw

/-! ## The score of some loans -/

/-- The column that `avg(days_to_repay)` averages. -/
def LoanApplication.days (loan : LoanApplication) : Option Rat := loan.daysToRepay.map (↑)

/-- The trust score of the loans of a pair. -/
def scoreOf (pg : Postgres) (loans : List LoanApplication) : Rat :=
  trustScore pg loans.length (loans.countP (·.loanStatus = "REPAID"))
    (avgFinite pg LoanApplication.days loans)

section ScoreOf

variable {pg : Postgres} {loans loans' : List LoanApplication} {loan : LoanApplication}

theorem scoreOf_perm (h : loans.Perm loans') : scoreOf pg loans = scoreOf pg loans' := by
  rw [scoreOf, scoreOf, h.length_eq, h.countP_eq, avgFinite_perm h]

theorem scoreOf_bounds (hdiv : ∀ p q, pg.div p q = p / q) (loans : List LoanApplication) :
    0 ≤ scoreOf pg loans ∧ scoreOf pg loans ≤ 100 ∧ (loans.length < 3 → scoreOf pg loans ≤ 50) := by
  have hcount : loans.countP (·.loanStatus = "REPAID") ≤ loans.length := List.countP_le_length
  rw [scoreOf, trustScore_eq hdiv]
  refine ⟨?_, ?_, fun hfew => ?_⟩
  · exact Sql.round_nonneg rawScore_nonneg 0
  · exact (round_le_round rawScore_nonneg (rawScore_le_hundred hcount) 0).trans_eq (Sql.round_natCast 100)
  · exact (round_le_round rawScore_nonneg (rawScore_le_fifty hcount hfew) 0).trans_eq (Sql.round_natCast 50)

/-- **One more loan that is repaid within 30 days does not lower the score.** -/
theorem scoreOf_le_cons (hdiv : ∀ p q, pg.div p q = p / q) (hrepaid : loan.loanStatus = "REPAID")
    {days : Int} (hdays : loan.daysToRepay = some days) (hprompt : days ≤ 30) :
    scoreOf pg loans ≤ scoreOf pg (loan :: loans) := by
  have hcount : loans.countP (·.loanStatus = "REPAID") ≤ loans.length := List.countP_le_length
  rw [scoreOf, scoreOf, trustScore_eq hdiv, trustScore_eq hdiv, List.length_cons,
    List.countP_cons_of_pos (by simp [hrepaid])]
  refine round_le_round rawScore_nonneg (rawScore_le_succ hcount fun havg => ?_) 0
  have hbefore : ∀ a, avgFinite pg LoanApplication.days loans = some a → a ≤ 30 :=
    fun a ha => by simpa [ha] using havg
  have hcolumn : loan.days = some (days : Rat) := by
    rw [LoanApplication.days, hdays, Option.map_some]
  obtain ⟨a, ha, hle⟩ := avgFinite_cons_le hdiv hcolumn (by exact_mod_cast hprompt) hbefore
  rw [ha]
  exact decide_eq_true hle

end ScoreOf

/-! ## The rows of the mart -/

section Rows

variable {pg : Postgres} {loans : List LoanApplication} {loan : LoanApplication} {row : TrustScoreRow}

/-- A row has the score of the loans of its pair. -/
theorem row_of_mem_trustScores (h : row ∈ trustScores pg loans) :
    row.totalLoans = (loans.filter (·.pair = row.pair)).length ∧
      row.trustScore = scoreOf pg (loans.filter (·.pair = row.pair)) := by
  have hrow := mem_trustScores h
  exact ⟨congrArg TrustScoreRow.totalLoans hrow, congrArg TrustScoreRow.trustScore hrow⟩

theorem exists_row (h : loan ∈ loans) : ∃ row ∈ trustScores pg loans, row.pair = loan.pair := by
  have hpair : loan.pair ∈ (trustScores pg loans).map TrustScoreRow.pair := by
    rw [map_pair_trustScores, mem_map_fst_groupBy]
    exact List.mem_map_of_mem h
  exact List.mem_map.mp hpair

end Rows

/-- **Every trust score lies between 0 and 100,** below three loans between 0 and 50, and a loan
that is repaid within 30 days lowers none. -/
theorem trustScores_bounded_monotone (pg : Postgres) (hdiv : ∀ p q, pg.div p q = p / q)
    (loans : List LoanApplication) :
    (∀ row ∈ trustScores pg loans, 0 ≤ row.trustScore ∧ row.trustScore ≤ 100 ∧
      (row.totalLoans < 3 → row.trustScore ≤ 50)) ∧
    ∀ loan days, loan.loanStatus = "REPAID" → loan.daysToRepay = some days → days ≤ 30 →
      ∀ loans', loans'.Perm (loan :: loans) →
        (∃ row' ∈ trustScores pg loans', row'.pair = loan.pair) ∧
        ∀ row ∈ trustScores pg loans, ∀ row' ∈ trustScores pg loans', row'.pair = row.pair →
          row.trustScore ≤ row'.trustScore := by
  refine ⟨fun row hrow => ?_, fun loan days hrepaid hdays hprompt loans' hperm => ⟨?_, ?_⟩⟩
  · obtain ⟨hlength, hscore⟩ := row_of_mem_trustScores hrow
    rw [hlength, hscore]
    exact scoreOf_bounds hdiv _
  · exact exists_row (hperm.mem_iff.mpr (.head _))
  · intro row hrow row' hrow' hpair
    have hscore := (row_of_mem_trustScores hrow).2
    have hscore' := (row_of_mem_trustScores hrow').2
    rw [hscore, hscore', hpair, scoreOf_perm (hperm.filter _)]
    by_cases hloan : loan.pair = row.pair
    · rw [List.filter_cons_of_pos (by simpa using hloan)]
      exact scoreOf_le_cons hdiv hrepaid hdays hprompt
    · rw [List.filter_cons_of_neg (by simpa using hloan)]

/-! Two loans of a pair, one of them repaid, and a third one that is repaid in time. -/

def loanOfPair (loanStatus : String) (daysToRepay : Option Int) : LoanApplication where
  loanApplicationId := none
  invoiceId := none
  vendorGstin := some "27AAPFU0939F1ZV"
  anchorGstin := some "29AAGCB7383J1Z4"
  amount := none
  originatedAt := some 0
  repaidAt := none
  daysToRepay
  loanStatus

def twoLoans : List LoanApplication := [loanOfPair "REPAID" (some 10), loanOfPair "ACTIVE" none]

example : (trustScores samplePostgres twoLoans).map (·.trustScore) = [25] := by decide +kernel

example : (trustScores samplePostgres (loanOfPair "REPAID" (some 30) :: twoLoans)).map (·.trustScore) =
    [60] := by decide +kernel

theorem trustScores_bounded_monotone_third :
    (∀ row ∈ trustScores samplePostgres twoLoans, 0 ≤ row.trustScore ∧ row.trustScore ≤ 100 ∧
      (row.totalLoans < 3 → row.trustScore ≤ 50)) ∧
    ∀ row ∈ trustScores samplePostgres twoLoans,
      ∀ row' ∈ trustScores samplePostgres (loanOfPair "REPAID" (some 30) :: twoLoans),
        row'.pair = row.pair → row.trustScore ≤ row'.trustScore :=
  have h := trustScores_bounded_monotone samplePostgres (fun _ _ => rfl) twoLoans
  ⟨h.1, (h.2 (loanOfPair "REPAID" (some 30)) 30 rfl rfl (by decide) _ (.refl _)).2⟩

end OcenPlatform.TrustGraph
