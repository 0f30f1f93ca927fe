import Mathlib.Algebra.Order.Field.Rat
import Mathlib.Tactic.Linarith
import OcenPlatform.Rules.Rulesets

/-! The D2 gate twice: `DDPEngineService` raises its risk flags by thresholds of its own, and the
ruleset collects flags by others. -/

namespace OcenPlatform.Ddp

open Rules

/-! ## `DDPEngineService` -/

/-- A decimal and its text. -/
structure Decimal where
  value : Rat
  str : String

structure DerivedAttributes where
  dsoDays : Int
  dpoDays : Int
  cccDays : Int
  revenueConcentration : Decimal
  dilutionRate : Decimal
  anchorPaymentHistoryScore : Decimal
  gstComplianceScore : Decimal
  vintageMonths : Int

structure RiskFlag where
  flagCode : String
  severity : String
  description : String
  threshold : String
  actualValue : String

/-- `if condition: flags.append(flag)`. -/
def flagIf (condition : Prop) [Decidable condition] (flag : RiskFlag) : List RiskFlag :=
  if condition then [flag] else []

def highConcentration (attributes : DerivedAttributes) : List RiskFlag :=
  flagIf (attributes.revenueConcentration.value > 50)
    { flagCode := "HIGH_CONCENTRATION"
      severity := "high"
      description := "Revenue concentration from single anchor exceeds 50%"
      threshold := "50%"
      actualValue := attributes.revenueConcentration.str ++ "%" }

def highDso (attributes : DerivedAttributes) : List RiskFlag :=
  flagIf (attributes.dsoDays > 60)
    { flagCode := "HIGH_DSO"
      severity := "medium"
      description := "Days Sales Outstanding exceeds 60 days"
      threshold := "60"
      actualValue := toString attributes.dsoDays }

def highDilution (attributes : DerivedAttributes) : List RiskFlag :=
  flagIf (attributes.dilutionRate.value > 5)
    { flagCode := "HIGH_DILUTION"
      severity := "medium"
      description := "Invoice dilution rate exceeds 5%"
      threshold := "5%"
      actualValue := attributes.dilutionRate.str ++ "%" }

def lowGstCompliance (attributes : DerivedAttributes) : List RiskFlag :=
  flagIf (attributes.gstComplianceScore.value < 70)
    { flagCode := "LOW_GST_COMPLIANCE"
      severity := "high"
      description := "GST compliance score below 70"
      threshold := "70"
      actualValue := attributes.gstComplianceScore.str }

def lowVintage (attributes : DerivedAttributes) : List RiskFlag :=
  flagIf (attributes.vintageMonths < 6)
    { flagCode := "LOW_VINTAGE"
      severity := "medium"
      description := "Relationship vintage below 6 months"
      threshold := "6"
      actualValue := toString attributes.vintageMonths }

/-- `_evaluate_risk_flags`. -/
def evaluateRiskFlags (attributes : DerivedAttributes) : List RiskFlag :=
  highConcentration attributes ++ highDso attributes ++ highDilution attributes ++
    lowGstCompliance attributes ++ lowVintage attributes

/-- The flag is among the raised ones. -/
def Raises (attributes : DerivedAttributes) (flagCode : String) : Prop :=
  flagCode ∈ (evaluateRiskFlags attributes).map (·.flagCode)

/-! ## The ruleset -/

/-- The attributes as a context of the ruleset, which has fractions for percents. -/
def derivedContext (attributes : DerivedAttributes) (anchorAvgDpd : Json) : Dict :=
  [("revenue_concentration", .num (attributes.revenueConcentration.value / 100)),
    ("days_sales_outstanding", .num attributes.dsoDays),
    ("dilution_rate", .num (attributes.dilutionRate.value / 100)),
    ("anchor_avg_dpd", anchorAvgDpd)]

/-- The table collects the flag. -/
def Collects (attributes : DerivedAttributes) (anchorAvgDpd : Json) (flag : String) : Prop :=
  .str flag ∈ d2DerivedFlags.collected (derivedContext attributes anchorAvgDpd) "flag"

/-- The two agree on the metrics that they share. -/
structure Agree (attributes : DerivedAttributes) (anchorAvgDpd : Json) : Prop where
  concentration : Raises attributes "HIGH_CONCENTRATION" ↔
    Collects attributes anchorAvgDpd "high_concentration"
  dso : Raises attributes "HIGH_DSO" ↔ Collects attributes anchorAvgDpd "elevated_dso"
  dilution : Raises attributes "HIGH_DILUTION" ↔ Collects attributes anchorAvgDpd "high_dilution"

/-! ## Thresholds -/

section Thresholds

variable {attributes : DerivedAttributes} {anchorAvgDpd : Json}

theorem mem_flagCodes_flagIf {condition : Prop} [Decidable condition] {flag : RiskFlag} {code : String} :
    code ∈ (flagIf condition flag).map (·.flagCode) ↔ condition ∧ code = flag.flagCode := by
  unfold flagIf
  split
  · rename_i h
    simp [h]
  · rename_i h
    simp [h]

theorem raises_iff {code : String} : Raises attributes code ↔
    attributes.revenueConcentration.value > 50 ∧ code = "HIGH_CONCENTRATION" ∨
    attributes.dsoDays > 60 ∧ code = "HIGH_DSO" ∨
    attributes.dilutionRate.value > 5 ∧ code = "HIGH_DILUTION" ∨
    attributes.gstComplianceScore.value < 70 ∧ code = "LOW_GST_COMPLIANCE" ∨
    attributes.vintageMonths < 6 ∧ code = "LOW_VINTAGE" := by
  simp only [Raises, evaluateRiskFlags, List.map_append, List.mem_append, highConcentration, highDso,
    highDilution, lowGstCompliance, lowVintage, mem_flagCodes_flagIf, or_assoc]

/-- The thresholds of the ruleset, in percent. -/
theorem percent_lt {q x : Rat} : q < x / 100 ↔ q * 100 < x := lt_div_iff₀ (by norm_num)

theorem percent_le {q x : Rat} : x / 100 ≤ q ↔ x ≤ q * 100 := div_le_iff₀ (by norm_num)

theorem collects_iff {flag : String} : Collects attributes anchorAvgDpd flag ↔
    attributes.revenueConcentration.value > 80 ∧ flag = "high_concentration" ∨
    attributes.dsoDays > 90 ∧ flag = "elevated_dso" ∨
    attributes.dilutionRate.value > 15 ∧ flag = "high_dilution" ∨
    (Test.gt 30).passes anchorAvgDpd ∧ flag = "anchor_payment_delays" ∨
    (attributes.revenueConcentration.value ≤ 80 ∧ attributes.dsoDays ≤ 90 ∧
      attributes.dilutionRate.value ≤ 15 ∧ (Test.le 30).passes anchorAvgDpd) ∧ flag = "none" := by
  have hconcentration : (0.8 : Rat) * 100 = 80 := by norm_num
  have hdilution : (0.15 : Rat) * 100 = 15 := by norm_num
  have hdso : (90 : Rat) < attributes.dsoDays ↔ attributes.dsoDays > 90 := by exact_mod_cast Iff.rfl
  have hdso' : (attributes.dsoDays : Rat) ≤ 90 ↔ attributes.dsoDays ≤ 90 := by exact_mod_cast Iff.rfl
  rw [Collects, DecisionTable.mem_collected]
  simp only [d2DerivedFlags, List.mem_cons, List.not_mem_nil, or_false, exists_eq_or_imp,
    exists_eq_left, DecisionTable.matchesRule, DecisionTable.output, derivedContext]
  simp [PyDict.get, percent_lt, percent_le, hconcentration, hdilution, hdso, hdso', eq_comm (a := flag)]

/-! ## Agreement -/

/-- No metric lies between the two thresholds for it. -/
structure OutsideBands (attributes : DerivedAttributes) : Prop where
  concentration : attributes.revenueConcentration.value ≤ 50 ∨ 80 < attributes.revenueConcentration.value
  dso : attributes.dsoDays ≤ 60 ∨ 90 < attributes.dsoDays
  dilution : attributes.dilutionRate.value ≤ 5 ∨ 15 < attributes.dilutionRate.value

/-- A lower threshold and a higher one agree outside the band between them. -/
theorem exceeds_iff {α : Type} [LinearOrder α] {x low high : α} (h : low ≤ high) :
    (x > low ↔ x > high) ↔ x ≤ low ∨ high < x := by
  constructor
  · intro hiff
    by_cases hlow : x > low
    · exact .inr (hiff.mp hlow)
    · exact .inl (not_lt.mp hlow)
  · rintro (hle | hlt)
    · exact iff_of_false (not_lt.mpr hle) (not_lt.mpr (hle.trans h))
    · exact iff_of_true (h.trans_lt hlt) hlt

variable (attributes) in
theorem raises_shared : (Raises attributes "HIGH_CONCENTRATION" ↔
      attributes.revenueConcentration.value > 50) ∧
    (Raises attributes "HIGH_DSO" ↔ attributes.dsoDays > 60) ∧
    (Raises attributes "HIGH_DILUTION" ↔ attributes.dilutionRate.value > 5) := by
  simp [raises_iff]

variable (attributes anchorAvgDpd) in
theorem collects_shared : (Collects attributes anchorAvgDpd "high_concentration" ↔
      attributes.revenueConcentration.value > 80) ∧
    (Collects attributes anchorAvgDpd "elevated_dso" ↔ attributes.dsoDays > 90) ∧
    (Collects attributes anchorAvgDpd "high_dilution" ↔ attributes.dilutionRate.value > 15) := by
  simp [collects_iff]

end Thresholds

/-- **The two D2 gates agree exactly outside the bands** between their thresholds. -/
theorem agree_iff (attributes : DerivedAttributes) (anchorAvgDpd : Json) :
    Agree attributes anchorAvgDpd ↔ OutsideBands attributes := by
  obtain ⟨hraises, hraisesDso, hraisesDilution⟩ := raises_shared attributes
  obtain ⟨hcollects, hcollectsDso, hcollectsDilution⟩ :=
    collects_shared attributes anchorAvgDpd
  have hconcentration := exceeds_iff (x := attributes.revenueConcentration.value)
    (show (50 : Rat) ≤ 80 by norm_num)
  have hdso := exceeds_iff (x := attributes.dsoDays) (show (60 : Int) ≤ 90 by norm_num)
  have hdilution := exceeds_iff (x := attributes.dilutionRate.value) (show (5 : Rat) ≤ 15 by norm_num)
  rw [← hraises, ← hcollects] at hconcentration
  rw [← hraisesDso, ← hcollectsDso] at hdso
  rw [← hraisesDilution, ← hcollectsDilution] at hdilution
  constructor
  · rintro ⟨h, hd, hl⟩
    exact ⟨hconcentration.mp h, hdso.mp hd, hdilution.mp hl⟩
  · rintro ⟨h, hd, hl⟩
    exact ⟨hconcentration.mpr h, hdso.mpr hd, hdilution.mpr hl⟩

/-! A vendor with a revenue concentration of 60%. -/

def concentrated : DerivedAttributes where
  dsoDays := 45
  dpoDays := 30
  cccDays := 15
  revenueConcentration := { value := 60, str := "60" }
  dilutionRate := { value := 2, str := "2" }
  anchorPaymentHistoryScore := { value := 85, str := "85.0" }
  gstComplianceScore := { value := 92, str := "92.0" }
  vintageMonths := 12

/-- The service raises a flag that the ruleset does not collect. -/
theorem concentrated_disagree : ¬ Agree concentrated (.num 0) := by
  intro h
  have hcollected := (collects_shared _ _).1.mp (h.concentration.mp ((raises_shared _).1.mpr (by decide +kernel)))
  exact absurd hcollected (by decide +kernel)

end OcenPlatform.Ddp
