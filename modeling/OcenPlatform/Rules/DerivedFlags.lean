import Mathlib.Algebra.Order.Ring.Rat
import Mathlib.Data.List.Nodup
import Mathlib.Tactic.SplitIfs
import OcenPlatform.Rules.Rulesets

/-! The flags that D2 collects. -/

namespace OcenPlatform.Rules

/-- The risk flags of D2. -/
inductive DerivedFlag where
  | highConcentration
  | elevatedDso
  | highDilution
  | anchorPaymentDelays
  deriving DecidableEq, Repr

structure DerivedMetrics where
  revenueConcentration : Rat
  daysSalesOutstanding : Rat
  dilutionRate : Rat
  anchorAvgDpd : Rat

namespace DerivedFlag

def all : List DerivedFlag := [.highConcentration, .elevatedDso, .highDilution, .anchorPaymentDelays]

def code : DerivedFlag → String
  | .highConcentration => "high_concentration"
  | .elevatedDso => "elevated_dso"
  | .highDilution => "high_dilution"
  | .anchorPaymentDelays => "anchor_payment_delays"

/-- The flag is for more than this. -/
def threshold : DerivedFlag → Rat
  | .highConcentration => 0.8
  | .elevatedDso => 90
  | .highDilution => 0.15
  | .anchorPaymentDelays => 30

def metric (metrics : DerivedMetrics) : DerivedFlag → Rat
  | .highConcentration => metrics.revenueConcentration
  | .elevatedDso => metrics.daysSalesOutstanding
  | .highDilution => metrics.dilutionRate
  | .anchorPaymentDelays => metrics.anchorAvgDpd

theorem mem_all (flag : DerivedFlag) : flag ∈ all := by cases flag <;> decide

theorem code_injective : Function.Injective code := by
  intro flag flag' h
  cases flag <;> cases flag' <;> first | rfl | exact absurd h (by decide)

theorem code_ne_none (flag : DerivedFlag) : flag.code ≠ "none" := by cases flag <;> decide

end DerivedFlag

/-- The flags whose thresholds the metrics exceed. -/
def DerivedMetrics.exceeded (metrics : DerivedMetrics) : List DerivedFlag :=
  DerivedFlag.all.filter fun flag => flag.threshold < flag.metric metrics

/-- The context has the metrics that D2 tests. -/
structure DerivedFacts (context : Dict) (metrics : DerivedMetrics) : Prop where
  revenueConcentration :
    PyDict.get context "revenue_concentration" .null = .num metrics.revenueConcentration
  daysSalesOutstanding :
    PyDict.get context "days_sales_outstanding" .null = .num metrics.daysSalesOutstanding
  dilutionRate : PyDict.get context "dilution_rate" .null = .num metrics.dilutionRate
  anchorAvgDpd : PyDict.get context "anchor_avg_dpd" .null = .num metrics.anchorAvgDpd

/-- Either the clean row alone, or risk flags without it, each exactly if its threshold is
exceeded. -/
structure ProperFlags (metrics : DerivedMetrics) (flags : List Json) : Prop where
  nonempty : flags ≠ []
  clean_or_risky : flags = [.str "none"] ∨
    .str "none" ∉ flags ∧ flags.Nodup ∧ ∀ v ∈ flags, ∃ flag : DerivedFlag, v = .str flag.code
  present_iff : ∀ flag : DerivedFlag,
    .str flag.code ∈ flags ↔ flag.threshold < flag.metric metrics

section Collected

variable {context : Dict} {metrics : DerivedMetrics}

theorem mem_exceeded {flag : DerivedFlag} :
    flag ∈ metrics.exceeded ↔ flag.threshold < flag.metric metrics := by
  simp [DerivedMetrics.exceeded, DerivedFlag.mem_all]

theorem matchesRule_d2 (h : DerivedFacts context metrics)
    (concentration dso dilution dpd : Test) (values : List Json) :
    d2DerivedFlags.matchesRule context { tests := [concentration, dso, dilution, dpd], values } =
      (concentration.passes (.num metrics.revenueConcentration) &&
        (dso.passes (.num metrics.daysSalesOutstanding) &&
          (dilution.passes (.num metrics.dilutionRate) && dpd.passes (.num metrics.anchorAvgDpd)))) := by
  simp [DecisionTable.matchesRule, d2DerivedFlags, h.revenueConcentration, h.daysSalesOutstanding,
    h.dilutionRate, h.anchorAvgDpd]

/-- The clean row is the complement of the others. -/
theorem collected_d2 (h : DerivedFacts context metrics) :
    d2DerivedFlags.collected context "flag" =
      if metrics.exceeded = [] then [.str "none"]
      else metrics.exceeded.map fun flag => .str flag.code := by
  have hrules : d2DerivedFlags.rules =
      [⟨[.gt 0.8, .any, .any, .any], [.str "high_concentration", .str "high"]⟩,
        ⟨[.any, .gt 90, .any, .any], [.str "elevated_dso", .str "medium"]⟩,
        ⟨[.any, .any, .gt 0.15, .any], [.str "high_dilution", .str "high"]⟩,
        ⟨[.any, .any, .any, .gt 30], [.str "anchor_payment_delays", .str "medium"]⟩,
        ⟨[.le 0.8, .le 90, .le 0.15, .le 30], [.str "none", .str "none"]⟩] := rfl
  unfold DecisionTable.collected DecisionTable.matching DerivedMetrics.exceeded
  rw [hrules]
  simp only [List.filter_cons, List.filter_nil, matchesRule_d2 h, passes_any, passes_gt_num,
    passes_le_num, DerivedFlag.all, DerivedFlag.threshold, DerivedFlag.metric, Bool.true_and,
    Bool.and_true, ← not_lt, decide_not]
  by_cases hconcentration : 0.8 < metrics.revenueConcentration <;>
    by_cases hdso : 90 < metrics.daysSalesOutstanding <;>
    by_cases hdilution : 0.15 < metrics.dilutionRate <;>
    by_cases hdpd : 30 < metrics.anchorAvgDpd <;>
    (simp only [hconcentration, hdso, hdilution, hdpd, decide_true, decide_false]
     rfl)

theorem nodup_exceeded : (metrics.exceeded.map fun flag => Json.str flag.code).Nodup := by
  refine List.Nodup.map (fun flag flag' h => DerivedFlag.code_injective (Json.str.inj h)) ?_
  exact List.Nodup.filter _ (by decide)

theorem mem_codes_exceeded {flag : DerivedFlag} :
    .str flag.code ∈ (metrics.exceeded.map fun flag => Json.str flag.code) ↔
      flag.threshold < flag.metric metrics := by
  rw [← mem_exceeded, List.mem_map]
  constructor
  · rintro ⟨flag', hmem, hcode⟩
    exact DerivedFlag.code_injective (Json.str.inj hcode) ▸ hmem
  · exact fun hmem => ⟨flag, hmem, rfl⟩

theorem none_notMem_codes {flags : List DerivedFlag} :
    .str "none" ∉ flags.map fun flag => Json.str flag.code := by
  rw [List.mem_map]
  rintro ⟨flag, -, hcode⟩
  exact flag.code_ne_none (Json.str.inj hcode)

end Collected

/-- **D2 collects the clean row alone, or exactly the risk flags** whose thresholds are
exceeded. -/
theorem properFlags_d2 (context : Dict) (metrics : DerivedMetrics) (h : DerivedFacts context metrics) :
    ProperFlags metrics (d2DerivedFlags.collected context "flag") := by
  rw [collected_d2 h]
  split_ifs with hclean
  · refine ⟨List.cons_ne_nil _ _, .inl rfl, fun flag => iff_of_false ?_ ?_⟩
    · rw [List.mem_singleton]
      exact fun hcode => flag.code_ne_none (Json.str.inj hcode)
    · rw [← mem_exceeded, hclean]
      exact List.not_mem_nil
  · refine ⟨by simpa using hclean, .inr ⟨none_notMem_codes, nodup_exceeded, fun v hv => ?_⟩,
      fun flag => mem_codes_exceeded⟩
    obtain ⟨flag, -, rfl⟩ := List.mem_map.mp hv
    exact ⟨flag, rfl⟩

/-- A vendor at all thresholds but one, which it exceeds. -/
def borderlineContext : Dict :=
  [("revenue_concentration", .num 0.8), ("days_sales_outstanding", .num 91),
    ("dilution_rate", .num 0.15), ("anchor_avg_dpd", .num 30)]

theorem properFlags_borderline : ProperFlags
    { revenueConcentration := 0.8, daysSalesOutstanding := 91, dilutionRate := 0.15, anchorAvgDpd := 30 }
    (d2DerivedFlags.collected borderlineContext "flag") :=
  properFlags_d2 borderlineContext _ ⟨rfl, rfl, rfl, rfl⟩

end OcenPlatform.Rules
