import OcenPlatform.Rules.DecisionTable
import OcenPlatform.Rules.Engine

/-! The rulesets of the platform. -/

namespace OcenPlatform.Rules

/-! ## Tables -/

def d0Kind1Gate : DecisionTable where
  hitPolicy := .first
  inputs := ["irn_valid", "ims_status", "repayment_routing_active", "gstin_valid"]
  outputs := ["outcome", "reason"]
  rules :=
    [{ tests := [.isBool true, .isStr "accepted", .isBool true, .isBool true]
       values := [.str "pass", .str "kind1_all_conditions_met"] },
     { tests := [.isBool true, .isStr "deemed_accepted", .isBool true, .isBool true]
       values := [.str "flag", .str "deemed_accepted_weaker_signal"] },
     { tests := [.any, .any, .any, .any]
       values := [.str "fail", .str "kind1_conditions_not_met"] }]

def d1DataSufficiency : DecisionTable where
  hitPolicy := .first
  inputs := ["months_available", "data_freshness_days", "gst_returns_filed"]
  outputs := ["outcome", "reason"]
  rules :=
    [{ tests := [.ge 6, .le 30, .isBool true]
       values := [.str "pass", .str "data_sufficient"] },
     { tests := [.inInterval 3 6, .le 60, .isBool true]
       values := [.str "flag", .str "marginal_data_coverage"] },
     { tests := [.any, .gt 60, .any]
       values := [.str "fail", .str "data_too_stale"] },
     { tests := [.lt 3, .any, .any]
       values := [.str "fail", .str "insufficient_months"] },
     { tests := [.any, .any, .isBool false]
       values := [.str "fail", .str "gst_not_filed"] }]

def d2DerivedFlags : DecisionTable where
  hitPolicy := .collect
  inputs := ["revenue_concentration", "days_sales_outstanding", "dilution_rate", "anchor_avg_dpd"]
  outputs := ["flag", "severity"]
  rules :=
    [{ tests := [.gt 0.8, .any, .any, .any]
       values := [.str "high_concentration", .str "high"] },
     { tests := [.any, .gt 90, .any, .any]
       values := [.str "elevated_dso", .str "medium"] },
     { tests := [.any, .any, .gt 0.15, .any]
       values := [.str "high_dilution", .str "high"] },
     { tests := [.any, .any, .any, .gt 30]
       values := [.str "anchor_payment_delays", .str "medium"] },
     { tests := [.le 0.8, .le 90, .le 0.15, .le 30]
       values := [.str "none", .str "none"] }]

def d3LenderPrescreen : DecisionTable where
  hitPolicy := .collect
  inputs := ["risk_flag_count", "requested_amount", "months_of_data", "trust_score"]
  outputs := ["matched_lender_id", "priority"]
  rules :=
    [{ tests := [.isNum 0, .le 500000, .ge 12, .ge 70]
       values := [.str "lender-conservative-01", .num 1] },
     { tests := [.le 1, .le 2000000, .ge 6, .ge 50]
       values := [.str "lender-standard-01", .num 2] },
     { tests := [.le 2, .le 5000000, .ge 3, .ge 30]
       values := [.str "lender-growth-01", .num 3] }]

/-- The tables of `rules/`, by the stem of the file. -/
def rulesets : PyDict String DecisionTable :=
  [("d0-kind1-gate", d0Kind1Gate), ("d1-data-sufficiency", d1DataSufficiency),
    ("d2-derived-flags", d2DerivedFlags), ("d3-lender-prescreen", d3LenderPrescreen)]

/-! ## Engines -/

/-- The zen library reads the table in this JDM text: what it evaluates without an error is a
dict with the result of the table. -/
def Implements (zen : String → Dict → Except String ZenResult) (content : String)
    (table : DecisionTable) : Prop :=
  ∀ context result, zen content context = .ok result → ∃ fields output, result = .dict fields ∧
    PyDict.find? fields "result" = some output ∧ table.Yields context output

/-- The engine has loaded the table under the name. -/
def Loaded (engine : ZenDecisionEngine) (rulesetName : String) (table : DecisionTable) : Prop :=
  ∃ content, PyDict.find? engine.engines rulesetName = some content ∧
    Implements engine.zen content table

section Engines

variable {engine : ZenDecisionEngine} {rulesetName : String} {table : DecisionTable}

/-- What the wrapper returns is what the table yields, whatever the declared type says. -/
theorem Loaded.yields (h : Loaded engine rulesetName table) {context : Dict} {result : EvaluationResult}
    (hresult : engine.evaluate rulesetName context = .ok result) :
    table.Yields context result.output := by
  obtain ⟨content, hcontent, himplements⟩ := h
  obtain ⟨content', zenResult, -, hcontent', hzen, houtput, -⟩ := ZenDecisionEngine.evaluate_ok hresult
  obtain rfl := Option.some.inj (hcontent.symm.trans hcontent')
  obtain ⟨fields, output, rfl, hfield, hyields⟩ := himplements context zenResult hzen
  have hsame : output = result.output := by
    simpa [ZenResult.output, PyDict.get, hfield] using houtput
  exact hsame ▸ hyields

theorem Loaded.mem_loadedRulesets (h : Loaded engine rulesetName table) :
    rulesetName ∈ engine.loadedRulesets := by
  obtain ⟨content, hcontent, -⟩ := h
  exact PyDict.find?_ne_none_iff.mp (by simp [hcontent])

end Engines

/-- An engine with one ruleset. -/
def tableEngine (rulesetName : String) (table : DecisionTable) : ZenDecisionEngine where
  engines := [(rulesetName, "jdm")]
  hashes := [(rulesetName, "cafe")]
  engineVersion := "zen-engine-python"
  zen _ context := .ok (.dict [("result", table.evaluate context)])

theorem loaded_tableEngine (rulesetName : String) (table : DecisionTable) :
    Loaded (tableEngine rulesetName table) rulesetName table := by
  refine ⟨"jdm", by simp [tableEngine], fun context result hresult => ?_⟩
  obtain rfl := Except.ok.inj hresult
  exact ⟨_, _, rfl, by simp, table.yields_evaluate context⟩

theorem evaluate_tableEngine (rulesetName : String) (table : DecisionTable) (context : Dict) :
    (tableEngine rulesetName table).evaluate rulesetName context = .ok
      { output := table.evaluate context, rulesetHash := "cafe", engineVersion := "zen-engine-python"
        rulesetName } := by
  unfold ZenDecisionEngine.evaluate ZenDecisionEngine.tryEvaluate
  simp only [tableEngine, PyDict.find?_cons, if_true]
  rfl

end OcenPlatform.Rules
