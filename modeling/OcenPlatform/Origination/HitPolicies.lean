import OcenPlatform.Origination.Activities
import OcenPlatform.Rules.Rulesets

/-! `evaluate_decision` on the rulesets of the platform: a table that collects yields a list,
which the activity takes for a dict. -/

namespace OcenPlatform.Origination

open Durable
open Durable.Proc (NeverRaises not_neverRaises_raise)
open Rules

/-- The activity returns, and D3 returns the lenders of the matching rows. -/
structure ReturnsResult (process : WorkerProcess) (input : EvaluateDecisionInput) (table : DecisionTable)
    (context : Dict) : Prop where
  returns : (Activities.evaluateDecision process input).NeverRaises
  lenders : input.rulesetName = "d3-lender-prescreen" →
    ∀ r, (Activities.evaluateDecision process input).Returns r →
      r.get "matched_lender_ids" (.arr []) = .ok (.arr (table.collected context "matched_lender_id"))

section Evaluation

variable {process : WorkerProcess} {input : EvaluateDecisionInput} {context : Dict}
  {result : EvaluationResult}

variable (hcontext : input.context = some context) (hne : context ≠ [])
  (hloaded : input.rulesetName ∈ process.zen.loadedRulesets)
  (hresult : process.zen.evaluate input.rulesetName context = .ok result)
include hcontext hne hloaded hresult

/-- The activity is past the evaluation. -/
theorem evaluateDecision_eq : Activities.evaluateDecision process input = (do
    let contextBytes ← Proc.ofExcept (process.dumps context)
    let inputHash := ((process.sha256 contextBytes).take 16).toString
    let outcome ← Proc.ofExcept (result.output.get "outcome" (.str "pass"))
    Proc.tryAsk (Call.publish
      { loanApplicationId := input.loanApplicationId
        gate := input.gate
        outcome
        rulesetHash := result.rulesetHash
        inputHash
        receiptId := ⟨BitVec.ofInt 128 (process.hash (Activities.receiptId input))⟩ })
    let reason ← Proc.ofExcept (result.output.get "reason" (.str "evaluated"))
    let matchedLenderIds ← Proc.ofExcept (result.output.get "matched_lender_ids" (.arr []))
    return .obj [("outcome", outcome), ("reason", reason),
      ("ruleset_hash", .str result.rulesetHash), ("input_hash", .str inputHash),
      ("receipt_id", .str (Activities.receiptId input)), ("matched_lender_ids", matchedLenderIds)]) := by
  have hif : (!context.isEmpty && input.rulesetName ∈ process.zen.loadedRulesets) = true := by
    simp [hne, hloaded]
  unfold Activities.evaluateDecision
  simp only [hcontext, Option.getD_some, if_pos hif, hresult]
  rfl

/-- An output that is a dict makes a result, once the context is serialised. -/
theorem neverRaises_of_obj {fields : Dict} (houtput : result.output = .obj fields) {bytes : String}
    (hdumps : process.dumps context = .ok bytes) :
    (Activities.evaluateDecision process input).NeverRaises := by
  rw [evaluateDecision_eq hcontext hne hloaded hresult, houtput, hdumps]
  exact .call fun _ => .done

theorem exists_dumps_of_neverRaises (h : (Activities.evaluateDecision process input).NeverRaises) :
    ∃ bytes, process.dumps context = .ok bytes := by
  rw [evaluateDecision_eq hcontext hne hloaded hresult] at h
  cases hdumps : process.dumps context with
  | error e =>
    rw [hdumps] at h
    exact absurd h not_neverRaises_raise
  | ok bytes => exact ⟨bytes, rfl⟩

/-- An output that is a list has no `get`. -/
theorem not_neverRaises_of_arr {items : List Json} (houtput : result.output = .arr items) :
    ¬ (Activities.evaluateDecision process input).NeverRaises := by
  intro h
  obtain ⟨bytes, hdumps⟩ := exists_dumps_of_neverRaises hcontext hne hloaded hresult h
  rw [evaluateDecision_eq hcontext hne hloaded hresult, houtput, hdumps] at h
  exact absurd h not_neverRaises_raise

end Evaluation

/-- **The activity returns a result for a ruleset of the platform exactly if** the table has the
hit policy `first` and the context can be serialised. -/
theorem returnsResult_iff_first (process : WorkerProcess) (input : EvaluateDecisionInput)
    (table : DecisionTable) (hruleset : (input.rulesetName, table) ∈ rulesets)
    (hloaded : Loaded process.zen input.rulesetName table) (context : Dict)
    (hcontext : input.context = some context) (hne : context ≠ [])
    (hevaluated : ∃ result, process.zen.evaluate input.rulesetName context = .ok result) :
    ReturnsResult process input table context ↔
      table.hitPolicy = .first ∧ ∃ bytes, process.dumps context = .ok bytes := by
  obtain ⟨result, hresult⟩ := hevaluated
  have hname := hloaded.mem_loadedRulesets
  have hyields := hloaded.yields hresult
  unfold DecisionTable.Yields at hyields
  constructor
  · rintro ⟨hreturns, -⟩
    refine ⟨?_, exists_dumps_of_neverRaises hcontext hne hname hresult hreturns⟩
    cases hpolicy : table.hitPolicy with
    | first => rfl
    | collect =>
      rw [hpolicy] at hyields
      exact absurd hreturns (not_neverRaises_of_arr hcontext hne hname hresult hyields)
  · rintro ⟨hfirst, bytes, hdumps⟩
    rw [hfirst] at hyields
    obtain ⟨fields, houtput, -⟩ := hyields
    refine ⟨neverRaises_of_obj hcontext hne hname hresult houtput hdumps, fun hd3 => ?_⟩
    -- D3 collects.
    rw [hd3] at hruleset
    obtain rfl : table = Rules.d3LenderPrescreen := by simpa [rulesets] using hruleset
    cases hfirst

/-! D0 and D3 with a context, on workers that have loaded their rulesets. -/

def workerWith (rulesetName : String) (table : DecisionTable) : WorkerProcess :=
  { sampleWorker with zen := tableEngine rulesetName table }

def gateWith (gate rulesetName : String) (context : Dict) : EvaluateDecisionInput where
  loanApplicationId := "LA-1"
  gate
  rulesetName
  context := some context

def invalidInvoice : Dict := [("irn_valid", .bool false)]

theorem returnsResult_d0 : ReturnsResult (workerWith "d0-kind1-gate" Rules.d0Kind1Gate)
    (gateWith "d0_kind1_gate" "d0-kind1-gate" invalidInvoice) Rules.d0Kind1Gate invalidInvoice :=
  (returnsResult_iff_first _ _ _ (.head _) (loaded_tableEngine _ _) _ rfl (List.cons_ne_nil _ _)
    ⟨_, evaluate_tableEngine _ _ _⟩).mpr ⟨rfl, "context", rfl⟩

def soundVendor : Dict :=
  [("risk_flag_count", .num 0), ("requested_amount", .num 300000), ("months_of_data", .num 24),
    ("trust_score", .num 80)]

/-- All three lenders match, and the activity raises. -/
theorem soundVendor_raises :
    (workerWith "d3-lender-prescreen" Rules.d3LenderPrescreen).zen.evaluate "d3-lender-prescreen"
      soundVendor = .ok
        { output := Rules.d3LenderPrescreen.evaluate soundVendor, rulesetHash := "cafe"
          engineVersion := "zen-engine-python", rulesetName := "d3-lender-prescreen" } ∧
    Rules.d3LenderPrescreen.collected soundVendor "matched_lender_id" =
      [.str "lender-conservative-01", .str "lender-standard-01", .str "lender-growth-01"] ∧
    ¬ ReturnsResult (workerWith "d3-lender-prescreen" Rules.d3LenderPrescreen)
      (gateWith "d3_lender_prescreen" "d3-lender-prescreen" soundVendor) Rules.d3LenderPrescreen
      soundVendor := by
  refine ⟨evaluate_tableEngine _ _ _, ?_, fun h => ?_⟩
  · rfl
  · exact not_neverRaises_of_arr rfl (List.cons_ne_nil _ _)
      (loaded_tableEngine _ _).mem_loadedRulesets (evaluate_tableEngine _ _ _) rfl h.returns

end OcenPlatform.Origination
