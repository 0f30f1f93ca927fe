import OcenPlatform.Json

/-! `ZenDecisionEngine`: rulesets by name, evaluated by the zen library. -/

namespace OcenPlatform.Rules

/-- What `decision.evaluate(context)` returns: a dict, or another object with what
`dict(result)` makes of it. -/
inductive ZenResult where
  | dict (fields : Dict)
  | object (converted : Except String Dict)

/-- `result.get("result", {}) if isinstance(result, dict) else dict(result)`. -/
def ZenResult.output : ZenResult → Except String Json
  | .dict fields => .ok (PyDict.get fields "result" (.obj []))
  | .object converted => do return .obj (← converted)

structure EvaluationResult where
  output : Json
  rulesetHash : String
  engineVersion : String
  rulesetName : String

/-- `engines` holds the JDM text of each loaded ruleset. The zen library is `zen`:
it creates the decision of a JDM text and evaluates it on a context. -/
structure ZenDecisionEngine where
  engines : PyDict String String
  hashes : PyDict String String
  engineVersion : String
  zen : String → Dict → Except String ZenResult

namespace ZenDecisionEngine

variable (engine : ZenDecisionEngine)

def loadedRulesets : List String := engine.engines.map Prod.fst

/-- The `try` block of `evaluate`. -/
def tryEvaluate (rulesetName content : String) (context : Dict) : Except String EvaluationResult := do
  let result ← engine.zen content context
  let output ← result.output
  match PyDict.find? engine.hashes rulesetName with
  | some rulesetHash => return { output, rulesetHash, engineVersion := engine.engineVersion, rulesetName }
  | none => .error "KeyError"

/-- Evaluate a context against a named ruleset: every exception of the evaluation
becomes a `RuntimeError`. -/
def evaluate (rulesetName : String) (context : Dict) : Except String EvaluationResult :=
  match PyDict.find? engine.engines rulesetName with
  | none => .error "KeyError"
  | some content => (engine.tryEvaluate rulesetName content context).mapError fun _ => "RuntimeError"

/-- A result comes from the content of the ruleset, and carries the hash that is stored for it. -/
theorem evaluate_ok {engine : ZenDecisionEngine} {rulesetName : String} {context : Dict}
    {result : EvaluationResult} (h : engine.evaluate rulesetName context = .ok result) :
    ∃ content zenResult rulesetHash, PyDict.find? engine.engines rulesetName = some content ∧
      engine.zen content context = .ok zenResult ∧ zenResult.output = .ok result.output ∧
      PyDict.find? engine.hashes rulesetName = some rulesetHash ∧ result.rulesetHash = rulesetHash := by
  unfold evaluate at h
  cases hcontent : PyDict.find? engine.engines rulesetName with
  | none =>
    rw [hcontent] at h
    cases h
  | some content =>
    rw [hcontent] at h
    cases htry : engine.tryEvaluate rulesetName content context with
    | error e =>
      simp only [htry] at h
      cases h
    | ok tried =>
      simp only [htry] at h
      obtain rfl := Except.ok.inj h
      unfold tryEvaluate at htry
      obtain ⟨zenResult, hzen, htry⟩ := exists_of_bind_ok htry
      obtain ⟨output, houtput, htry⟩ := exists_of_bind_ok htry
      cases hhash : PyDict.find? engine.hashes rulesetName with
      | none =>
        rw [hhash] at htry
        cases htry
      | some rulesetHash =>
        rw [hhash] at htry
        obtain rfl := Except.ok.inj htry
        exact ⟨content, zenResult, rulesetHash, rfl, hzen, houtput, rfl, rfl⟩

end ZenDecisionEngine

end OcenPlatform.Rules
