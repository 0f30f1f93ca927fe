import Mathlib.Data.List.Induction
import OcenPlatform.Rules.Provenance

/-! Hot reload: a reload that raises leaves the files that come before the bad one, and nothing
else. -/

namespace OcenPlatform.Rules.ZenDecisionEngine

open Loop

/-! ## The contract -/

/-- Nobody can tell the two states apart. -/
structure SameView (engine engine' : ZenDecisionEngine) : Prop where
  loadedRulesets : engine.loadedRulesets = engine'.loadedRulesets
  hashes : ∀ rulesetName, engine.getRulesetHash rulesetName = engine'.getRulesetHash rulesetName
  evaluate : ∀ rulesetName context,
    engine.evaluate rulesetName context = engine'.evaluate rulesetName context

/-- A reload that raises changes nothing. -/
def Atomic (engine : ZenDecisionEngine) (zen : Option ZenLibrary) (dir : RulesDir) : Prop :=
  ∀ e, (engine.reload zen dir).1 = .error e → SameView engine (engine.reload zen dir).2

/-- The output for a text, if it can be evaluated. -/
def decision (zen : String → Dict → Except String ZenResult) (content : String) (context : Dict) :
    Option Json :=
  (zen content context >>= ZenResult.output).toOption

/-- The hashes of the files that can be read, by name. -/
def hashesOf (files : List RulesetFile) : PyDict String String :=
  PyDict.update [] (files.filterMap fun file =>
    file.text.toOption.map fun content => (file.stem, contentHash content))

/-- The engine already holds the rulesets of the files before the bad one: their names, their
decisions, and the hashes of these files and of the bad one. -/
structure Holds (engine : ZenDecisionEngine) (lib : ZenLibrary) (before : List RulesetFile)
    (bad : RulesetFile) : Prop where
  names : engine.loadedRulesets = (rulesetsOf before).map Prod.fst
  hashes : ∀ rulesetName, PyDict.find? engine.hashes rulesetName =
    PyDict.find? (hashesOf (before ++ [bad])) rulesetName
  decisions : ∀ rulesetName content content',
    PyDict.find? engine.engines rulesetName = some content →
    PyDict.find? (rulesetsOf before) rulesetName = some content' →
    ∀ context, decision engine.zen content context = decision lib.evaluate content' context

/-! ## Views -/

section Views

variable {engine engine' : ZenDecisionEngine} {rulesetName content rulesetHash : String}

theorem getRulesetHash_eq_iff : engine.getRulesetHash rulesetName = engine'.getRulesetHash rulesetName ↔
    PyDict.find? engine.hashes rulesetName = PyDict.find? engine'.hashes rulesetName := by
  unfold getRulesetHash
  cases PyDict.find? engine.hashes rulesetName <;> cases PyDict.find? engine'.hashes rulesetName <;>
    simp

/-- A loaded ruleset with a hash: the result is its decision. -/
theorem evaluate_eq (hcontent : PyDict.find? engine.engines rulesetName = some content)
    (hhash : PyDict.find? engine.hashes rulesetName = some rulesetHash) (context : Dict) :
    engine.evaluate rulesetName context =
      match decision engine.zen content context with
      | some output => .ok
        { output, rulesetHash, engineVersion := engine.engineVersion, rulesetName }
      | none => .error "RuntimeError" := by
  have htry : engine.evaluate rulesetName context =
      (engine.tryEvaluate rulesetName content context).mapError fun _ => "RuntimeError" := by
    unfold evaluate
    rw [hcontent]
  rw [htry]
  unfold tryEvaluate decision
  rw [hhash]
  cases engine.zen content context with
  | error e => rfl
  | ok result =>
    cases houtput : result.output with
    | error e =>
      simp only [bind, Except.bind, houtput]
      rfl
    | ok output =>
      simp only [bind, Except.bind, houtput]
      rfl

theorem evaluate_eq_of_not_mem (h : PyDict.find? engine.engines rulesetName = none) (context : Dict) :
    engine.evaluate rulesetName context = .error "KeyError" := by
  unfold evaluate
  rw [h]

theorem find?_eq_none_iff_of_names (h : engine.loadedRulesets = engine'.loadedRulesets) :
    PyDict.find? engine.engines rulesetName = none ↔
      PyDict.find? engine'.engines rulesetName = none := by
  have hnames : rulesetName ∈ engine.engines.map Prod.fst ↔
      rulesetName ∈ engine'.engines.map Prod.fst := by
    change rulesetName ∈ engine.loadedRulesets ↔ rulesetName ∈ engine'.loadedRulesets
    rw [h]
  rw [← PyDict.find?_ne_none_iff, ← PyDict.find?_ne_none_iff] at hnames
  exact not_iff_not.mp hnames

theorem engines_ne_nil (h : PyDict.find? engine.engines rulesetName = some content) :
    engine.engines ≠ [] := by
  intro hnil
  rw [hnil] at h
  cases h

/-- The loaded rulesets all have a hash, and the library's version. -/
structure Ready (engine : ZenDecisionEngine) : Prop where
  hashed : ∀ rulesetName content, PyDict.find? engine.engines rulesetName = some content →
    ∃ rulesetHash, PyDict.find? engine.hashes rulesetName = some rulesetHash
  version : engine.engines ≠ [] → engine.engineVersion = "zen-engine-python"

/-- The decisions show in the results. -/
theorem SameView.decision_eq (h : SameView engine engine') (hready : Ready engine)
    {content' : String} (hcontent : PyDict.find? engine.engines rulesetName = some content)
    (hcontent' : PyDict.find? engine'.engines rulesetName = some content') (context : Dict) :
    decision engine.zen content context = decision engine'.zen content' context := by
  obtain ⟨rulesetHash, hhash⟩ := hready.hashed rulesetName content hcontent
  have hhash' := (getRulesetHash_eq_iff.mp (h.hashes rulesetName)).symm.trans hhash
  have hsame := h.evaluate rulesetName context
  rw [evaluate_eq hcontent hhash, evaluate_eq hcontent' hhash'] at hsame
  cases hdecision : decision engine.zen content context <;>
    cases hdecision' : decision engine'.zen content' context <;> simp_all

/-- The results come from the names, the hashes and the decisions. -/
theorem sameView_of_decisions (hready : Ready engine) (hready' : Ready engine')
    (hnames : engine.loadedRulesets = engine'.loadedRulesets)
    (hhashes : ∀ rulesetName,
      PyDict.find? engine.hashes rulesetName = PyDict.find? engine'.hashes rulesetName)
    (hdecisions : ∀ rulesetName content content',
      PyDict.find? engine.engines rulesetName = some content →
      PyDict.find? engine'.engines rulesetName = some content' →
      ∀ context, decision engine.zen content context = decision engine'.zen content' context) :
    SameView engine engine' where
  loadedRulesets := hnames
  hashes rulesetName := getRulesetHash_eq_iff.mpr (hhashes rulesetName)
  evaluate rulesetName context := by
    cases hcontent : PyDict.find? engine.engines rulesetName with
    | none =>
      rw [evaluate_eq_of_not_mem hcontent,
        evaluate_eq_of_not_mem ((find?_eq_none_iff_of_names hnames).mp hcontent)]
    | some content =>
      have hloaded : PyDict.find? engine'.engines rulesetName ≠ none := by
        rw [ne_eq, ← find?_eq_none_iff_of_names hnames, hcontent]
        exact Option.some_ne_none _
      obtain ⟨content', hcontent'⟩ := Option.ne_none_iff_exists'.mp hloaded
      obtain ⟨rulesetHash, hhash⟩ := hready.hashed rulesetName content hcontent
      have hversion : engine.engineVersion = engine'.engineVersion :=
        (hready.version (engines_ne_nil hcontent)).trans
          (hready'.version (engines_ne_nil hcontent')).symm
      rw [evaluate_eq hcontent hhash, evaluate_eq hcontent' ((hhashes rulesetName).symm.trans hhash),
        hdecisions rulesetName content content' hcontent hcontent' context, hversion]

end Views

/-! ## Reloads -/

section Reloads

variable {engine : ZenDecisionEngine} {load : Load} {lib : ZenLibrary} {before : List RulesetFile}
  {bad : RulesetFile}

theorem Left.ready (h : Left engine load) : Ready engine where
  hashed _ _ := h.hashed
  version hne := by
    cases h with
    | stub hzen hengines => exact absurd hengines hne
    | complete hzen hclean => rfl
    | @interrupted load lib before bad hzen hstops =>
      unfold interrupt
      cases bad.text <;> rfl

theorem hashesOf_append (files more : List RulesetFile) : hashesOf (files ++ more) =
    PyDict.update (hashesOf files) (more.filterMap fun file =>
      file.text.toOption.map fun content => (file.stem, contentHash content)) := by
  simp [hashesOf, PyDict.update, List.filterMap_append, List.foldl_append]

/-- Files that the library accepts can be read. -/
theorem hashesOf_clean {files : List RulesetFile} (hclean : ∀ file ∈ files, fault lib file = none) :
    hashesOf files = PyDict.mapValues contentHash (rulesetsOf files) := by
  induction files using List.reverseRecOn with
  | nil => rfl
  | append_singleton files file ih =>
    obtain ⟨hfiles, hfile⟩ := List.forall_mem_append.mp hclean
    have htext : file.text = .ok file.content := text_of_clean (hfile file (.head _))
    rw [hashesOf_append, ih hfiles, rulesetsOf_append, ← PyDict.set_mapValues]
    simp [PyDict.update, htext, Except.toOption]

/-- What a reload that raises leaves. -/
theorem hashes_interrupt (hclean : ∀ file ∈ before, fault lib file = none) :
    (interrupt (holding lib before) bad).hashes = hashesOf (before ++ [bad]) := by
  rw [hashesOf_append, hashesOf_clean hclean]
  unfold interrupt
  cases htext : bad.text with
  | error e => simp [PyDict.update, htext, Except.toOption, holding]
  | ok content => simp [PyDict.update, htext, Except.toOption, holding]

theorem sameView_interrupt_iff (hready : Ready engine) (hzen : load.zen = some lib)
    (hstops : StopsAt (fault lib) (rulesetPaths load.dir) before bad) :
    SameView engine (interrupt (holding lib before) bad) ↔ Holds engine lib before bad := by
  have hready' : Ready (interrupt (holding lib before) bad) := (Left.interrupted hzen hstops).ready
  have hzen' : (interrupt (holding lib before) bad).zen = lib.evaluate := by
    unfold interrupt
    cases bad.text <;> rfl
  have hengines : (interrupt (holding lib before) bad).engines = rulesetsOf before :=
    engines_interrupt _ _
  have hnames : (interrupt (holding lib before) bad).loadedRulesets =
      (rulesetsOf before).map Prod.fst := congrArg (List.map Prod.fst) hengines
  have hhashes : (interrupt (holding lib before) bad).hashes = hashesOf (before ++ [bad]) :=
    hashes_interrupt hstops.clean
  constructor
  · intro h
    refine ⟨h.loadedRulesets.trans hnames, fun rulesetName => ?_, ?_⟩
    · rw [← hhashes]
      exact getRulesetHash_eq_iff.mp (h.hashes rulesetName)
    · intro rulesetName content content' hcontent hcontent' context
      rw [← hengines] at hcontent'
      rw [h.decision_eq hready hcontent hcontent' context, hzen']
  · intro h
    refine sameView_of_decisions hready hready' (h.names.trans hnames.symm) ?_ ?_
    · rw [hhashes]
      exact h.hashes
    · rw [hengines, hzen']
      exact h.decisions

end Reloads

/-- **A reload is atomic exactly if** it meets no bad file, or the engine already holds what comes
before it. -/
theorem atomic_iff (engine : ZenDecisionEngine) (last load : Load) (hreached : Reached engine last) :
    Atomic engine load.zen load.dir ↔ ∀ lib before bad, load.zen = some lib →
      StopsAt (fault lib) (rulesetPaths load.dir) before bad → Holds engine lib before bad := by
  have hready := hreached.left.ready
  unfold Atomic ZenDecisionEngine.reload
  rcases loadAll_cases load.zen load.dir { engine with engines := [], hashes := [] } rfl rfl with
    ⟨hzen, hload⟩ | ⟨lib, hzen, hclean, hload⟩ | ⟨lib, before, bad, e, hzen, hstops, hload⟩
  · rw [hload, hzen]
    exact iff_of_true nofun nofun
  · rw [hload]
    refine iff_of_true nofun fun lib' before bad hzen' hstops => ?_
    obtain rfl := Option.some.inj (hzen.symm.trans hzen')
    exact absurd hclean hstops.not_clean
  · rw [hload]
    have hview := sameView_interrupt_iff hready hzen hstops
    constructor
    · intro hatomic lib' before' bad' hzen' hstops'
      obtain rfl := Option.some.inj (hzen.symm.trans hzen')
      obtain ⟨rfl, rfl⟩ := hstops.unique hstops'
      exact hview.mp (hatomic e rfl)
    · intro hholds _ _
      exact hview.mpr (hholds lib before bad hzen hstops)

/-! A bad file that sorts after the ruleset of D0, and one that sorts before it. -/

def unreadable (name : String) : RulesetFile := { name, text := .error "UnicodeDecodeError" }

def lateDir : RulesDir := gateDir ++ [unreadable "z.json"]

def badDir : RulesDir := unreadable "a.json" :: gateDir

theorem stopsAt_lateDir :
    StopsAt (fault gateLibrary) (rulesetPaths lateDir) gateDir (unreadable "z.json") where
  split := ⟨[], rfl⟩
  clean file hfile := by
    obtain rfl := List.mem_singleton.mp hfile
    exact fault_gateFile _
  faulty := Option.some_ne_none _

theorem atomic_iff_late : Atomic gateEngine (some gateLibrary) lateDir := by
  refine (atomic_iff gateEngine ⟨some gateLibrary, gateDir⟩ ⟨some gateLibrary, lateDir⟩
    (.new new_gateDir)).mpr fun lib before bad hlib hstops => ?_
  obtain rfl := Option.some.inj hlib
  obtain ⟨rfl, rfl⟩ := stopsAt_lateDir.unique hstops
  refine ⟨rfl, fun _ => rfl, fun rulesetName content content' hcontent hcontent' context => ?_⟩
  rw [Option.some.inj (hcontent.symm.trans hcontent')]
  rfl

/-- The engine loses the ruleset. -/
theorem badDir_loses :
    Reached gateEngine ⟨some gateLibrary, gateDir⟩ ∧ gateEngine.loadedRulesets = ["d0-kind1-gate"] ∧
    (gateEngine.reload (some gateLibrary) badDir).1 = .error "UnicodeDecodeError" ∧
    (gateEngine.reload (some gateLibrary) badDir).2.loadedRulesets = [] ∧
    ¬ Atomic gateEngine (some gateLibrary) badDir := by
  have hbefore : gateEngine.loadedRulesets = ["d0-kind1-gate"] := by decide
  have hraises : (gateEngine.reload (some gateLibrary) badDir).1 = .error "UnicodeDecodeError" := rfl
  have hafter : (gateEngine.reload (some gateLibrary) badDir).2.loadedRulesets = [] := rfl
  refine ⟨.new new_gateDir, hbefore, hraises, hafter, fun h => ?_⟩
  have hsame := (h _ hraises).loadedRulesets
  rw [hbefore, hafter] at hsame
  cases hsame

end OcenPlatform.Rules.ZenDecisionEngine
