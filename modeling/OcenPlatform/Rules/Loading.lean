import Mathlib.Data.List.Sort
import OcenPlatform.Encoding.Hashlib
import OcenPlatform.Loop
import OcenPlatform.Rules.Engine

/-! `ZenDecisionEngine` and its files: the constructor and `reload` fill the two dicts file by
file, and an exception leaves them as they are then. -/

namespace OcenPlatform.Rules

open Loop

/-! ## Files -/

/-- A file of the rules directory: its name, and what `read_text` makes of it. -/
structure RulesetFile where
  name : String
  text : Except String String

namespace RulesetFile

variable (file : RulesetFile)

/-- `Path.stem`: the name up to its last dot, if that is neither first nor last. -/
def stem : String :=
  let cs := file.name.toList
  let i := cs.length - 1 - cs.reverse.idxOf '.'
  if '.' ∈ cs ∧ 0 < i ∧ i < cs.length - 1 then String.ofList (cs.take i) else file.name

/-- Whether the name matches `*.json`. -/
def isJson : Bool := ".json".toList.isSuffixOf file.name.toList

/-- The text, if it can be read. -/
def content : String := file.text.toOption.getD ""

end RulesetFile

abbrev RulesDir := List RulesetFile

/-- `sorted(self._rules_dir.glob("*.json"))`. -/
def rulesetPaths (dir : RulesDir) : List RulesetFile :=
  (dir.filter RulesetFile.isJson).insertionSort fun file file' => file.name ≤ file'.name

/-! ## The engine -/

/-- The zen library: `ZenDecisionContent`, which may reject a text, and the evaluation. -/
structure ZenLibrary where
  zenDecisionContent : String → Except String Unit
  evaluate : String → Dict → Except String ZenResult

/-- `hashlib.sha256(content_str.encode()).hexdigest()`. -/
def contentHash (content : String) : String := Hashlib.sha256Hex (Hashlib.encode content)

namespace ZenDecisionEngine

/-- The body of the loop. -/
def loadFile (lib : ZenLibrary) (engine : ZenDecisionEngine) (file : RulesetFile) :
    Except String Unit × ZenDecisionEngine :=
  match file.text with
  | .error e => (.error e, engine)
  | .ok content =>
    -- The hash is stored before the library has accepted the text.
    let hashed := { engine with hashes := PyDict.set engine.hashes file.stem (contentHash content) }
    match lib.zenDecisionContent content with
    | .error e => (.error e, hashed)
    | .ok () => (.ok (), { hashed with engines := PyDict.set hashed.engines file.stem content })

/-- `_load_all`. Without the zen library it loads nothing. -/
def loadAll (zen : Option ZenLibrary) (dir : RulesDir) (engine : ZenDecisionEngine) :
    Except String Unit × ZenDecisionEngine :=
  match zen with
  | none => (.ok (), { engine with engineVersion := "stub-0.0.0" })
  | some lib =>
    forEach (loadFile lib) { engine with engineVersion := "zen-engine-python", zen := lib.evaluate }
      (rulesetPaths dir)

/-- The attributes before the constructor loads the files: there is nothing to evaluate. -/
def blank : ZenDecisionEngine where
  engines := []
  hashes := []
  engineVersion := ""
  zen _ _ := .error "KeyError"

/-- `ZenDecisionEngine(rules_dir)`. -/
def new (zen : Option ZenLibrary) (dir : RulesDir) : Except String ZenDecisionEngine :=
  match loadAll zen dir blank with
  | (.ok (), engine) => .ok engine
  | (.error e, _) => .error e

def reload (zen : Option ZenLibrary) (dir : RulesDir) (engine : ZenDecisionEngine) :
    Except String Unit × ZenDecisionEngine :=
  loadAll zen dir { engine with engines := [], hashes := [] }

def getRulesetHash (engine : ZenDecisionEngine) (rulesetName : String) : Except String String :=
  match PyDict.find? engine.hashes rulesetName with
  | some rulesetHash => .ok rulesetHash
  | none => .error "KeyError"

/-- What a load finds: whether the library can be imported, and the directory. -/
structure Load where
  zen : Option ZenLibrary
  dir : RulesDir

/-- The engine is in this state after a successful construction and any reloads, the last of which
(or the construction) is `last`. A reload that raises leaves a state as well. -/
inductive Reached : ZenDecisionEngine → Load → Prop
  | new {load engine} : new load.zen load.dir = .ok engine → Reached engine load
  | reload {engine last} (load : Load) : Reached engine last →
      Reached (engine.reload load.zen load.dir).2 load

/-! ## What a load leaves -/

/-- Why a file ends the load, if it does. -/
def fault (lib : ZenLibrary) (file : RulesetFile) : Option String :=
  match file.text with
  | .error e => some e
  | .ok content =>
    match lib.zenDecisionContent content with
    | .error e => some e
    | .ok () => none

/-- The rulesets of the files, by name: of two files with one name the later one counts. -/
def rulesetsOf (files : List RulesetFile) : PyDict String String :=
  PyDict.update [] (files.map fun file => (file.stem, file.content))

/-- The engine that holds exactly these files. -/
def holding (lib : ZenLibrary) (files : List RulesetFile) : ZenDecisionEngine where
  engines := rulesetsOf files
  hashes := PyDict.mapValues contentHash (rulesetsOf files)
  engineVersion := "zen-engine-python"
  zen := lib.evaluate

def accept (engine : ZenDecisionEngine) (file : RulesetFile) : ZenDecisionEngine :=
  { engine with
    engines := PyDict.set engine.engines file.stem file.content
    hashes := PyDict.set engine.hashes file.stem (contentHash file.content) }

/-- What a file that ends the load leaves: its hash, if it can be read. -/
def interrupt (engine : ZenDecisionEngine) (file : RulesetFile) : ZenDecisionEngine :=
  match file.text with
  | .error _ => engine
  | .ok content =>
    { engine with hashes := PyDict.set engine.hashes file.stem (contentHash content) }

section Loads

variable {lib : ZenLibrary} {file : RulesetFile}

theorem body_loadFile (lib : ZenLibrary) : Body (loadFile lib) (fault lib) accept interrupt where
  accepts engine file h := by
    unfold fault at h
    unfold loadFile accept RulesetFile.content
    cases htext : file.text with
    | error e => simp [htext] at h
    | ok content =>
      cases hcontent : lib.zenDecisionContent content with
      | error e => simp [htext, hcontent] at h
      | ok _ =>
        simp only [hcontent]
        rfl
  interrupts engine file e h := by
    unfold fault at h
    unfold loadFile interrupt
    cases htext : file.text with
    | error e' =>
      rw [htext] at h
      obtain rfl := Option.some.inj h
      rfl
    | ok content =>
      cases hcontent : lib.zenDecisionContent content with
      | error e' =>
        simp only [htext, hcontent] at h
        obtain rfl := Option.some.inj h
        simp only [hcontent]
      | ok _ => simp [htext, hcontent] at h

theorem rulesetsOf_append (files : List RulesetFile) (file : RulesetFile) :
    rulesetsOf (files ++ [file]) = PyDict.set (rulesetsOf files) file.stem file.content := by
  simp [rulesetsOf, PyDict.update, List.foldl_append]

theorem accept_holding (lib : ZenLibrary) (files : List RulesetFile) (file : RulesetFile) :
    accept (holding lib files) file = holding lib (files ++ [file]) := by
  unfold accept holding
  simp only [rulesetsOf_append, PyDict.set_mapValues]

theorem foldl_accept (lib : ZenLibrary) (files more : List RulesetFile) :
    more.foldl accept (holding lib files) = holding lib (files ++ more) := by
  induction more generalizing files with
  | nil => rw [List.append_nil]; rfl
  | cons file more ih =>
    rw [List.foldl_cons, accept_holding, ih, List.append_assoc]
    rfl

end Loads

/-- The state that a load leaves. -/
inductive Left : ZenDecisionEngine → Load → Prop
  | stub {engine load} : load.zen = none → engine.engines = [] → Left engine load
  | complete {load lib} : load.zen = some lib →
      (∀ file ∈ rulesetPaths load.dir, fault lib file = none) →
      Left (holding lib (rulesetPaths load.dir)) load
  | interrupted {load lib before bad} : load.zen = some lib →
      StopsAt (fault lib) (rulesetPaths load.dir) before bad →
      Left (interrupt (holding lib before) bad) load

/-- The loop of a load into a cleared engine. -/
theorem loadAll_cleared (lib : ZenLibrary) (dir : RulesDir) {engine : ZenDecisionEngine}
    (hengines : engine.engines = []) (hhashes : engine.hashes = []) :
    loadAll (some lib) dir engine =
      forEach (loadFile lib) (holding lib []) (rulesetPaths dir) := by
  unfold loadAll
  rw [hengines, hhashes]
  rfl

section Cleared

variable {lib : ZenLibrary} {dir : RulesDir} {engine : ZenDecisionEngine} {before : List RulesetFile}
  {bad : RulesetFile}

theorem loadAll_clean (hengines : engine.engines = []) (hhashes : engine.hashes = [])
    (hclean : ∀ file ∈ rulesetPaths dir, fault lib file = none) :
    loadAll (some lib) dir engine = (.ok (), holding lib (rulesetPaths dir)) := by
  rw [loadAll_cleared lib dir hengines hhashes, forEach_clean (body_loadFile lib) _ hclean,
    foldl_accept, List.nil_append]

theorem loadAll_stopsAt (hengines : engine.engines = []) (hhashes : engine.hashes = [])
    (hstops : StopsAt (fault lib) (rulesetPaths dir) before bad) :
    ∃ e, loadAll (some lib) dir engine = (.error e, interrupt (holding lib before) bad) := by
  obtain ⟨e, he⟩ := forEach_stopsAt (body_loadFile lib) (holding lib []) hstops
  refine ⟨e, ?_⟩
  rw [loadAll_cleared lib dir hengines hhashes, he, foldl_accept, List.nil_append]

end Cleared

/-- A load into a cleared engine raises exactly if a file has a fault. -/
theorem loadAll_cases (zen : Option ZenLibrary) (dir : RulesDir) (engine : ZenDecisionEngine)
    (hengines : engine.engines = []) (hhashes : engine.hashes = []) :
    (zen = none ∧ loadAll zen dir engine = (.ok (), { engine with engineVersion := "stub-0.0.0" })) ∨
    (∃ lib, zen = some lib ∧ (∀ file ∈ rulesetPaths dir, fault lib file = none) ∧
      loadAll zen dir engine = (.ok (), holding lib (rulesetPaths dir))) ∨
    ∃ lib before bad e, zen = some lib ∧ StopsAt (fault lib) (rulesetPaths dir) before bad ∧
      loadAll zen dir engine = (.error e, interrupt (holding lib before) bad) := by
  cases zen with
  | none => exact .inl ⟨rfl, rfl⟩
  | some lib =>
    rcases clean_or_stopsAt (fault lib) (rulesetPaths dir) with hclean | ⟨before, bad, hstops⟩
    · exact .inr (.inl ⟨lib, rfl, hclean, loadAll_clean hengines hhashes hclean⟩)
    · obtain ⟨e, he⟩ := loadAll_stopsAt hengines hhashes hstops
      exact .inr (.inr ⟨lib, before, bad, e, rfl, hstops, he⟩)

theorem Reached.left {engine : ZenDecisionEngine} {load : Load} (h : Reached engine load) :
    Left engine load := by
  cases h with
  | new hnew =>
    unfold ZenDecisionEngine.new at hnew
    rcases loadAll_cases load.zen load.dir blank rfl rfl with
      ⟨hzen, hload⟩ | ⟨lib, hzen, hclean, hload⟩ | ⟨lib, before, bad, e, hzen, hstops, hload⟩
    · rw [hload] at hnew
      obtain rfl := Except.ok.inj hnew
      exact .stub hzen rfl
    · rw [hload] at hnew
      obtain rfl := Except.ok.inj hnew
      exact .complete hzen hclean
    · rw [hload] at hnew
      cases hnew
  | @reload engine last load _ =>
    unfold ZenDecisionEngine.reload
    rcases loadAll_cases load.zen load.dir { engine with engines := [], hashes := [] } rfl rfl with
      ⟨hzen, hload⟩ | ⟨lib, hzen, hclean, hload⟩ | ⟨lib, before, bad, e, hzen, hstops, hload⟩
    · rw [hload]
      exact .stub hzen rfl
    · rw [hload]
      exact .complete hzen hclean
    · rw [hload]
      exact .interrupted hzen hstops

end ZenDecisionEngine

end OcenPlatform.Rules
