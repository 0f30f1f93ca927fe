import OcenPlatform.Encoding.TextFile
import OcenPlatform.Rules.Reload

/-! The hash of a ruleset file: the engine hashes the text that it reads, `hash_ruleset_file` the
bytes of the file. -/

namespace OcenPlatform.Rules

open Hashlib (encode Collision)
open TextFile (readText)

/-! ## Files on disk -/

/-- `hash_ruleset_file(ruleset_path)`, of a file with these bytes. -/
def hashRulesetFile (bytes : List UInt8) : String := Hashlib.sha256Hex bytes

/-- The file as the engine reads it. -/
def RulesetFile.read (name : String) (bytes : List UInt8) : RulesetFile where
  name
  text := readText bytes

/-- Text and file have one hash if there is no carriage return in the file, or else by a collision. -/
theorem contentHash_eq_iff {bytes : List UInt8} {text : String} (h : readText bytes = .ok text) :
    contentHash text = hashRulesetFile bytes ↔ 13 ∉ bytes ∨ Collision (encode text) bytes := by
  rw [contentHash, hashRulesetFile, Hashlib.sha256Hex_eq_iff, TextFile.encode_eq_iff h]

namespace ZenDecisionEngine

/-! ## Recorded hashes -/

section Recorded

variable {lib : ZenLibrary} {engine : ZenDecisionEngine} {load : Load} {file : RulesetFile}

/-- The body stores the hash of the text, whether the library accepts the text or not. -/
theorem find?_loadFile {text : String} (h : file.text = .ok text) :
    PyDict.find? (loadFile lib engine file).2.hashes file.stem = some (contentHash text) := by
  unfold loadFile
  simp only [h]
  cases lib.zenDecisionContent text with
  | error e => exact PyDict.find?_set_self
  | ok _ => exact PyDict.find?_set_self

theorem exists_hashed {files : List RulesetFile} {rulesetName recorded : String}
    (h : PyDict.find? (hashesOf files) rulesetName = some recorded) :
    ∃ file ∈ files, file.stem = rulesetName ∧ ∃ text, file.text = .ok text ∧
      contentHash text = recorded := by
  rcases PyDict.mem_update (PyDict.mem_of_find? h) with hnil | hmem
  · cases hnil
  · obtain ⟨file, hfile, hhash⟩ := List.mem_filterMap.mp hmem
    obtain ⟨text, htext, hentry⟩ := Option.map_eq_some_iff.mp hhash
    obtain ⟨rfl, rfl⟩ := Prod.mk.inj hentry
    refine ⟨file, hfile, rfl, text, ?_, rfl⟩
    cases hread : file.text with
    | error e =>
      rw [hread] at htext
      cases htext
    | ok text' =>
      rw [hread] at htext
      exact congrArg Except.ok (Option.some.inj htext)

/-- A load into a cleared engine leaves the hashes of files of the directory. -/
theorem hashes_loadAll (zen : Option ZenLibrary) (dir : RulesDir) (engine : ZenDecisionEngine)
    (hengines : engine.engines = []) (hhashes : engine.hashes = []) :
    ∃ files, files ⊆ rulesetPaths dir ∧ (loadAll zen dir engine).2.hashes = hashesOf files := by
  rcases loadAll_cases zen dir engine hengines hhashes with
    ⟨-, hload⟩ | ⟨lib, -, hclean, hload⟩ | ⟨lib, before, bad, e, -, hstops, hload⟩
  · exact ⟨[], List.nil_subset _, by rw [hload]; exact hhashes⟩
  · exact ⟨rulesetPaths dir, List.Subset.refl _, by rw [hload, hashesOf_clean hclean]; rfl⟩
  · obtain ⟨rest, hsplit⟩ := hstops.split
    refine ⟨before ++ [bad], ?_, by rw [hload, hashes_interrupt hstops.clean]⟩
    rw [hsplit]
    simp

theorem Reached.hashes (h : Reached engine load) :
    ∃ files, files ⊆ rulesetPaths load.dir ∧ engine.hashes = hashesOf files := by
  cases h with
  | new hnew =>
    have hload := hashes_loadAll load.zen load.dir blank rfl rfl
    unfold ZenDecisionEngine.new at hnew
    cases hresult : loadAll load.zen load.dir blank with
    | mk result engine' =>
      rw [hresult] at hnew hload
      cases result with
      | error e => cases hnew
      | ok _ =>
        obtain rfl := Except.ok.inj hnew
        exact hload
  | reload load _ => exact hashes_loadAll load.zen load.dir _ rfl rfl

/-- What is recorded under the name of one file only is the hash of its text. -/
theorem Reached.recorded (h : Reached engine load)
    (halone : ∀ other ∈ rulesetPaths load.dir, other.stem = file.stem → other = file)
    {recorded : String} (hrecorded : engine.getRulesetHash file.stem = .ok recorded) :
    ∃ text, file.text = .ok text ∧ contentHash text = recorded := by
  obtain ⟨files, hsubset, hhashes⟩ := h.hashes
  unfold getRulesetHash at hrecorded
  cases hfind : PyDict.find? engine.hashes file.stem with
  | none =>
    rw [hfind] at hrecorded
    cases hrecorded
  | some rulesetHash =>
    rw [hfind] at hrecorded
    obtain rfl := Except.ok.inj hrecorded
    rw [hhashes] at hfind
    obtain ⟨other, hother, hstem, hhashed⟩ := exists_hashed hfind
    obtain rfl := halone other (hsubset hother) hstem
    exact hhashed

end Recorded

/-- **The recorded hash of a file is `hash_ruleset_file` of it exactly if** the file has no carriage
return, or else by a collision: for the hash that the load of the file stores, and for the one that
an engine has under the name of this file alone after any loads. -/
theorem recorded_eq_iff (name : String) (bytes : List UInt8) (text : String)
    (htext : readText bytes = .ok text) :
    (∀ lib engine, PyDict.find? (loadFile lib engine (.read name bytes)).2.hashes
        (RulesetFile.read name bytes).stem = some (hashRulesetFile bytes) ↔
        13 ∉ bytes ∨ Collision (encode text) bytes) ∧
    ∀ engine load recorded, Reached engine load →
      (∀ other ∈ rulesetPaths load.dir, other.stem = (RulesetFile.read name bytes).stem →
        other = .read name bytes) →
      engine.getRulesetHash (RulesetFile.read name bytes).stem = .ok recorded →
        (recorded = hashRulesetFile bytes ↔ 13 ∉ bytes ∨ Collision (encode text) bytes) := by
  refine ⟨fun lib engine => ?_, fun engine load recorded hreached halone hrecorded => ?_⟩
  · rw [find?_loadFile htext, Option.some_inj]
    exact contentHash_eq_iff htext
  · obtain ⟨text', htext', rfl⟩ := hreached.recorded halone hrecorded
    obtain rfl := Except.ok.inj (htext.symm.trans htext')
    exact contentHash_eq_iff htext

/-! A ruleset with the line end of a checkout on Windows. -/

def emptyGate : String := "\x7b\"nodes\":[],\"edges\":[]\x7d\n"

def windowsGate : String := "\x7b\"nodes\":[],\"edges\":[]\x7d\r\n"

def windowsFile : RulesetFile := .read "d0-kind1-gate.json" (encode windowsGate)

def lenientLibrary : ZenLibrary where
  zenDecisionContent _ := .ok ()
  evaluate _ _ := .error "RuntimeError"

theorem readText_windowsGate : readText (encode windowsGate) = .ok emptyGate :=
  TextFile.readText_encode windowsGate

theorem windowsFile_eq : windowsFile = { name := "d0-kind1-gate.json", text := .ok emptyGate } := by
  rw [windowsFile, RulesetFile.read, readText_windowsGate]

theorem new_windowsFile : ZenDecisionEngine.new (some lenientLibrary) [windowsFile] =
    .ok (holding lenientLibrary [windowsFile]) := by
  rw [windowsFile_eq]
  rfl

theorem getRulesetHash_windowsFile :
    (holding lenientLibrary [windowsFile]).getRulesetHash "d0-kind1-gate" = .ok (contentHash emptyGate) := by
  rw [windowsFile_eq]
  rfl

theorem recorded_eq_iff_windows :
    contentHash emptyGate = hashRulesetFile (encode windowsGate) ↔
      13 ∉ encode windowsGate ∨ Collision (encode emptyGate) (encode windowsGate) := by
  refine (recorded_eq_iff "d0-kind1-gate.json" (encode windowsGate) emptyGate readText_windowsGate).2
    (holding lenientLibrary [windowsFile]) ⟨some lenientLibrary, [windowsFile]⟩ _
    (.new new_windowsFile) (fun other hother _ => ?_) getRulesetHash_windowsFile
  exact List.mem_singleton.mp (mem_dir_of_mem_rulesetPaths hother)

/-- The recorded hash is not the one of the file. -/
theorem windowsFile_differs :
    ZenDecisionEngine.new (some lenientLibrary) [windowsFile] =
        .ok (holding lenientLibrary [windowsFile]) ∧
      (holding lenientLibrary [windowsFile]).getRulesetHash "d0-kind1-gate" ≠
        .ok (hashRulesetFile (encode windowsGate)) := by
  refine ⟨new_windowsFile, fun h => ?_⟩
  rw [getRulesetHash_windowsFile] at h
  have hdigest := Hashlib.hexdigest_inj (Except.ok.inj h)
  revert hdigest
  decide +kernel

end ZenDecisionEngine

end OcenPlatform.Rules
