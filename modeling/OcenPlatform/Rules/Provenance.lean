import OcenPlatform.Rules.Loading

/-! Ruleset provenance: the hash that a result carries, and the text that was evaluated. -/

namespace OcenPlatform.Rules.ZenDecisionEngine

open Loop

/-! ## The contract -/

/-- A result carries the hash of the text that was evaluated, which is that of a file, and every
loaded ruleset has a hash. -/
structure Provenance (engine : ZenDecisionEngine) (dir : RulesDir) : Prop where
  hashed : ∀ rulesetName context result, engine.evaluate rulesetName context = .ok result →
    ∃ content, PyDict.find? engine.engines rulesetName = some content ∧
      result.rulesetHash = contentHash content ∧
      ∃ file ∈ dir, file.stem = rulesetName ∧ file.text = .ok content
  complete : ∀ rulesetName ∈ engine.loadedRulesets, ∃ rulesetHash,
    engine.getRulesetHash rulesetName = .ok rulesetHash

/-- The file at which the load stops has not the name of a ruleset that it has loaded, unless it
cannot be read or has the same hash. -/
def Load.Untangled (load : Load) : Prop :=
  ∀ lib before bad, load.zen = some lib →
    StopsAt (fault lib) (rulesetPaths load.dir) before bad →
    ∀ content content', bad.text = .ok content →
      PyDict.find? (rulesetsOf before) bad.stem = some content' →
      contentHash content = contentHash content'

/-- The two dicts fit together. -/
def Paired (engine : ZenDecisionEngine) : Prop :=
  ∀ rulesetName content, PyDict.find? engine.engines rulesetName = some content →
    PyDict.find? engine.hashes rulesetName = some (contentHash content)

/-! ## Files of a state -/

section Files

variable {lib : ZenLibrary} {files : List RulesetFile} {file bad : RulesetFile}

theorem text_of_clean (h : fault lib file = none) : file.text = .ok file.content := by
  unfold fault at h
  unfold RulesetFile.content
  cases htext : file.text with
  | error e => simp [htext] at h
  | ok content => rfl

theorem exists_file {rulesetName content : String}
    (h : PyDict.find? (rulesetsOf files) rulesetName = some content) :
    ∃ file ∈ files, file.stem = rulesetName ∧ file.content = content := by
  rcases PyDict.mem_update (PyDict.mem_of_find? h) with hnil | hmem
  · cases hnil
  · obtain ⟨file, hfile, heq⟩ := List.mem_map.mp hmem
    obtain ⟨rfl, rfl⟩ := Prod.mk.inj heq
    exact ⟨file, hfile, rfl, rfl⟩

theorem mem_dir_of_mem_rulesetPaths {dir : RulesDir} (h : file ∈ rulesetPaths dir) : file ∈ dir :=
  List.mem_of_mem_filter ((List.mem_insertionSort _).mp h)

theorem engines_interrupt (engine : ZenDecisionEngine) (bad : RulesetFile) :
    (interrupt engine bad).engines = engine.engines := by
  unfold interrupt
  cases bad.text <;> rfl

theorem paired_holding (lib : ZenLibrary) (files : List RulesetFile) : Paired (holding lib files) := by
  intro rulesetName content h
  have hruleset : PyDict.find? (rulesetsOf files) rulesetName = some content := h
  change PyDict.find? (PyDict.mapValues contentHash (rulesetsOf files)) rulesetName = _
  rw [PyDict.find?_mapValues, hruleset]
  rfl

/-- Only the hash of the name of the bad file may be wrong. -/
theorem paired_interrupt_iff : Paired (interrupt (holding lib files) bad) ↔
    ∀ content content', bad.text = .ok content →
      PyDict.find? (rulesetsOf files) bad.stem = some content' →
      contentHash content = contentHash content' := by
  unfold interrupt
  cases htext : bad.text with
  | error e => exact iff_of_true (paired_holding lib files) (by simp)
  | ok content =>
    constructor
    · intro hpaired _ content' hcontent hfind
      obtain rfl := Except.ok.inj hcontent
      have hhash := hpaired bad.stem content' hfind
      rw [PyDict.find?_set_self] at hhash
      exact Option.some.inj hhash
    · intro hsame rulesetName content' hfind
      change PyDict.find? (PyDict.set _ bad.stem _) rulesetName = _
      by_cases hname : rulesetName = bad.stem
      · rw [hname, PyDict.find?_set_self, hsame content content' rfl (hname ▸ hfind)]
      · rw [PyDict.find?_set_ne hname]
        exact paired_holding lib files rulesetName content' hfind

end Files

/-! ## Reached states -/

section Reached

variable {engine : ZenDecisionEngine} {load : Load}

/-- The two dicts fit together exactly if the last load was untangled. -/
theorem Left.paired_iff (h : Left engine load) : Paired engine ↔ load.Untangled := by
  cases h with
  | stub hzen hengines =>
    refine iff_of_true ?_ ?_
    · intro rulesetName content hfind
      rw [hengines] at hfind
      cases hfind
    · intro lib before bad hlib
      rw [hzen] at hlib
      cases hlib
  | complete hzen hclean =>
    refine iff_of_true (paired_holding _ _) ?_
    intro lib before bad hlib hstops
    obtain rfl := Option.some.inj (hzen.symm.trans hlib)
    exact absurd hclean hstops.not_clean
  | interrupted hzen hstops =>
    rw [paired_interrupt_iff]
    constructor
    · intro hsame lib before bad hlib hstops'
      obtain rfl := Option.some.inj (hzen.symm.trans hlib)
      obtain ⟨rfl, rfl⟩ := hstops.unique hstops'
      exact hsame
    · intro huntangled
      exact huntangled _ _ _ hzen hstops

/-- What the engine holds is the text of a file. -/
theorem Left.exists_file (h : Left engine load) {rulesetName content : String}
    (hfind : PyDict.find? engine.engines rulesetName = some content) :
    ∃ file ∈ load.dir, file.stem = rulesetName ∧ file.text = .ok content := by
  cases h with
  | stub hzen hengines =>
    rw [hengines] at hfind
    cases hfind
  | complete hzen hclean =>
    obtain ⟨file, hfile, hstem, hcontent⟩ := ZenDecisionEngine.exists_file hfind
    exact ⟨file, mem_dir_of_mem_rulesetPaths hfile, hstem, hcontent ▸ text_of_clean (hclean file hfile)⟩
  | @interrupted load lib before bad hzen hstops =>
    rw [engines_interrupt] at hfind
    obtain ⟨file, hfile, hstem, hcontent⟩ := ZenDecisionEngine.exists_file hfind
    obtain ⟨rest, hsplit⟩ := hstops.split
    have hpath : file ∈ rulesetPaths load.dir := hsplit ▸ List.mem_append_left _ hfile
    exact ⟨file, mem_dir_of_mem_rulesetPaths hpath, hstem,
      hcontent ▸ text_of_clean (hstops.clean file hfile)⟩

/-- Every loaded ruleset has a hash, whatever has interrupted the load. -/
theorem Left.hashed (h : Left engine load) {rulesetName content : String}
    (hcontent : PyDict.find? engine.engines rulesetName = some content) :
    ∃ rulesetHash, PyDict.find? engine.hashes rulesetName = some rulesetHash := by
  cases h with
  | stub hzen hengines =>
    rw [hengines] at hcontent
    cases hcontent
  | complete hzen hclean => exact ⟨_, paired_holding _ _ _ _ hcontent⟩
  | @interrupted load lib before bad hzen hstops =>
    rw [engines_interrupt] at hcontent
    have hholding := paired_holding lib before _ _ hcontent
    unfold interrupt
    cases htext : bad.text with
    | error e => exact ⟨_, hholding⟩
    | ok content' =>
      by_cases hbad : rulesetName = bad.stem
      · subst hbad
        exact ⟨_, PyDict.find?_set_self⟩
      · exact ⟨_, (PyDict.find?_set_ne hbad).trans hholding⟩

end Reached

/-! ## Names -/

section Names

variable {file file' : RulesetFile}

theorem stem_of_toList {pre : List Char} (h : file.name.toList = pre ++ ".json".toList) :
    file.stem = if pre = [] then file.name else String.ofList pre := by
  have hdot : file.name.toList.reverse.idxOf '.' = 4 := by
    rw [h, List.reverse_append]
    rfl
  have hlength : file.name.toList.length = pre.length + 5 := by rw [h, List.length_append]; rfl
  have hmem : '.' ∈ file.name.toList := by
    rw [h]
    exact List.mem_append_right _ (.head _)
  unfold RulesetFile.stem
  simp only [hdot, hlength, hmem, true_and]
  cases pre with
  | nil => rfl
  | cons c pre =>
    rw [if_pos (by simp only [List.length_cons]; omega), if_neg (List.cons_ne_nil _ _), h]
    simp

theorem exists_toList (h : file.isJson) : ∃ pre, file.name.toList = pre ++ ".json".toList := by
  obtain ⟨pre, hpre⟩ := List.isSuffixOf_iff_suffix.mp h
  exact ⟨pre, hpre.symm⟩

/-- A name without a stem is its own stem. -/
theorem names_of_name_eq {pre : List Char} (h : file.name.toList = ".json".toList)
    (h' : file'.name.toList = pre ++ ".json".toList) (hstem : file.name = String.ofList pre) :
    file.name = ".json" ∧ file'.name = ".json.json" := by
  have hname : file.name = ".json" := String.toList_inj.mp h
  have hpre : pre = ".json".toList := by rw [← h, hstem, String.toList_ofList]
  rw [hpre] at h'
  exact ⟨hname, String.toList_inj.mp h'⟩

/-- Two files have one ruleset name only if they are `.json` and `.json.json`. -/
theorem names_of_stem_eq (hjson : file.isJson) (hjson' : file'.isJson) (hstem : file.stem = file'.stem) :
    file.name = file'.name ∨ file.name = ".json" ∧ file'.name = ".json.json" ∨
      file.name = ".json.json" ∧ file'.name = ".json" := by
  obtain ⟨pre, hpre⟩ := exists_toList hjson
  obtain ⟨pre', hpre'⟩ := exists_toList hjson'
  rw [stem_of_toList hpre, stem_of_toList hpre'] at hstem
  split_ifs at hstem with hnil hnil' hnil'
  · exact .inl hstem
  · rw [hnil] at hpre
    exact .inr (.inl (names_of_name_eq hpre hpre' hstem))
  · rw [hnil'] at hpre'
    exact .inr (.inr (names_of_name_eq hpre' hpre hstem.symm).symm)
  · have hsame : pre = pre' := String.ofList_injective hstem
    exact .inl (String.toList_inj.mp (by rw [hpre, hpre', hsame]))

theorem isJson_of_mem_rulesetPaths {dir : RulesDir} (h : file ∈ rulesetPaths dir) : file.isJson :=
  (List.mem_filter.mp ((List.mem_insertionSort _).mp h)).2

/-- A load is untangled unless the directory has both. -/
theorem untangled_of_names {load : Load} (hnodup : (load.dir.map RulesetFile.name).Nodup)
    (hnames : ¬ (".json" ∈ load.dir.map RulesetFile.name ∧
      ".json.json" ∈ load.dir.map RulesetFile.name)) : load.Untangled := by
  intro lib before bad _ hstops content content' _ hfind
  obtain ⟨file, hfile, hstem, -⟩ := exists_file hfind
  obtain ⟨rest, hsplit⟩ := hstops.split
  have hpath : file ∈ rulesetPaths load.dir := hsplit ▸ List.mem_append_left _ hfile
  have hbad : bad ∈ rulesetPaths load.dir := hsplit ▸ List.mem_append_right _ (.head _)
  have hnameMem := List.mem_map_of_mem (f := RulesetFile.name) (mem_dir_of_mem_rulesetPaths hpath)
  have hbadMem := List.mem_map_of_mem (f := RulesetFile.name) (mem_dir_of_mem_rulesetPaths hbad)
  rcases names_of_stem_eq (isJson_of_mem_rulesetPaths hpath) (isJson_of_mem_rulesetPaths hbad) hstem with
    hsame | ⟨hname, hbadName⟩ | ⟨hname, hbadName⟩
  · -- The names of a directory are distinct.
    have hpaths : ((rulesetPaths load.dir).map RulesetFile.name).Nodup := by
      refine (List.perm_insertionSort _ _).map _ |>.nodup_iff.mpr ?_
      exact hnodup.sublist (List.filter_sublist.map _)
    rw [hsplit, List.map_append, List.map_cons] at hpaths
    exact absurd hsame (List.nodup_append.mp hpaths |>.2.2 _ (List.mem_map_of_mem hfile) _ (.head _))
  · exact absurd ⟨hname ▸ hnameMem, hbadName ▸ hbadMem⟩ hnames
  · exact absurd ⟨hbadName ▸ hbadMem, hname ▸ hnameMem⟩ hnames

end Names

/-- **In every state that is reached, results carry the hash of the text that was evaluated**, if
the last load was untangled. -/
theorem provenance_of_untangled (engine : ZenDecisionEngine) (load : Load)
    (hreached : Reached engine load) (huntangled : load.Untangled) : Provenance engine load.dir where
  hashed rulesetName context result hresult := by
    obtain ⟨content, zenResult, rulesetHash, hcontent, -, -, hhash, hcarried⟩ := evaluate_ok hresult
    have hpaired := hreached.left.paired_iff.mpr huntangled rulesetName content hcontent
    refine ⟨content, hcontent, ?_, hreached.left.exists_file hcontent⟩
    rw [hcarried]
    exact Option.some.inj (hhash.symm.trans hpaired)
  complete rulesetName hname := by
    have hloaded : PyDict.find? engine.engines rulesetName ≠ none :=
      PyDict.find?_ne_none_iff.mpr hname
    obtain ⟨content, hcontent⟩ := Option.ne_none_iff_exists'.mp hloaded
    obtain ⟨rulesetHash, hhash⟩ := hreached.left.hashed hcontent
    exact ⟨rulesetHash, by rw [getRulesetHash, hhash]⟩

/-! Two files with one ruleset name, the second of which the library rejects. -/

/-- The JDM text of a decision without a table: the request is the response. -/
def gateText : String :=
  "\x7b\"nodes\":[" ++
    "\x7b\"id\":\"input\",\"name\":\"Request\",\"type\":\"inputNode\"," ++
      "\"position\":\x7b\"x\":100,\"y\":200\x7d\x7d," ++
    "\x7b\"id\":\"output\",\"name\":\"Response\",\"type\":\"outputNode\"," ++
      "\"position\":\x7b\"x\":700,\"y\":200\x7d\x7d]," ++
  "\"edges\":[\x7b\"id\":\"e1\",\"sourceId\":\"input\",\"targetId\":\"output\"\x7d]\x7d"

/-- The library on this text and on texts that are no JDM. -/
def gateLibrary : ZenLibrary where
  zenDecisionContent content := if content = gateText then .ok () else .error "ValueError"
  evaluate _ context := .ok (.dict [("performance", .str "57.4µs"), ("result", .obj context)])

def gateFile (name : String) : RulesetFile := { name, text := .ok gateText }

theorem fault_gateFile (name : String) : fault gateLibrary (gateFile name) = none := by
  simp [fault, gateFile, gateLibrary]

def gateDir : RulesDir := [gateFile "d0-kind1-gate.json"]

/-- The name has the stem of `.json`. -/
def rejectedFile : RulesetFile := { name := ".json.json", text := .ok "[" }

def tangledDir : RulesDir := [gateFile ".json", rejectedFile]

/-- The engine after the construction, and after a reload that raises. -/
def gateEngine : ZenDecisionEngine := holding gateLibrary gateDir

theorem new_gateDir : ZenDecisionEngine.new (some gateLibrary) gateDir = .ok gateEngine := by
  have hclean : ∀ file ∈ rulesetPaths gateDir, fault gateLibrary file = none := by
    intro file hfile
    obtain rfl := List.mem_singleton.mp hfile
    exact fault_gateFile _
  rw [ZenDecisionEngine.new, loadAll_clean rfl rfl hclean]
  rfl

def tangledEngine : ZenDecisionEngine := (gateEngine.reload (some gateLibrary) tangledDir).2

theorem reached_tangledEngine : Reached tangledEngine ⟨some gateLibrary, tangledDir⟩ := by
  have hreached : Reached gateEngine ⟨some gateLibrary, gateDir⟩ := .new new_gateDir
  exact .reload ⟨some gateLibrary, tangledDir⟩ hreached

theorem tangledEngine_eq :
    tangledEngine = interrupt (holding gateLibrary [gateFile ".json"]) rejectedFile := by
  have hstops : StopsAt (fault gateLibrary) (rulesetPaths tangledDir) [gateFile ".json"]
      rejectedFile := by
    refine ⟨⟨[], rfl⟩, fun file hfile => ?_, by decide⟩
    obtain rfl := List.mem_singleton.mp hfile
    exact fault_gateFile _
  obtain ⟨e, he⟩ : ∃ e, gateEngine.reload (some gateLibrary) tangledDir =
      (.error e, interrupt (holding gateLibrary [gateFile ".json"]) rejectedFile) :=
    loadAll_stopsAt rfl rfl hstops
  rw [tangledEngine, he]

theorem provenance_of_untangled_gate : Provenance gateEngine gateDir :=
  provenance_of_untangled gateEngine ⟨some gateLibrary, gateDir⟩ (.new new_gateDir)
    (untangled_of_names (by decide) (by decide))

theorem contentHash_ne : contentHash "[" ≠ contentHash gateText := by
  intro h
  have hdigest := Hashlib.hexdigest_inj h
  revert hdigest
  decide +kernel

/-- The result is that of the first text, with the hash of the second. -/
theorem tangledEngine_misattributes :
    Reached tangledEngine ⟨some gateLibrary, tangledDir⟩ ∧
    PyDict.find? tangledEngine.engines ".json" = some gateText ∧
    (∃ result, tangledEngine.evaluate ".json" [("irn_valid", .bool true)] = .ok result ∧
      result.rulesetHash = contentHash "[") ∧
    ¬ Provenance tangledEngine tangledDir := by
  have hresult : tangledEngine.evaluate ".json" [("irn_valid", .bool true)] = .ok
      { output := .obj [("irn_valid", .bool true)], rulesetHash := contentHash "["
        engineVersion := "zen-engine-python", rulesetName := ".json" } := by
    rw [tangledEngine_eq]
    rfl
  have hloaded : PyDict.find? tangledEngine.engines ".json" = some gateText := by
    rw [tangledEngine_eq]
    rfl
  refine ⟨reached_tangledEngine, hloaded, ⟨_, hresult, rfl⟩, fun h => ?_⟩
  obtain ⟨content, hcontent, hhash, -⟩ := h.hashed ".json" _ _ hresult
  obtain rfl := Option.some.inj (hloaded.symm.trans hcontent)
  exact contentHash_ne hhash

end OcenPlatform.Rules.ZenDecisionEngine
