import OcenPlatform.Audit.Chain
import OcenPlatform.Encoding.JsonWrite
import OcenPlatform.Encoding.TextFile

/-! Canonical JSON as a name for a value: with a serializer whose texts can be read back, hashes of
canonical JSON stand for the values up to the order of their keys. -/

namespace OcenPlatform

namespace PyDict

variable {κ α : Type} [DecidableEq κ] {d d' : PyDict κ α}

/-- The order of the items does not matter where keys are distinct. -/
theorem find?_perm (h : d.Perm d') (hnodup : (d.map Prod.fst).Nodup) (k : κ) :
    find? d k = find? d' k := by
  have hnodup' : (d'.map Prod.fst).Nodup := (h.map Prod.fst).nodup_iff.mp hnodup
  by_cases hk : k ∈ d.map Prod.fst
  · obtain ⟨p, hp, rfl⟩ := List.mem_map.mp hk
    rw [find?_of_mem hnodup hp, find?_of_mem hnodup' (h.mem_iff.mp hp)]
  · have hk' : k ∉ d'.map Prod.fst := fun hmem => hk ((h.map Prod.fst).mem_iff.mpr hmem)
    rw [find?_eq_none hk, find?_eq_none hk']

end PyDict

/-! ## Sorted keys -/

theorem keys_sortFields : (fields : List (String × Json)) →
    (sortFields fields).map Prod.fst = fields.map Prod.fst
  | [] => rfl
  | (k, v) :: fields => by rw [sortFields, List.map_cons, List.map_cons, keys_sortFields fields]

theorem find?_sortFields (k : String) : (fields : List (String × Json)) →
    PyDict.find? (sortFields fields) k = (PyDict.find? fields k).map Json.sortKeys
  | [] => rfl
  | (k', v) :: fields => by
    rw [sortFields, PyDict.find?_cons, PyDict.find?_cons, find?_sortFields k fields]
    split <;> rfl

/-- The items of a dict, in another order. -/
theorem exists_sortKeys_obj (fields : Dict) :
    ∃ sorted, (Json.obj fields).sortKeys = .obj sorted ∧ sorted.Perm (sortFields fields) := by
  rw [Json.sortKeys]
  exact ⟨_, rfl, List.perm_insertionSort _ _⟩

/-- Dicts that are the same but for the order of their keys have the same values. -/
theorem find?_of_sortKeys_eq {fields fields' : Dict} (hnodup : (fields.map Prod.fst).Nodup)
    (hnodup' : (fields'.map Prod.fst).Nodup) (h : (Json.obj fields).sortKeys = (Json.obj fields').sortKeys)
    (k : String) :
    (PyDict.find? fields k).map Json.sortKeys = (PyDict.find? fields' k).map Json.sortKeys := by
  obtain ⟨sorted, hsorted, hperm⟩ := exists_sortKeys_obj fields
  obtain ⟨sorted', hsorted', hperm'⟩ := exists_sortKeys_obj fields'
  rw [hsorted, hsorted', Json.obj.injEq] at h
  subst h
  rw [← keys_sortFields] at hnodup hnodup'
  rw [← find?_sortFields, ← find?_sortFields, PyDict.find?_perm hperm.symm hnodup,
    PyDict.find?_perm hperm'.symm hnodup']

section Plain

open JsonText

variable {takes : Rat → Prop}

mutual

theorem plain_sortKeys : (v : Json) → Plain takes v → Plain takes v.sortKeys
  | .null, _ => .null
  | .bool b, _ => .bool b
  | .num _, .num h => .num h
  | .str s, _ => .str s
  | .arr items, .arr h => by
    rw [Json.sortKeys]
    exact .arr (plain_sortItems items h)
  | .obj fields, .obj hkeys h => by
    obtain ⟨sorted, hsorted, hperm⟩ := exists_sortKeys_obj fields
    rw [hsorted]
    refine .obj ?_ fun p hp => plain_sortFields fields h p (hperm.mem_iff.mp hp)
    rw [(hperm.map Prod.fst).nodup_iff, keys_sortFields]
    exact hkeys

theorem plain_sortItems : (items : List Json) → (∀ v ∈ items, Plain takes v) →
    ∀ v ∈ sortItems items, Plain takes v
  | [], _, _, hv => nomatch hv
  | w :: ws, h, v, hv => by
    rw [sortItems] at hv
    rcases List.mem_cons.mp hv with rfl | hv
    · exact plain_sortKeys w (h w (.head _))
    · exact plain_sortItems ws (fun u hu => h u (.tail _ hu)) v hv

theorem plain_sortFields : (fields : List (String × Json)) → (∀ p ∈ fields, Plain takes p.2) →
    ∀ p ∈ sortFields fields, Plain takes p.2
  | [], _, _, hp => nomatch hp
  | (k, w) :: fields, h, p, hp => by
    rw [sortFields] at hp
    rcases List.mem_cons.mp hp with rfl | hp
    · exact plain_sortKeys w (h (k, w) (.head _))
    · exact plain_sortFields fields (fun q hq => h q (.tail _ hq)) p hp

end

end Plain

namespace Audit

open Hashlib HashChain JsonText

section Canonical

variable {style : Style} {float : String → Rat} {takes : Rat → Prop}

/-- The bytes that the serializer writes. -/
def bytesOf (style : Style) (v : Json) : List UInt8 := encode (style.dumps v)

/-- **Values with the same canonical JSON are the same, but for the order of keys.** -/
theorem canonicalJson_eq_iff (hlawful : style.Lawful float takes) {v w : Json} (hv : Plain takes v)
    (hw : Plain takes w) :
    canonicalJson (bytesOf style) v = canonicalJson (bytesOf style) w ↔ v.sortKeys = w.sortKeys := by
  refine ⟨fun h => ?_, fun h => by rw [canonicalJson, canonicalJson, h]⟩
  exact dumps_inj hlawful (plain_sortKeys v hv) (plain_sortKeys w hw) (TextFile.encode_inj.mp h)

/-- **A content hash stands for the dict, up to the order of its keys at every depth**: two dicts have
one hash only if they are the same in this sense, or with two texts on which SHA-256 collides. -/
theorem contentHash_eq_iff (hlawful : style.Lawful float takes) (data data' : Dict)
    (hdata : Plain takes (.obj data)) (hdata' : Plain takes (.obj data')) :
    contentHash (bytesOf style) data = contentHash (bytesOf style) data' ↔
      (Json.obj data).sortKeys = (Json.obj data').sortKeys ∨
      Collision (canonicalJson (bytesOf style) (.obj data))
        (canonicalJson (bytesOf style) (.obj data')) := by
  rw [contentHash, contentHash, sha256Hex_eq_iff, canonicalJson_eq_iff hlawful hdata hdata']

/-! ## Receipts -/

theorem gate_value_inj {g g' : DecisionGate} (h : g.value = g'.value) : g = g' := by
  cases g <;> cases g' <;> first | rfl | exact absurd h (by decide)

theorem outcome_value_inj {o o' : DecisionOutcome} (h : o.value = o'.value) : o = o' := by
  cases o <;> cases o' <;> first | rfl | exact absurd h (by decide)

variable {r r' : DecisionReceipt}

/-- The items of a receipt that is hashed. -/
def DecisionReceipt.fields (r : DecisionReceipt) : Dict :=
  [("id", .str r.id.str), ("loan_application_id", .str r.loanApplicationId.str),
    ("gate", .str r.gate.value), ("outcome", .str r.outcome.value),
    ("ruleset_hash", .str r.rulesetHash), ("input_hash", .str r.inputHash),
    ("output", .obj r.output), ("engine_version", .str r.engineVersion),
    ("signature", .null), ("chain_hash", .null), ("evaluated_at", .str r.evaluatedAt)]

theorem modelDump_blanked (r : DecisionReceipt) : r.blanked.modelDump = .obj r.fields := rfl

theorem nodup_fields (r : DecisionReceipt) : (r.fields.map Prod.fst).Nodup := by
  have hkeys : r.fields.map Prod.fst = ["id", "loan_application_id", "gate", "outcome",
    "ruleset_hash", "input_hash", "output", "engine_version", "signature", "chain_hash",
    "evaluated_at"] := rfl
  rw [hkeys]
  decide

theorem plain_fields (h : Plain takes (.obj r.output)) : Plain takes (.obj r.fields) := by
  refine .obj (nodup_fields r) fun p hp => ?_
  simp only [DecisionReceipt.fields, List.mem_cons, List.not_mem_nil, or_false] at hp
  rcases hp with rfl | rfl | rfl | rfl | rfl | rfl | rfl | rfl | rfl | rfl | rfl
  case inr.inr.inr.inr.inr.inr.inl => exact h
  all_goals first | exact .str _ | exact .null

/-- Receipts with the same bytes are the same in what is hashed. -/
theorem blanked_equal (hlawful : style.Lawful float takes) (hr : Plain takes (.obj r.output))
    (hr' : Plain takes (.obj r'.output))
    (h : receiptBytes (bytesOf style) r = receiptBytes (bytesOf style) r') :
    r.blanked.Equal r'.blanked := by
  rw [receiptBytes, receiptBytes, modelDump_blanked, modelDump_blanked,
    canonicalJson_eq_iff hlawful (plain_fields hr) (plain_fields hr')] at h
  have hfield := find?_of_sortKeys_eq (nodup_fields r) (nodup_fields r') h
  have htext (k : String) {s s' : String} (hs : PyDict.find? r.fields k = some (.str s))
      (hs' : PyDict.find? r'.fields k = some (.str s')) : s = s' := by
    have heq := hfield k
    rw [hs, hs'] at heq
    exact Json.str.inj (Option.some.inj heq)
  exact {
    id := Uuid.str_inj.mp (htext "id" rfl rfl)
    loanApplicationId := Uuid.str_inj.mp (htext "loan_application_id" rfl rfl)
    gate := gate_value_inj (htext "gate" rfl rfl)
    outcome := outcome_value_inj (htext "outcome" rfl rfl)
    rulesetHash := htext "ruleset_hash" rfl rfl
    inputHash := htext "input_hash" rfl rfl
    output := Option.some.inj (hfield "output")
    engineVersion := htext "engine_version" rfl rfl
    signature := rfl
    chainHash := rfl
    evaluatedAt := htext "evaluated_at" rfl rfl }

theorem getLast?_encode {cs : List Char} (h : cs.getLast? = some '\x7d') :
    (encode (String.ofList cs)).getLast? = some 125 := by
  obtain ⟨front, rfl⟩ := List.getLast?_eq_some_iff.mp h
  rw [encode_ofList, List.flatMap_append]
  exact List.getLast?_concat

theorem receiptBytes_getLast? (style : Style) (r : DecisionReceipt) :
    (receiptBytes (bytesOf style) r).getLast? = some 125 := by
  obtain ⟨sorted, hsorted, -⟩ := exists_sortKeys_obj r.fields
  rw [receiptBytes, modelDump_blanked, canonicalJson, hsorted]
  exact getLast?_encode (getLast?_write_obj sorted)

/-! ## What the last hash of a chain stands for -/

/-- The same evaluation: dicts are compared without their order. -/
structure SameEvaluation (x x' : RuleEvaluation × Ambient) : Prop where
  loanApplicationId : x.1.loanApplicationId = x'.1.loanApplicationId
  gate : x.1.gate = x'.1.gate
  outcome : x.1.outcome = x'.1.outcome
  rulesetHash : x.1.rulesetHash = x'.1.rulesetHash
  ruleInput : (Json.obj x.1.ruleInput).sortKeys = (Json.obj x'.1.ruleInput).sortKeys
  ruleOutput : (Json.obj x.1.ruleOutput).sortKeys = (Json.obj x'.1.ruleOutput).sortKeys
  engineVersion : x.1.engineVersion = x'.1.engineVersion
  uuid4 : x.2.uuid4 = x'.2.uuid4
  utcnow : x.2.utcnow = x'.2.utcnow

/-- Everything that `create_receipt` has hashed for a chain. -/
def hashedInputs (dumps : Json → List UInt8) (es : List (RuleEvaluation × Ambient))
    (receipts : List DecisionReceipt) : List (List UInt8) :=
  chainInputs dumps receipts ++ es.map fun x => canonicalJson dumps (.obj x.1.ruleInput)

/-- A receipt for an evaluation. -/
def Created (dumps : Json → List UInt8) (x : RuleEvaluation × Ambient) (r : DecisionReceipt) : Prop :=
  r.blanked = unsigned x.1 (contentHash dumps x.1.ruleInput) x.2

section Created

variable {dumps : Json → List UInt8} {signer : ReceiptSigner}

theorem createReceipt_created {e : RuleEvaluation} {prevHash : Option String} {env : Ambient}
    (h : signer.createReceipt dumps e prevHash env = .ok r) : Created dumps (e, env) r := by
  unfold ReceiptSigner.createReceipt at h
  obtain ⟨signature, -, h⟩ := exists_of_bind_ok h
  obtain rfl := Except.ok.inj h
  rfl

theorem createChain_created {prevHash : Option String} {es : List (RuleEvaluation × Ambient)}
    {receipts : List DecisionReceipt} (h : signer.createChain dumps prevHash es = .ok receipts) :
    List.Forall₂ (Created dumps) es receipts := by
  induction es generalizing prevHash receipts with
  | nil =>
    obtain rfl := Except.ok.inj h
    exact .nil
  | cons x es ih =>
    obtain ⟨receipt, hreceipt, h⟩ := exists_of_bind_ok h
    obtain ⟨rest, hrest, h⟩ := exists_of_bind_ok h
    obtain rfl := Except.ok.inj h
    exact .cons (createReceipt_created hreceipt) (ih hrest)

/-- Neither the signing key nor the order of the keys of an input changes a hash. -/
theorem createChain_hashes {signer' : ReceiptSigner} {prevHash : Option String}
    {es es' : List (RuleEvaluation × Ambient)} {receipts receipts' : List DecisionReceipt}
    (hsame : List.Forall₂ (fun x x' => unsigned x.1 (contentHash dumps x.1.ruleInput) x.2 =
      unsigned x'.1 (contentHash dumps x'.1.ruleInput) x'.2) es es')
    (h : signer.createChain dumps prevHash es = .ok receipts)
    (h' : signer'.createChain dumps prevHash es' = .ok receipts') :
    receipts.map (·.chainHash) = receipts'.map (·.chainHash) := by
  induction hsame generalizing prevHash receipts receipts' with
  | nil =>
    obtain rfl := Except.ok.inj h
    obtain rfl := Except.ok.inj h'
    rfl
  | cons hx _ ih =>
    obtain ⟨receipt, hreceipt, h⟩ := exists_of_bind_ok h
    obtain ⟨rest, hrest, h⟩ := exists_of_bind_ok h
    obtain ⟨receipt', hreceipt', h'⟩ := exists_of_bind_ok h'
    obtain ⟨rest', hrest', h'⟩ := exists_of_bind_ok h'
    obtain rfl := Except.ok.inj h
    obtain rfl := Except.ok.inj h'
    have hblanked : receipt.blanked = receipt'.blanked :=
      (createReceipt_created hreceipt).trans (hx.trans (createReceipt_created hreceipt').symm)
    have hlink : receipt.chainHash = receipt'.chainHash := by
      rw [createReceipt_link hreceipt, createReceipt_link hreceipt', receiptBytes, receiptBytes, hblanked]
    rw [← hlink] at hrest'
    rw [List.map_cons, List.map_cons, hlink, ih hrest hrest']

/-- Created chains that end in one hash have the same bytes, receipt by receipt. -/
theorem createChain_bytes {signer' : ReceiptSigner} {es es' : List (RuleEvaluation × Ambient)}
    {receipts receipts' : List DecisionReceipt}
    (hbrace : ∀ r, (receiptBytes dumps r).getLast? = some 125)
    (hfree : CollisionFree dumps receipts receipts')
    (h : signer.createChain dumps none es = .ok receipts)
    (h' : signer'.createChain dumps none es' = .ok receipts')
    (hlast : receipts.getLast?.map (·.chainHash) = receipts'.getLast?.map (·.chainHash)) :
    List.Forall₂ (fun r r' => receiptBytes dumps r = receiptBytes dumps r' ∧ r.chainHash = r'.chainHash)
      receipts receipts' :=
  (createChain_valid h).binding scheme_delimited (fun r _ => hbrace r) hfree.hash
    (createChain_valid h') (last_none_eq hlast)

end Created

/-- Relatives of related lists are related. -/
theorem forall₂_join {α β : Type} {R R' : α → β → Prop} {S : β → β → Prop} {T : α → α → Prop}
    {as as' : List α} {bs bs' : List β} (h : List.Forall₂ R as bs) (hS : List.Forall₂ S bs bs')
    (h' : List.Forall₂ R' as' bs')
    (hT : ∀ a b b' a', R a b → S b b' → R' a' b' → T a a') : List.Forall₂ T as as' := by
  induction h generalizing as' bs' with
  | nil =>
    cases hS
    cases h'
    exact .nil
  | cons hab _ ih =>
    cases hS with
    | cons hbb hS =>
      cases h' with
      | cons hab' h' => exact .cons (hT _ _ _ _ hab hbb hab') (ih hS h')

/-- **The last hash of a chain stands for all evaluations in it**, their rule inputs included: chains
that `create_receipt` has built and that end in one hash are chains of the same evaluations, or SHA-256
collides on something that was hashed for them. -/
theorem createChain_commits (hlawful : style.Lawful float takes) (signer signer' : ReceiptSigner)
    (es es' : List (RuleEvaluation × Ambient)) (receipts receipts' : List DecisionReceipt)
    (hplain : ∀ x ∈ es ++ es', Plain takes (.obj x.1.ruleInput) ∧ Plain takes (.obj x.1.ruleOutput))
    (h : signer.createChain (bytesOf style) none es = .ok receipts)
    (h' : signer'.createChain (bytesOf style) none es' = .ok receipts')
    (hlast : receipts.getLast?.map (·.chainHash) = receipts'.getLast?.map (·.chainHash)) :
    List.Forall₂ SameEvaluation es es' ∨
    ∃ b ∈ hashedInputs (bytesOf style) es receipts, ∃ b' ∈ hashedInputs (bytesOf style) es' receipts',
      Collision b b' := by
  refine Classical.or_iff_not_imp_right.mpr fun hcollision => ?_
  have hfree : CollisionFree (bytesOf style) receipts receipts' := by
    intro b hb b' hb' heq
    exact Classical.byContradiction fun hne => hcollision
      ⟨b, List.mem_append_left _ hb, b', List.mem_append_left _ hb', hne, heq⟩
  have hcreated := forall₂_mem (createChain_created h)
  have hcreated' := forall₂_mem (createChain_created h')
  have hbytes := createChain_bytes (receiptBytes_getLast? style) hfree h h' hlast
  refine forall₂_join hcreated hbytes hcreated' fun x r r' x' hx hbytes hx' => ?_
  obtain ⟨hmem, -, hx⟩ := hx
  obtain ⟨hmem', -, hx'⟩ := hx'
  obtain ⟨hinput, houtput⟩ := hplain x (List.mem_append_left _ hmem)
  obtain ⟨hinput', houtput'⟩ := hplain x' (List.mem_append_right _ hmem')
  have hr : r.output = x.1.ruleOutput := congrArg DecisionReceipt.output hx
  have hr' : r'.output = x'.1.ruleOutput := congrArg DecisionReceipt.output hx'
  have hequal := blanked_equal hlawful (hr ▸ houtput) (hr' ▸ houtput') hbytes.1
  rw [hx, hx'] at hequal
  have hhash : contentHash (bytesOf style) x.1.ruleInput = contentHash (bytesOf style) x'.1.ruleInput :=
    hequal.inputHash
  have hnone : ¬ Collision (canonicalJson (bytesOf style) (.obj x.1.ruleInput))
      (canonicalJson (bytesOf style) (.obj x'.1.ruleInput)) := fun hpair =>
    hcollision ⟨_, List.mem_append_right _ (List.mem_map.mpr ⟨x, hmem, rfl⟩), _,
      List.mem_append_right _ (List.mem_map.mpr ⟨x', hmem', rfl⟩), hpair⟩
  exact {
    loanApplicationId := hequal.loanApplicationId
    gate := hequal.gate
    outcome := hequal.outcome
    rulesetHash := hequal.rulesetHash
    ruleInput := ((contentHash_eq_iff hlawful _ _ hinput hinput').mp hhash).resolve_right hnone
    ruleOutput := hequal.output
    engineVersion := hequal.engineVersion
    uuid4 := hequal.id
    utcnow := hequal.evaluatedAt }

end Canonical

/-! An evaluation whose input has its keys in two orders, under two signing keys. -/

def firstOrder : RuleEvaluation :=
  { d0Evaluation with ruleInput := [("irn_valid", .bool true), ("amount", .num 5)] }

def secondOrder : RuleEvaluation :=
  { d0Evaluation with ruleInput := [("amount", .num 5), ("irn_valid", .bool true)] }

def sampleAmbient : Ambient := ⟨⟨1⟩, "2026-01-01T00:00:00"⟩

theorem sortKeys_orders :
    (Json.obj firstOrder.ruleInput).sortKeys = (Json.obj secondOrder.ruleInput).sortKeys := by
  simp [firstOrder, secondOrder, Json.sortKeys, sortFields, List.insertionSort, List.orderedInsert]

theorem unsigned_orders (env : Ambient) :
    unsigned firstOrder (contentHash (bytesOf (.orjson writeInt)) firstOrder.ruleInput) env =
      unsigned secondOrder (contentHash (bytesOf (.orjson writeInt)) secondOrder.ruleInput) env := by
  rw [contentHash, contentHash, canonicalJson, canonicalJson, sortKeys_orders]
  rfl

theorem plain_orders (e : RuleEvaluation) (he : e = firstOrder ∨ e = secondOrder) :
    Plain (fun q => q.den = 1) (.obj e.ruleInput) ∧ Plain (fun q => q.den = 1) (.obj e.ruleOutput) := by
  have houtput : Plain (fun q => q.den = 1) (.obj d0Evaluation.ruleOutput) := by
    refine .obj (by decide) fun p hp => ?_
    rw [List.mem_singleton.mp hp]
    exact .str _
  rcases he with rfl | rfl
  · refine ⟨.obj (by decide) fun p hp => ?_, houtput⟩
    rcases List.mem_pair.mp hp with rfl | rfl
    · exact .bool _
    · exact .num (by decide)
  · refine ⟨.obj (by decide) fun p hp => ?_, houtput⟩
    rcases List.mem_pair.mp hp with rfl | rfl
    · exact .num (by decide)
    · exact .bool _

/-- Two gates, with the keys of the inputs in two orders. -/
def firstChain : List (RuleEvaluation × Ambient) :=
  [(firstOrder, sampleAmbient), (secondOrder, ⟨⟨2⟩, "2026-01-01T00:00:01"⟩)]

def secondChain : List (RuleEvaluation × Ambient) :=
  [(secondOrder, sampleAmbient), (firstOrder, ⟨⟨2⟩, "2026-01-01T00:00:01"⟩)]

theorem createChain_commits_orders : ∃ receipts receipts',
    ReceiptSigner.createChain (bytesOf (.orjson writeInt)) ⟨encode "one", "hmac"⟩ none firstChain =
      .ok receipts ∧
    ReceiptSigner.createChain (bytesOf (.orjson writeInt)) ⟨encode "two", "hmac"⟩ none secondChain =
      .ok receipts' ∧
    (List.Forall₂ SameEvaluation firstChain secondChain ∨
      ∃ b ∈ hashedInputs (bytesOf (.orjson writeInt)) firstChain receipts,
        ∃ b' ∈ hashedInputs (bytesOf (.orjson writeInt)) secondChain receipts', Collision b b') := by
  obtain ⟨receipts, h⟩ : ∃ receipts, ReceiptSigner.createChain (bytesOf (.orjson writeInt))
      ⟨encode "one", "hmac"⟩ none firstChain = .ok receipts := createChain_ok rfl none _
  obtain ⟨receipts', h'⟩ : ∃ receipts, ReceiptSigner.createChain (bytesOf (.orjson writeInt))
      ⟨encode "two", "hmac"⟩ none secondChain = .ok receipts := createChain_ok rfl none _
  have hsame := createChain_hashes (.cons (unsigned_orders _) (.cons (unsigned_orders _).symm .nil)) h h'
  have hlast : receipts.getLast?.map (·.chainHash) = receipts'.getLast?.map (·.chainHash) := by
    rw [← List.getLast?_map, hsame, List.getLast?_map]
  refine ⟨receipts, receipts', h, h', createChain_commits (orjson_lawful (numbers_writeInt fun _ => 0))
    _ _ _ _ _ _ (fun x hx => plain_orders x.1 ?_) h h' hlast⟩
  simp only [firstChain, secondChain, List.cons_append, List.nil_append, List.mem_cons,
    List.not_mem_nil, or_false] at hx
  rcases hx with rfl | rfl | rfl | rfl
  · exact .inl rfl
  · exact .inr rfl
  · exact .inr rfl
  · exact .inl rfl

end Audit

end OcenPlatform
