import Lineage.Proofs.Declarations
import Lineage.Proofs.OrderedMaps

/-!
# What the templates of a chain declare together

The templates of a chain declare one thing each, listed from the root to the leaf
(`Metadata.Declares`).  The main result says that they are put together as `Metadata.Merges` tells,
unless one of them is rejected, and then the failure is that of the first one.

Each value that is inherited is that of the leaf-most template with one (`LeafMost`), and the level
that holds in a template is the one that it or the nearest template above it declares
(`Metadata.levelAt`).  Rules and descriptions keep the places that their first declarations have.
-/

namespace Lineage

open Lineage.Template

/-! ## The last item with a value -/

/-- The item at the position has the value, and no later item has one. -/
def LeafMost {α β : Type} (items : List α) (field : α → Option β) (position : Nat) (value : β) :
    Prop :=
  items[position]?.bind field = some value ∧
    ∀ later, position < later → items[later]?.bind field = none

section LeafMost

variable {α β γ : Type} {items : List α} {field : α → Option β} {position : Nat} {value : β}

theorem LeafMost.unique {other : Nat} {value' : β} (one : LeafMost items field position value)
    (another : LeafMost items field other value') : position = other ∧ value = value' := by
  rcases Nat.lt_trichotomy position other with lt | rfl | gt
  · exact nomatch (one.2 other lt).symm.trans another.1
  · exact ⟨rfl, Option.some.inj (one.1.symm.trans another.1)⟩
  · exact nomatch (another.2 position gt).symm.trans one.1

theorem leafMost_concat_of_some {item : α} {last : β} (present : field item = some last) :
    LeafMost (items ++ [item]) field position value ↔ position = items.length ∧ value = last := by
  have atEnd : LeafMost (items ++ [item]) field items.length last := by
    refine ⟨by simp [present], ?_⟩
    intro later lt
    rw [List.getElem?_eq_none (by simp; omega), Option.bind_none]
  constructor
  · intro leafMost
    exact leafMost.unique atEnd
  · rintro ⟨rfl, rfl⟩
    exact atEnd

theorem leafMost_concat_of_none {item : α} (absent : field item = none) :
    LeafMost (items ++ [item]) field position value ↔ LeafMost items field position value := by
  have same : ∀ place : Nat, (items ++ [item])[place]?.bind field = items[place]?.bind field := by
    intro place
    rw [List.getElem?_append]
    split
    · rfl
    · rename_i notBefore
      have outside : items[place]? = none := List.getElem?_eq_none (by omega)
      rw [outside, List.getElem?_singleton]
      split
      · rw [Option.bind_some, absent, Option.bind_none]
      · rfl
  unfold LeafMost
  simp only [same]

/-- The last of the values is that of the leaf-most item with one. -/
theorem getLast?_filterMap_eq_some_iff :
    (items.filterMap field).getLast? = some value ↔
      ∃ position, LeafMost items field position value := by
  induction items using List.reverseRecOn with
  | nil => simp [LeafMost]
  | append_singleton items item ih =>
      cases here : field item with
      | none =>
          simp only [leafMost_concat_of_none here]
          rw [List.filterMap_append, List.filterMap_cons, here, List.filterMap_nil,
            List.append_nil, ih]
      | some last =>
          simp only [leafMost_concat_of_some here, exists_eq_left]
          rw [List.filterMap_append, List.filterMap_cons, here, List.filterMap_nil,
            List.getLast?_concat, Option.some.injEq, eq_comm]

/-- A value may be made from an item and the value of a part of it. -/
theorem leafMost_map_iff {δ : Type} {part : α → γ} {field : γ → Option δ} {make : α → δ → β} :
    LeafMost items (fun item => (field (part item)).map (make item)) position value ↔
      ∃ item inner, items[position]? = some item ∧
        LeafMost (items.map part) field position inner ∧ make item inner = value := by
  have absent : ∀ place : Nat,
      items[place]?.bind (fun item => (field (part item)).map (make item)) = none ↔
        (items.map part)[place]?.bind field = none := by
    intro place
    rw [List.getElem?_map]
    cases items[place]? <;> simp
  unfold LeafMost
  simp only [absent]
  rw [List.getElem?_map]
  cases items[position]? with
  | none => simp
  | some item =>
      simp only [Option.bind_some, Option.map_some, Option.map_eq_some_iff, Option.some.injEq]
      constructor
      · rintro ⟨⟨inner, found, made⟩, last⟩
        exact ⟨item, inner, rfl, ⟨found, last⟩, made⟩
      · rintro ⟨_, inner, rfl, ⟨found, last⟩, made⟩
        exact ⟨⟨inner, found, made⟩, last⟩

end LeafMost

/-! ## Declarations from the root to the leaf -/

namespace Declaration

/-- The rule with the given identifier. -/
def rule? (declaration : Declaration) (id : String) : Option RuleDeclaration :=
  declaration.rules.find? (·.id = id)

/-- The description of the given variable. -/
def description? (declaration : Declaration) (name : String) : Option String :=
  (declaration.descriptions.find? (·.1 = name)).map (·.2)

end Declaration

namespace Metadata

/-- What the templates declare, one after the other. -/
def Declares (tiers : List Tier) (declared : List Declaration) : Prop :=
  List.Forall₂ (fun tier one => declaration tier = .ok one) tiers declared

/-- The level of the nearest template with one, among the template at the position and those above
it. -/
def levelAt (declared : List Declaration) (position : Nat) : Enforcement :=
  (((declared.take (position + 1)).filterMap (·.enforcement)).getLast?).getD .advisory

/-- What the templates declare is put together as it should be. -/
structure Merges (metadata : Metadata) (tiers : List Tier) (declared : List Declaration) :
    Prop where
  /-- Without an identifier of its own a chain has the name of its leaf. -/
  templateId : ∀ id, metadata.templateId = id ↔
    (∃ position, LeafMost declared (·.templateId) position id) ∨
      (∀ one ∈ declared, one.templateId = none) ∧ tiers.getLast?.map (·.name) = some id
  version : ∀ version, metadata.version = some version ↔
    ∃ position, LeafMost declared (·.version) position version
  enforcement : metadata.enforcement = levelAt declared (tiers.length - 1)
  described : metadata.descriptions.keys =
    (declared.flatMap fun one => one.descriptions.map (·.1)).eraseDups
  documented : ∀ name, metadata.descriptions.contains name = true ↔
    ∃ one ∈ declared, name ∈ one.descriptions.map (·.1)
  description : ∀ name text, metadata.descriptions.get? name = some text ↔
    ∃ position, LeafMost declared (·.description? name) position text
  ruleIds : metadata.rules.keys = (declared.flatMap fun one => one.rules.map (·.id)).eraseDups
  /-- A rule has the level and the name of the leaf-most template that declares it. -/
  rule : ∀ (id : String) (rule : Rule), metadata.rules.get? id = some rule ↔
    ∃ position tier written, tiers[position]? = some tier ∧
      LeafMost declared (·.rule? id) position written ∧
      rule = ⟨id, written.description, written.criterion, levelAt declared position, tier.name⟩
  rules : ∀ rule, rule ∈ metadata.rules.values ↔ metadata.rules.get? rule.id = some rule
  order : metadata.rules.values.map (·.id) = metadata.rules.keys
  audits : ∀ (position : Nat) (audit : TierAudit), metadata.tiers[position]? = some audit ↔
    ∃ tier one, tiers[position]? = some tier ∧ declared[position]? = some one ∧
      audit = ⟨tier.name, one.templateId, one.version, levelAt declared position,
        one.enforcement.isSome, one.rules.map (·.id)⟩

variable {tiers : List Tier} {declared : List Declaration}

theorem Declares.exists_tier (declares : Declares tiers declared) :
    ∀ one ∈ declared, ∃ tier ∈ tiers, declaration tier = .ok one := by
  induction declares with
  | nil => simp
  | @cons tier one tiers declared here _ ih =>
      refine List.forall_mem_cons.mpr ⟨⟨tier, List.mem_cons_self, here⟩, fun other member => ?_⟩
      obtain ⟨above, isTier, accepted⟩ := ih other member
      exact ⟨above, List.mem_cons_of_mem _ isTier, accepted⟩

theorem Declares.distinct (declares : Declares tiers declared) :
    ∀ one ∈ declared, one.Distinct := by
  intro one member
  obtain ⟨tier, _, accepted⟩ := declares.exists_tier one member
  exact declaration_distinct accepted

/-! ## The levels -/

theorem map_declaration_stages (level : Enforcement) (pairs : List (String × Declaration)) :
    (stages level pairs).map (·.declaration) = pairs.map (·.2) := by
  induction pairs generalizing level with
  | nil => rfl
  | cons pair pairs ih => rw [stages, List.map_cons, ih, List.map_cons]

/-- A level is handed down until a template declares another one. -/
theorem getElem?_stages (level : Enforcement) (pairs : List (String × Declaration))
    (position : Nat) :
    (stages level pairs)[position]? = pairs[position]?.map fun pair =>
      { template := pair.1
        declaration := pair.2
        enforcement := ((((pairs.map (·.2)).take (position + 1)).filterMap
          (·.enforcement)).getLast?).getD level } := by
  induction pairs generalizing level position with
  | nil => rfl
  | cons pair pairs ih =>
      obtain ⟨template, one⟩ := pair
      cases position with
      | zero =>
          cases level : one.enforcement <;> simp [stages, level]
      | succ position =>
          rw [stages, List.getElem?_cons_succ, ih, List.getElem?_cons_succ, List.map_cons,
            List.take_succ_cons, List.filterMap_cons]
          cases one.enforcement with
          | none => rfl
          | some own => simp [List.getLast?_cons]

/-- The stages of templates with their declarations. -/
def merged (tiers : List Tier) (declared : List Declaration) : List Stage :=
  stages .fallback ((tiers.map (·.name)).zip declared)

theorem map_snd_zip (declares : Declares tiers declared) :
    ((tiers.map (·.name)).zip declared).map (·.2) = declared := by
  apply List.map_snd_zip
  rw [List.length_map]
  exact Nat.le_of_eq declares.length_eq.symm

/-- In each template its level holds. -/
theorem getElem?_merged (declares : Declares tiers declared) {position : Nat} {stage : Stage} :
    (merged tiers declared)[position]? = some stage ↔ ∃ tier one, tiers[position]? = some tier ∧
      declared[position]? = some one ∧ stage = ⟨tier.name, one, levelAt declared position⟩ := by
  rw [merged, getElem?_stages, map_snd_zip declares]
  simp only [Option.map_eq_some_iff, List.getElem?_zip_eq_some, List.getElem?_map, levelAt]
  constructor
  · rintro ⟨⟨name, one⟩, ⟨⟨tier, here, rfl⟩, found⟩, rfl⟩
    exact ⟨tier, one, here, found, rfl⟩
  · rintro ⟨tier, one, here, found, rfl⟩
    exact ⟨(tier.name, one), ⟨⟨tier, here, rfl⟩, found⟩, rfl⟩

theorem map_declaration_merged (declares : Declares tiers declared) :
    (merged tiers declared).map (·.declaration) = declared := by
  rw [merged, map_declaration_stages, map_snd_zip declares]

/-- The leaf-most value of a part of the declarations, with the stage that it comes from. -/
theorem leafMost_merged_iff (declares : Declares tiers declared) {α β : Type}
    (field : Declaration → Option α) (make : Stage → α → β) {value : β} :
    (∃ position, LeafMost (merged tiers declared)
      (fun stage => (field stage.declaration).map (make stage)) position value) ↔
    ∃ position tier one inner, tiers[position]? = some tier ∧ declared[position]? = some one ∧
      LeafMost declared field position inner ∧
      value = make ⟨tier.name, one, levelAt declared position⟩ inner := by
  simp only [leafMost_map_iff, map_declaration_merged declares, getElem?_merged declares]
  constructor
  · rintro ⟨position, _, inner, ⟨tier, one, here, found, rfl⟩, leafMost, rfl⟩
    exact ⟨position, tier, one, inner, here, found, leafMost, rfl⟩
  · rintro ⟨position, tier, one, inner, here, found, leafMost, rfl⟩
    exact ⟨position, _, inner, ⟨tier, one, here, found, rfl⟩, leafMost, rfl⟩

/-! ## The rules and the descriptions -/

/-- The rule of a template as it counts for the chain. -/
def Stage.rule (stage : Stage) (written : RuleDeclaration) : Rule :=
  ⟨written.id, written.description, written.criterion, stage.enforcement, stage.template⟩

theorem filter_rules (declares : Declares tiers declared) (id : String) :
    ((merged tiers declared).flatMap Stage.rules).filter (·.id = id) =
      (merged tiers declared).filterMap fun stage =>
        (stage.declaration.rule? id).map stage.rule := by
  rw [List.filter_flatMap, List.filterMap_eq_flatMap_toList]
  apply List.flatMap_congr
  intro stage member
  have distinct : stage.declaration.Distinct := by
    apply declares.distinct
    rw [← map_declaration_merged declares]
    exact List.mem_map_of_mem member
  rw [Stage.rules, List.filter_map, Option.toList_map, Declaration.rule?,
    ← filter_of_nodup distinct.rules id]
  rfl

theorem filter_descriptions (declares : Declares tiers declared) (name : String) :
    ((declared.flatMap (·.descriptions)).filter (·.1 = name)).map (·.2) =
      declared.filterMap (·.description? name) := by
  rw [List.filter_flatMap, List.map_flatMap, List.filterMap_eq_flatMap_toList]
  apply List.flatMap_congr
  intro one member
  rw [filter_of_nodup (declares.distinct one member).descriptions name, Declaration.description?,
    Option.toList_map]

/-- The parts of the declarations, whatever is looked at. -/
theorem flatMap_merged {β : Type} (declares : Declares tiers declared)
    (part : Declaration → List β) :
    ((merged tiers declared).flatMap fun stage => part stage.declaration) =
      declared.flatMap part := by
  conv_rhs => rw [← map_declaration_merged declares, List.flatMap_map]

theorem filterMap_merged {β : Type} (declares : Declares tiers declared)
    (part : Declaration → Option β) :
    ((merged tiers declared).filterMap fun stage => part stage.declaration) =
      declared.filterMap part := by
  conv_rhs => rw [← map_declaration_merged declares, List.filterMap_map]
  rfl

/-- A rule counts as its leaf-most declaration has it, and stays where its first one is. -/
theorem mergedRules_merged (declares : Declares tiers declared) :
    (mergedRules (merged tiers declared)).Indexed ∧
    (mergedRules (merged tiers declared)).keys =
      (declared.flatMap fun one => one.rules.map (·.id)).eraseDups ∧
    ∀ (id : String) (rule : Rule), (mergedRules (merged tiers declared)).get? id = some rule ↔
      ∃ position tier written, tiers[position]? = some tier ∧
        LeafMost declared (·.rule? id) position written ∧ rule =
          ⟨id, written.description, written.criterion, levelAt declared position, tier.name⟩ := by
  obtain ⟨indexed, keys, look⟩ := OrderedMap.foldl_set_empty (fun rule : Rule => rule.id)
    (fun rule => rule) ((merged tiers declared).flatMap Stage.rules)
  refine ⟨indexed, keys.trans ?_, ?_⟩
  · rw [List.map_flatMap, ← flatMap_merged declares]
    simp only [Stage.rules, List.map_map]
    rfl
  · intro id rule
    have named : ∀ {one : Declaration} {written : RuleDeclaration},
        one.rule? id = some written → written.id = id := by
      intro one written found
      simpa using List.find?_some found
    refine (Eq.congr_left (look id)).trans ?_
    rw [filter_rules declares, Option.map_id', getLast?_filterMap_eq_some_iff,
      leafMost_merged_iff declares (·.rule? id) Stage.rule]
    constructor
    · rintro ⟨position, tier, one, written, here, found, leafMost, rfl⟩
      have declaring := leafMost.1
      rw [found, Option.bind_some] at declaring
      refine ⟨position, tier, written, here, leafMost, ?_⟩
      rw [Stage.rule, named declaring]
    · rintro ⟨position, tier, written, here, leafMost, rfl⟩
      obtain ⟨one, found, declaring⟩ := Option.bind_eq_some_iff.mp leafMost.1
      refine ⟨position, tier, one, written, here, found, leafMost, ?_⟩
      rw [Stage.rule, named declaring]

theorem id_of_mergedRules (declares : Declares tiers declared) {id : String} {rule : Rule}
    (found : (mergedRules (merged tiers declared)).get? id = some rule) : rule.id = id := by
  obtain ⟨_, _, _, _, _, rfl⟩ := ((mergedRules_merged declares).2.2 id rule).mp found
  rfl

/-- A variable is described as its leaf-most description has it. -/
theorem mergedDescriptions_merged (declares : Declares tiers declared) :
    (mergedDescriptions (merged tiers declared)).Indexed ∧
    (mergedDescriptions (merged tiers declared)).keys =
      (declared.flatMap fun one => one.descriptions.map (·.1)).eraseDups ∧
    ∀ name text, (mergedDescriptions (merged tiers declared)).get? name = some text ↔
      ∃ position, LeafMost declared (·.description? name) position text := by
  obtain ⟨indexed, keys, look⟩ := OrderedMap.foldl_set_empty
    (fun pair : String × String => pair.1) (fun pair => pair.2)
    (declared.flatMap (·.descriptions))
  rw [mergedDescriptions, flatMap_merged declares]
  refine ⟨indexed, keys.trans (by rw [List.map_flatMap]), ?_⟩
  intro name text
  refine (Eq.congr_left (look name)).trans ?_
  rw [← List.getLast?_map, filter_descriptions declares, getLast?_filterMap_eq_some_iff]

/-! ## The declarations of a chain -/

theorem templateId_merged (declares : Declares tiers declared) {leaf : String}
    (isLeaf : tiers.getLast?.map (·.name) = some leaf) (id : String) :
    (ofStages leaf (merged tiers declared)).templateId = id ↔
      (∃ position, LeafMost declared (·.templateId) position id) ∨
        (∀ one ∈ declared, one.templateId = none) ∧ tiers.getLast?.map (·.name) = some id := by
  rw [ofStages, filterMap_merged declares (·.templateId), ← getLast?_filterMap_eq_some_iff,
    isLeaf, ← List.filterMap_eq_nil_iff, ← List.getLast?_eq_none_iff]
  cases (declared.filterMap (·.templateId)).getLast? <;> simp

theorem lastLevel_merged (declares : Declares tiers declared) (notEmpty : tiers ≠ []) :
    lastLevel (merged tiers declared) = levelAt declared (tiers.length - 1) := by
  have length : (merged tiers declared).length = tiers.length := by
    rw [← List.length_map (·.declaration), map_declaration_merged declares, declares.length_eq]
  have positive := List.length_pos_of_ne_nil notEmpty
  have here := List.getElem?_eq_getElem (Nat.sub_one_lt_of_lt positive)
  have found := List.getElem?_eq_getElem
    (declares.length_eq ▸ Nat.sub_one_lt_of_lt positive : tiers.length - 1 < declared.length)
  have last := (getElem?_merged declares).mpr ⟨_, _, here, found, rfl⟩
  rw [lastLevel, List.getLast?_eq_getElem?, length, last]
  rfl

theorem merges_merged (declares : Declares tiers declared) {leaf : String}
    (isLeaf : tiers.getLast?.map (·.name) = some leaf) :
    (ofStages leaf (merged tiers declared)).Merges tiers declared where
  templateId := templateId_merged declares isLeaf
  version version := by
    rw [ofStages, filterMap_merged declares (·.version), getLast?_filterMap_eq_some_iff]
  enforcement := by
    apply lastLevel_merged declares
    rintro rfl
    cases isLeaf
  described := (mergedDescriptions_merged declares).2.1
  documented name := by
    obtain ⟨indexed, keys, _⟩ := mergedDescriptions_merged declares
    refine (indexed.contains_iff).trans ?_
    rw [keys, List.mem_eraseDups, List.mem_flatMap]
  description := (mergedDescriptions_merged declares).2.2
  ruleIds := (mergedRules_merged declares).2.1
  rule := (mergedRules_merged declares).2.2
  order := (mergedRules_merged declares).1.map_values fun _ _ => id_of_mergedRules declares
  rules rule := (mergedRules_merged declares).1.mem_values_iff fun _ _ => id_of_mergedRules declares
  audits position audit := by
    rw [ofStages, List.getElem?_map, Option.map_eq_some_iff]
    simp only [getElem?_merged declares]
    constructor
    · rintro ⟨_, ⟨tier, one, here, found, rfl⟩, rfl⟩
      exact ⟨tier, one, here, found, rfl⟩
    · rintro ⟨tier, one, here, found, rfl⟩
      exact ⟨_, ⟨tier, one, here, found, rfl⟩, rfl⟩

/-- The declarations are read one after the other, each with the name of its template. -/
theorem mapM_named (tiers : List Tier) :
    (tiers.mapM fun tier => return (tier.name, ← declaration tier)) =
      (tiers.mapM declaration).map fun declared => (tiers.map (·.name)).zip declared := by
  induction tiers with
  | nil => rfl
  | cons tier tiers ih =>
      rw [List.mapM_cons, List.mapM_cons, ih]
      cases declaration tier with
      | error failure => rfl
      | ok one => cases tiers.mapM declaration <;> rfl

theorem ofChain_eq (chain : Chain) :
    ofChain chain = (chain.tiers.mapM declaration).map fun declared =>
      ofStages chain.leaf.name (merged chain.tiers declared) := by
  rw [ofChain, mapM_named]
  cases chain.tiers.mapM declaration <;> rfl

theorem ofChain_eq_ok_iff {chain : Chain} {metadata : Metadata} :
    ofChain chain = .ok metadata ↔ ∃ declared, Declares chain.tiers declared ∧
      metadata = ofStages chain.leaf.name (merged chain.tiers declared) := by
  simp only [Declares, ← mapM_eq_ok_iff]
  rw [ofChain_eq, map_eq_ok_iff]
  exact exists_congr fun declared => and_congr_right' eq_comm

theorem ofChain_eq_error_iff {chain : Chain} {failure : Failure} :
    ofChain chain = .error failure ↔ ∃ above tier below, chain.tiers = above ++ tier :: below ∧
      declaration tier = .error failure ∧ ∀ other ∈ above, ∃ one, declaration other = .ok one := by
  rw [← mapM_eq_error_iff, ofChain_eq, map_eq_error_iff]

theorem getLast?_tiers (chain : Chain) :
    chain.tiers.getLast?.map (·.name) = some chain.leaf.name := by
  rw [List.getLast?_eq_some_getLast chain.tiers_ne_nil]
  rfl

/-- The declarations of a chain are rejected exactly if that of some template is, with the failure
of the first such template from the root on.  Such a failure says what is wrong with the declaring
comments of the template, if its text can be cut into segments at all, as the texts of a chain can
that a resolution finds.  Otherwise what the templates declare is put together. -/
theorem ofChain_merges (chain : Chain) :
    (∀ failure, ofChain chain = .error failure ↔ ∃ above tier below,
      chain.tiers = above ++ tier :: below ∧ declaration tier = .error failure ∧
        ∀ other ∈ above, ∃ one, declaration other = .ok one) ∧
    (∀ tier ∈ chain.tiers, ∀ segments, Segment.ofTemplate tier.source.text.toList = .ok segments →
      ∀ failure, declaration tier = .error failure ↔ ∃ defect,
        Declaration.ofSegments segments = .error defect ∧
          failure = .malformedMetadata tier.name defect.message) ∧
    ∀ metadata, ofChain chain = .ok metadata → ∃ declared, Declares chain.tiers declared ∧
      (∀ one ∈ declared, one.Distinct) ∧ metadata.Merges chain.tiers declared := by
  refine ⟨fun failure => ofChain_eq_error_iff, ?_, ?_⟩
  · intro tier _ segments cut failure
    exact declaration_eq_error_iff cut
  · intro metadata done
    obtain ⟨declared, declares, rfl⟩ := ofChain_eq_ok_iff.mp done
    exact ⟨declared, declares, declares.distinct, merges_merged declares (getLast?_tiers chain)⟩

end Metadata

end Lineage
