import Lineage.Metadata
import Lineage.Proofs.Outcomes
import Mathlib.Data.List.Nodup

/-!
# What one template declares

A declaration that is accepted names no rule and describes no variable twice
(`Declaration.Distinct`): the identifiers are compared as the rules are read, and the variables are
the keys of a mapping.  A template whose text can be cut into segments is rejected exactly if its
declaring comments are, and the failure names the template (`Metadata.declaration_eq_error_iff`).
-/

namespace Lineage

open Lineage.Template Lineage.Yaml

/-- No rule is named and no variable described twice. -/
structure Declaration.Distinct (declaration : Declaration) : Prop where
  rules : (declaration.rules.map (·.id)).Nodup
  descriptions : (declaration.descriptions.map (·.1)).Nodup

/-! ## Rules -/

namespace RuleDeclaration

variable {earlier : List String}

theorem ofWritten_id {rule : WrittenRule} {declared : RuleDeclaration}
    (accepted : ofWritten earlier rule = .ok declared) :
    declared.id = rule.id ∧ rule.id ∉ earlier := by
  unfold ofWritten at accepted
  split at accepted
  · cases accepted
  · split at accepted
    · cases accepted
    · rename_i new
      split at accepted
      · cases accepted
        exact ⟨rfl, by simpa using new⟩
      · cases accepted

/-- Rules that are accepted have different identifiers, and none of an earlier rule. -/
theorem allOfWritten_ids {rules : List WrittenRule} {declared : List RuleDeclaration}
    (accepted : allOfWritten earlier rules = .ok declared) :
    (declared.map (·.id)).Nodup ∧ ∀ one ∈ declared, one.id ∉ earlier := by
  induction rules generalizing earlier declared with
  | nil =>
      cases accepted
      simp
  | cons rule rules ih =>
      obtain ⟨first, here, further⟩ := bind_eq_ok_iff.mp accepted
      obtain ⟨others, rest, same⟩ := bind_eq_ok_iff.mp further
      cases same
      obtain ⟨named, new⟩ := ofWritten_id here
      obtain ⟨distinct, newOthers⟩ := ih rest
      constructor
      · rw [List.map_cons, List.nodup_cons]
        refine ⟨?_, distinct⟩
        intro member
        obtain ⟨other, isOther, same⟩ := List.mem_map.mp member
        exact newOthers other isOther (by rw [same, named]; exact List.mem_cons_self)
      · rw [List.forall_mem_cons]
        refine ⟨named ▸ new, ?_⟩
        intro other isOther member
        exact newOthers other isOther (List.mem_cons_of_mem _ member)

end RuleDeclaration

/-! ## Descriptions -/

/-- A field that is read is read from some node. -/
theorem Yaml.exists_of_optionalField? {α : Type} {fields : List (String × Yaml.Node)}
    {name : String} {read : Yaml.Node → Option α} {value : α}
    (found : optionalField? fields name read = some (some value)) :
    ∃ node, read node = some value := by
  have present : ∀ node : Yaml.Node, (read node).map some = some (some value) →
      read node = some value := by
    intro node isRead
    simpa using isRead
  unfold optionalField? at found
  split at found
  · cases found
  · rename_i node _
    refine ⟨node, present node ?_⟩
    unfold Node.optional? at found
    split at found
    · split at found
      · split at found <;> cases found
      · split at found
        · cases found
        · exact found
    · exact found

theorem hasRepeatedKey_of_mappingValues? {node : Yaml.Node} {pairs : List (Value × Value)}
    (read : mappingValues? node = some pairs) : hasRepeatedKey pairs = false := by
  simp only [mappingValues?, Option.bind_eq_bind, Option.bind_eq_some_iff] at read
  obtain ⟨_, _, _, _, kept⟩ := read
  split at kept
  · cases kept
  · rename_i single
    cases kept
    simpa using single

/-- The descriptions of a declaration are a mapping in which no key stands twice. -/
theorem WrittenDeclaration.hasRepeatedKey_of_ofText? {text : List Char}
    {written : WrittenDeclaration} {pairs : List (Value × Value)}
    (read : ofText? text = some written) (described : written.descriptions = some pairs) :
    hasRepeatedKey pairs = false := by
  unfold ofText? at read
  split at read
  · cases read
    cases described
  · split at read
    · simp only [ofNode?, Option.bind_eq_bind, Option.bind_eq_some_iff] at read
      obtain ⟨fields, _, templateId, _, version, _, enforcement, _, descriptions, found, rest⟩ :=
        read
      have isField : written.descriptions = descriptions := by
        split at rest
        · obtain ⟨rules, _, same⟩ := Option.bind_eq_some_iff.mp rest
          cases same
          rfl
        · obtain ⟨rules, _, same⟩ := Option.bind_eq_some_iff.mp rest
          cases same
          rfl
      rw [← isField, described] at found
      obtain ⟨node, isRead⟩ := exists_of_optionalField? found
      exact hasRepeatedKey_of_mappingValues? isRead
    · cases read
      cases described
    · cases read

theorem nodup_of_hasRepeatedKey {names : List String} {pairs : List (Value × Value)}
    (single : hasRepeatedKey pairs = false) (keys : pairs.map (·.1) = names.map Value.string) :
    names.Nodup := by
  induction names generalizing pairs with
  | nil => exact List.nodup_nil
  | cons name names ih =>
      cases pairs with
      | nil => cases keys
      | cons pair pairs =>
          rw [List.map_cons, List.map_cons, List.cons.injEq] at keys
          rw [hasRepeatedKey, Bool.or_eq_false_iff] at single
          refine List.nodup_cons.mpr ⟨?_, ih single.2 keys.2⟩
          intro member
          have inKeys : Value.string name ∈ pairs.map (·.1) :=
            keys.2 ▸ List.mem_map_of_mem member
          obtain ⟨other, isOther, same⟩ := List.mem_map.mp inKeys
          have different := List.any_eq_false.mp single.1 other isOther
          rw [same, keys.1] at different
          exact different (beq_self_eq_true name)

/-- A described variable has a string as its key. -/
theorem descriptionOfPair_eq_ok {pair : Value × Value} {described : String × String}
    (accepted : descriptionOfPair pair = .ok described) : pair.1 = .string described.1 := by
  unfold descriptionOfPair at accepted
  split at accepted
  · cases accepted
    rfl
  · cases accepted

theorem map_fst_descriptions {pairs : List (Value × Value)} {described : List (String × String)}
    (accepted : pairs.mapM descriptionOfPair = .ok described) :
    pairs.map (·.1) = (described.map (·.1)).map Value.string := by
  have each := mapM_eq_ok_iff.mp accepted
  clear accepted
  induction each with
  | nil => rfl
  | cons here _ ih =>
      rw [List.map_cons, ih, descriptionOfPair_eq_ok here]
      rfl

/-! ## Declarations -/

theorem Declaration.nothing_distinct : Declaration.nothing.Distinct :=
  ⟨List.nodup_nil, List.nodup_nil⟩

theorem Declaration.ofText_distinct {text : List Char} {declaration : Declaration}
    (accepted : ofText text = .ok declaration) : declaration.Distinct := by
  unfold ofText at accepted
  split at accepted
  · rename_i written read
    simp only [ofWritten, bind_eq_ok_iff] at accepted
    obtain ⟨version, _, enforcement, _, described, descriptions, rules, declared, same⟩ := accepted
    cases same
    refine ⟨(RuleDeclaration.allOfWritten_ids declared).1, ?_⟩
    have single : hasRepeatedKey (written.descriptions.getD []) = false := by
      cases isWritten : written.descriptions with
      | none => rfl
      | some pairs => exact WrittenDeclaration.hasRepeatedKey_of_ofText? read isWritten
    exact nodup_of_hasRepeatedKey single (map_fst_descriptions descriptions)
  · cases accepted

/-- What segments declare is written in one comment. -/
theorem Declaration.exists_of_ofSegments {segments : List Segment} {declaration : Declaration}
    (accepted : ofSegments segments = .ok (some declaration)) :
    ∃ text, ofText text = .ok declaration := by
  unfold ofSegments at accepted
  split at accepted
  · cases accepted
  · rename_i text _ _
    cases isRead : ofText text with
    | error defect =>
        rw [isRead] at accepted
        cases accepted
    | ok found =>
        rw [isRead] at accepted
        cases accepted
        exact ⟨text, isRead⟩
  · cases accepted

namespace Metadata

variable {tier : Tier}

/-- The declaration of a template whose text can be cut into segments. -/
theorem declaration_eq {segments : List Segment}
    (cut : Segment.ofTemplate tier.source.text.toList = .ok segments) :
    declaration tier =
      match Declaration.ofSegments segments with
      | .ok declaration => .ok (declaration.getD .nothing)
      | .error defect => .error (.malformedMetadata tier.name defect.message) := by
  unfold declaration Declaration.ofTemplate
  rw [cut]
  dsimp only
  cases Declaration.ofSegments segments <;> rfl

/-- A template is rejected exactly if its declaring comments are. -/
theorem declaration_eq_error_iff {segments : List Segment} {failure : Failure}
    (cut : Segment.ofTemplate tier.source.text.toList = .ok segments) :
    declaration tier = .error failure ↔ ∃ defect, Declaration.ofSegments segments = .error defect ∧
      failure = .malformedMetadata tier.name defect.message := by
  rw [declaration_eq cut]
  cases Declaration.ofSegments segments with
  | ok declaration => simp
  | error defect => simp [eq_comm]

/-- A template declares nothing, or what is written in one of its comments. -/
theorem declaration_cases {one : Declaration} (accepted : declaration tier = .ok one) :
    one = .nothing ∨ ∃ text, Declaration.ofText text = .ok one := by
  cases cut : Segment.ofTemplate tier.source.text.toList with
  | error fault =>
      rw [declaration, Declaration.ofTemplate, cut] at accepted
      cases accepted
  | ok segments =>
      rw [declaration_eq cut] at accepted
      cases found : Declaration.ofSegments segments with
      | error defect =>
          rw [found] at accepted
          cases accepted
      | ok declared =>
          rw [found] at accepted
          cases accepted
          cases declared with
          | none => exact Or.inl rfl
          | some declaration => exact Or.inr (Declaration.exists_of_ofSegments found)

theorem declaration_distinct {one : Declaration} (accepted : declaration tier = .ok one) :
    one.Distinct := by
  rcases declaration_cases accepted with rfl | ⟨text, isRead⟩
  · exact Declaration.nothing_distinct
  · exact Declaration.ofText_distinct isRead

end Metadata

end Lineage
