import Lineage.Proofs.Contents
import Lineage.Proofs.StampedLines
import Lineage.Samples
import Lineage.Text.Digit
import Mathlib.Data.List.TakeWhile

/-!
# Stamps that chains ask for

A rule may ask for a stamp with the identifier of the chain and its version.  A version is always
written without a blank (`Version.isPart_toText`), but the identifier is any text that a template
declares, or the name of the leaf.  What is read as a stamp has an identifier of at least one
character and without a blank (`Stamp.all_isWhole`).

The main result says that the line with the stamp which is asked for passes every such rule if the
identifier is of this kind, and that otherwise every such rule fails with every content.
-/

namespace Lineage

open Lineage.Text

/-! ## What is read as a stamp -/

namespace Stamp

/-- The identifier and the version, if there is one, are parts that a stamp can have. -/
structure IsWhole (stamp : Stamp) : Prop where
  template : IsPart stamp.template
  version : ∀ version ∈ stamp.version, IsPart version

variable {number fuel : Nat} {text rest : List Char} {stamp : Stamp}

theorem isPart_of_word? {word : List Char} (read : word? text = some (word, rest)) :
    IsPart (String.ofList word) := by
  simp only [word?, Option.ite_none_left_eq_some, Option.some.injEq, Prod.mk.injEq] at read
  obtain ⟨filled, rfl, rfl⟩ := read
  constructor
  · simpa [← String.toList_inj] using filled
  · intro c member
    rw [String.toList_ofList] at member
    simpa using List.mem_takeWhile_imp member

theorem isPart_of_version? {version : List Char} (read : version? text = some (version, rest)) :
    IsPart (String.ofList version) := by
  unfold version? at read
  split at read
  · obtain ⟨_, _, isWord⟩ := Option.bind_eq_some_iff.mp read
    exact isPart_of_word? isWord
  · cases read

theorem first?_isWhole (found : first? number text = some (stamp, rest)) : stamp.IsWhole := by
  simp only [first?, Option.bind_eq_bind, Option.bind_eq_some_iff] at found
  obtain ⟨_, _, _, _, ⟨template, behind⟩, isWord, found⟩ := found
  have isTemplate := isPart_of_word? isWord
  split at found
  · rename_i version after isVersion
    cases found
    exact ⟨isTemplate, by simpa using isPart_of_version? isVersion⟩
  · cases found
    exact ⟨isTemplate, by simp⟩

theorem inLine_isWhole : ∀ stamp ∈ inLine number fuel text, stamp.IsWhole := by
  induction fuel generalizing text with
  | zero => simp [inLine]
  | succ fuel ih =>
      cases text with
      | nil => simp [inLine]
      | cons c text =>
          rw [inLine]
          split
          · rename_i found
            exact List.forall_mem_cons.mpr ⟨first?_isWhole found, ih⟩
          · exact ih

/-- Whatever is read as a stamp in a content has parts that a stamp can have. -/
theorem all_isWhole (content : List Char) : ∀ stamp ∈ all content, stamp.IsWhole := by
  intro stamp member
  obtain ⟨_, _, inside⟩ := List.mem_flatMap.mp member
  exact inLine_isWhole stamp inside

end Stamp

/-! ## How versions are written -/

namespace Version

variable {text : List Char} {version : Version}

theorem noBlank_of_isIdentifiers {strict : Bool} (identifiers : isIdentifiers strict text = true) :
    ∀ c ∈ text, isBlank c = false := by
  intro c member
  rw [← joinWith_splitAt '.' text] at member
  rcases mem_joinWith member with rfl | ⟨part, isPart, inside⟩
  · decide
  · simp only [isIdentifiers, List.all_eq_true, Bool.and_eq_true, isIdentifierChar,
      Bool.or_eq_true, beq_iff_eq] at identifiers
    rcases (identifiers part isPart).1.2 c inside with alphanumeric | rfl
    · exact isBlank_of_isAlphanum alphanumeric
    · decide

theorem noBlank_of_parse? (read : parse? text = some version) :
    (∀ c ∈ version.preRelease.toList, isBlank c = false) ∧
      ∀ c ∈ version.build.toList, isBlank c = false := by
  simp only [parse?, Option.bind_eq_bind, Option.bind_eq_some_iff] at read
  obtain ⟨⟨major, _⟩, _, ⟨minor, _⟩, _, ⟨patch, rest⟩, _, read⟩ := read
  dsimp only at read
  split at read
  · cases read
    simp
  · rename_i more
    split at read
    · cases read
    · rename_i isPreRelease
      simp only [Bool.not_eq_true, Bool.not_eq_false'] at isPreRelease
      have preRelease := noBlank_of_isIdentifiers isPreRelease
      split at read
      · cases read
        exact ⟨by rwa [String.toList_ofList], by simp⟩
      · split at read
        · rename_i isBuild
          cases read
          have build := noBlank_of_isIdentifiers isBuild
          exact ⟨by rwa [String.toList_ofList], by rwa [String.toList_ofList]⟩
        · cases read
  · split at read
    · rename_i isBuild
      cases read
      have build := noBlank_of_isIdentifiers isBuild
      exact ⟨by simp, by rwa [String.toList_ofList]⟩
    · cases read
  · cases read

theorem noBlank_toString (n : Nat) : ∀ c ∈ (toString n).toList, isBlank c = false := by
  intro c member
  exact isBlank_of_isAlphanum (by rw [Char.isAlphanum, isDigit_of_mem_toString member, Bool.or_true])

/-- A version that has been read is written without a blank. -/
theorem isPart_toText (read : parse? text = some version) : Stamp.IsPart version.toText := by
  obtain ⟨preRelease, build⟩ := noBlank_of_parse? read
  have marked : ∀ mark part : String, (∀ c ∈ mark.toList, isBlank c = false) →
      (∀ c ∈ part.toList, isBlank c = false) →
        ∀ c ∈ (if part.isEmpty then "" else mark ++ part).toList, isBlank c = false := by
    intro mark part isMark isPart
    split
    · exact nofun
    · rw [String.toList_append, List.forall_mem_append]
      exact ⟨isMark, isPart⟩
  have plain : ∀ {sign : String} (c : Char), sign.toList = [c] → isBlank c = false →
      ∀ c ∈ sign.toList, isBlank c = false := by
    intro sign c spelled isPlain
    rwa [spelled, List.forall_mem_singleton]
  have dot := plain '.' (rfl : ".".toList = _) (by decide)
  have hyphen := plain '-' (rfl : "-".toList = _) (by decide)
  have plus := plain '+' (rfl : "+".toList = _) (by decide)
  constructor
  · intro empty
    simpa [toText] using congrArg String.toList empty
  · simp only [toText, String.toList_append, List.forall_mem_append]
    exact ⟨⟨⟨⟨⟨⟨noBlank_toString _, dot⟩, noBlank_toString _⟩, dot⟩, noBlank_toString _⟩,
      marked "-" _ hyphen preRelease⟩, marked "+" _ plus build⟩

/-- The version that a value writes is written without a blank. -/
theorem isPart_of_ofValue {value : Yaml.Value} (read : ofValue value = .ok version) :
    Stamp.IsPart version.toText := by
  unfold ofValue at read
  split at read
  · cases read
  · split at read
    · rename_i parsed
      cases read
      exact isPart_toText parsed
    · cases read

end Version

/-- The version that a template declares is written without a blank. -/
theorem Declaration.isPart_version {text : List Char} {declaration : Declaration}
    (accepted : ofText text = .ok declaration) :
    ∀ version ∈ declaration.version, Stamp.IsPart version.toText := by
  unfold ofText at accepted
  split at accepted
  · rename_i written _
    simp only [ofWritten, bind_eq_ok_iff] at accepted
    obtain ⟨version, isVersion, _, _, _, _, _, _, same⟩ := accepted
    cases same
    cases isWritten : written.version with
    | none =>
        rw [isWritten] at isVersion
        cases isVersion
        simp
    | some value =>
        rw [isWritten] at isVersion
        obtain ⟨found, read, same⟩ := bind_eq_ok_iff.mp isVersion
        cases same
        simpa using Version.isPart_of_ofValue read
  · cases accepted

namespace Metadata

variable {chain : Chain} {metadata : Metadata}

/-- The version of a chain is written without a blank. -/
theorem isPart_version (merged : ofChain chain = .ok metadata) :
    ∀ version ∈ metadata.version, Stamp.IsPart version.toText := by
  intro version isVersion
  obtain ⟨declared, declares, rfl⟩ := ofChain_eq_ok_iff.mp merged
  obtain ⟨position, isLast, _⟩ :=
    ((merges_merged declares (getLast?_tiers chain)).version version).mp isVersion
  obtain ⟨one, found, declaresVersion⟩ := Option.bind_eq_some_iff.mp isLast
  obtain ⟨tier, _, accepted⟩ := declares.exists_tier one (List.mem_of_getElem? found)
  rcases declaration_cases accepted with rfl | ⟨text, isRead⟩
  · cases declaresVersion
  · exact Declaration.isPart_version isRead version declaresVersion

/-! ## The stamp that is asked for -/

/-- The line with the stamp that is asked for: the identifier of the chain, and the version if there
is one. -/
def stampLine (metadata : Metadata) : StampLine :=
  ⟨[], metadata.templateId, metadata.version.map (·.toText)⟩

/-- The line carries the stamp, if the identifier can be that of a stamp. -/
theorem stampedIn_stampLine (merged : ofChain chain = .ok metadata)
    (isPart : Stamp.IsPart metadata.templateId) : metadata.StampedIn metadata.stampLine.text := by
  have readable : ∀ line ∈ [metadata.stampLine], line.IsReadable := by
    rw [List.forall_mem_singleton]
    refine ⟨nofun, ?_, isPart, ?_⟩
    · exact fun inLead => absurd (List.infix_nil.mp inLead) (by decide)
    · simpa [stampLine] using isPart_version merged
  have read : Stamp.all metadata.stampLine.text = [metadata.stampLine.stamp 1] :=
    Stamp.all_of_lines readable (StampLine.lines_content readable (List.cons_ne_nil _ _)).1
  rw [StampedIn, read]
  refine ⟨_, List.mem_singleton_self _, rfl, ?_⟩
  intro version isVersion
  rw [StampLine.stamp, stampLine, isVersion]
  rfl

/-- No content carries a stamp with another identifier. -/
theorem isPart_of_stampedIn {content : List Char} (stamped : metadata.StampedIn content) :
    Stamp.IsPart metadata.templateId := by
  obtain ⟨stamp, member, named, _⟩ := stamped
  exact named ▸ (Stamp.all_isWhole content stamp member).template

end Metadata

/-- A chain of one template has what that template declares. -/
theorem Metadata.ofChain_single {tier : Tier} {one : Declaration}
    (accepted : declaration tier = .ok one) :
    ∃ metadata, ofChain ⟨[tier], List.cons_ne_nil _ _⟩ = .ok metadata ∧
      metadata.templateId = one.templateId.getD tier.name ∧ metadata.version = one.version ∧
      metadata.rules.values = one.rules.map fun rule =>
        ⟨rule.id, rule.description, rule.criterion, one.enforcement.getD .fallback, tier.name⟩ := by
  have merged : ofChain ⟨[tier], List.cons_ne_nil _ _⟩ =
      .ok (ofStages tier.name (stages .fallback [(tier.name, one)])) := by
    rw [ofChain, List.mapM_cons, accepted]
    rfl
  refine ⟨_, merged, ?_, ?_, ?_⟩
  · simp only [ofStages, stages, List.filterMap_cons, List.filterMap_nil]
    cases one.templateId <;> rfl
  · simp only [ofStages, stages, List.filterMap_cons, List.filterMap_nil]
    cases one.version <;> rfl
  · have distinct : ((OrderedMap.empty : OrderedMap Rule).keys ++
        (Stage.rules ⟨tier.name, one, one.enforcement.getD .fallback⟩).map fun rule =>
          rule.id).Nodup := by
      rw [Stage.rules, List.map_map]
      exact (declaration_distinct accepted).rules
    have built := OrderedMap.indexed_empty.foldl_set distinct
    simp only [ofStages, stages, mergedRules, List.flatMap_cons, List.flatMap_nil, List.append_nil]
    rw [OrderedMap.values, built.2]
    simp [OrderedMap.empty, OrderedMap.toList, Stage.rules]

/-- The structural check of a criterion. -/
def Criterion.check? : Criterion → Option Check
  | .content .. => none
  | .structural check => some check

theorem Criterion.check?_eq_some_iff {criterion : Criterion} {check : Check} :
    criterion.check? = some check ↔ criterion = .structural check := by
  cases criterion <;> simp [check?]

/-- The analysis of a template without blocks that declares one rule, which asks for a stamp. -/
theorem Analysis.exists_stamped (tier : Tier) (id : String) (version : Option Version)
    (noBlocks : BlockIndex.ofChain ⟨[tier], List.cons_ne_nil _ _⟩ = .ok .empty)
    (declares : ((Metadata.declaration tier).toOption.map fun one =>
      (one.templateId, one.version, one.rules.map (·.criterion.check?))) =
        some (some id, version, [some .stamped])) :
    ∃ analysis rule, ofChain ⟨[tier], List.cons_ne_nil _ _⟩ = .ok analysis ∧
      Metadata.ofChain ⟨[tier], List.cons_ne_nil _ _⟩ = .ok analysis.metadata ∧
      analysis.metadata.templateId = id ∧ analysis.metadata.version = version ∧
      analysis.metadata.rules.values[0]? = some rule ∧ rule.criterion = .structural .stamped := by
  cases accepted : Metadata.declaration tier with
  | error failure =>
      rw [accepted] at declares
      cases declares
  | ok one =>
      simp only [accepted, Except.toOption, Option.map_some, Option.some.injEq,
        Prod.mk.injEq] at declares
      obtain ⟨isId, isVersion, isRule⟩ := declares
      obtain ⟨metadata, merged, named, versioned, rules⟩ := Metadata.ofChain_single accepted
      obtain ⟨written, isWritten, checks⟩ := List.map_eq_singleton_iff.mp isRule
      rw [isWritten] at rules
      refine ⟨⟨.ofChain ⟨[tier], List.cons_ne_nil _ _⟩, .empty, metadata⟩, _, ?_, merged, ?_,
        versioned.trans isVersion, congrArg (·[0]?) rules, Criterion.check?_eq_some_iff.mp checks⟩
      · rw [ofChain, noBlocks, merged]
        rfl
      · rw [named, isId]
        rfl

/-! ## Verdicts on stamps -/

/-- A failure names the stamp that is asked for. -/
theorem Verdict.infix_ofStamps {templateId : String} {version : Option String} {stamps : List Stamp}
    (failed : (ofStamps templateId version stamps).status = .failed) :
    (Stamp.toText ⟨templateId, version, 0⟩).toList <:+:
      (ofStamps templateId version stamps).reason.toList := by
  unfold ofStamps at failed ⊢
  split at failed
  · cases failed
  · rename_i notFound
    rw [if_neg notFound]
    cases stamps with
    | nil =>
        simp only [String.toList_append]
        exact List.infix_append _ _ _
    | cons found others =>
        simp only [String.toList_append]
        exact (List.suffix_append _ _).isInfix

namespace Analysis

variable {chain : Chain} {analysis : Analysis}

theorem status_stamped (content : List Char) :
    ((analysis.verdict (some content) (.structural .stamped)).status = .passed ↔
        analysis.metadata.StampedIn content) ∧
      (analysis.verdict (some content) (.structural .stamped)).status ≠ .skipped := by
  have decides := Verdict.decides_ofStamps analysis.metadata.templateId
    (analysis.metadata.version.map (·.toText)) (Stamp.all content)
  rw [stampedIn_iff] at decides
  exact ⟨decides.passed, decides.notSkipped⟩

/-- A rule that asks for a stamp passes with the line that holds it exactly if the identifier of the
chain has a character and no blank.  With another identifier the rule fails with every content.  The
message of a failure names the stamp that is asked for. -/
theorem validate_stamped (merged : Metadata.ofChain chain = .ok analysis.metadata)
    (template : String) {position : Nat} {rule : Rule}
    (isRule : analysis.metadata.rules.values[position]? = some rule)
    (stamped : rule.criterion = .structural .stamped) (content : String) :
    ∃ result, (analysis.validate template (some content)).results[position]? = some result ∧
      result.ruleId = rule.id ∧
      (content.toList = analysis.metadata.stampLine.text →
        (result.status = .passed ↔ Stamp.IsPart analysis.metadata.templateId)) ∧
      (¬ Stamp.IsPart analysis.metadata.templateId → result.status = .failed) ∧
      (result.status = .failed →
        (analysis.metadata.stampLine.stamp 0).toText.toList <:+: result.message.toList) := by
  obtain ⟨passed, notSkipped⟩ := analysis.status_stamped content.toList
  refine ⟨analysis.result (some content.toList) rule, ?_, rfl, ?_, ?_, ?_⟩
  · rw [getElem?_results, isRule]
    rfl
  · intro isLine
    rw [result, stamped, passed]
    constructor
    · exact Metadata.isPart_of_stampedIn
    · intro isPart
      rw [isLine]
      exact Metadata.stampedIn_stampLine merged isPart
  · intro notPart
    have notPassed := mt passed.mp (mt Metadata.isPart_of_stampedIn notPart)
    rw [result, stamped]
    cases status : (analysis.verdict (some content.toList) (.structural .stamped)).status with
    | passed => exact absurd status notPassed
    | failed => rfl
    | skipped => exact absurd status notSkipped
  · intro failed
    rw [result, stamped] at failed ⊢
    have named := Verdict.infix_ofStamps failed
    dsimp only
    split
    · exact named
    · rw [String.toList_append]
      exact named.trans (List.suffix_append _ _).isInfix

/-- An identifier that looks like a part of a stamp, and a pre-release. -/
theorem validate_stamped_preRelease :
    let page := Source.ofText (Sample.comment
      ("scaffold:metadata\ntemplate_id: a=version=b\nversion: 1.0.0-rc.1\n" ++
        "rules: [\x7bid: mark, check: scaffold_stamp\x7d]"))
    let chain : Chain := ⟨[⟨"page", page, "page", []⟩], List.cons_ne_nil _ _⟩
    ∃ (analysis : Analysis) (rule : Rule) (result : RuleResult),
      Metadata.ofChain chain = .ok analysis.metadata ∧
      analysis.metadata.rules.values[0]? = some rule ∧ rule.criterion = .structural .stamped ∧
      (analysis.validate "page"
        (some "SCAFFOLD: template=a=version=b version=1.0.0-rc.1")).results[0]? = some result ∧
      result.status = .passed := by
  intro page chain
  obtain ⟨analysis, rule, _, merged, id, version, isRule, stamped⟩ :=
    exists_stamped ⟨"page", page, "page", []⟩ "a=version=b" (some ⟨1, 0, 0, "rc.1", ""⟩) rfl
      (by decide +kernel)
  obtain ⟨result, isResult, _, judged, _⟩ := validate_stamped merged "page" isRule stamped
    "SCAFFOLD: template=a=version=b version=1.0.0-rc.1"
  refine ⟨analysis, rule, result, merged, isRule, stamped, isResult, (judged ?_).mpr ?_⟩
  · rw [Metadata.stampLine, id, version]
    decide +kernel
  · rw [id]
    decide

/-- An identifier of two words is read back as the first of them, so the line with the stamp that is
asked for fails. -/
theorem validate_stamped_twoWords :
    let page := Source.ofText (Sample.comment
      ("scaffold:metadata\ntemplate_id: page layout\nversion: 1.2.0\nenforcement: STRICT\n" ++
        "rules: [\x7bid: mark, check: scaffold_stamp\x7d]"))
    let chain : Chain := ⟨[⟨"page", page, "page", []⟩], List.cons_ne_nil _ _⟩
    (Resolution.run ⟨Library.lookup ⟨[("page", page)]⟩, "page", 1⟩ .empty).1 = .ok chain ∧
      ∃ analysis rule result, ofChain chain = .ok analysis ∧
        analysis.metadata.templateId = "page layout" ∧
        analysis.metadata.version = some ⟨1, 2, 0, "", ""⟩ ∧
        analysis.metadata.rules.values[0]? = some rule ∧ rule.criterion = .structural .stamped ∧
        (analysis.validate "page"
          (some "SCAFFOLD: template=page layout version=1.2.0")).results[0]? = some result ∧
        result.status = .failed := by
  intro page chain
  have found : (Resolution.run ⟨Library.lookup ⟨[("page", page)]⟩, "page", 1⟩ .empty).1 =
      .ok chain := by
    refine Resolution.run_of_isChain rfl (by decide) (by decide) ?_ (by decide) (Nat.le_refl 1)
      (ParseCache.truthful_empty _)
    rw [List.forall_mem_singleton]
    exact ⟨rfl, by decide +kernel⟩
  obtain ⟨analysis, rule, done, _, id, version, isRule, stamped⟩ :=
    exists_stamped ⟨"page", page, "page", []⟩ "page layout" (some ⟨1, 2, 0, "", ""⟩) rfl
      (by decide +kernel)
  have isResult := analysis.getElem?_results "page"
    (some "SCAFFOLD: template=page layout version=1.2.0") 0
  rw [isRule, Option.map_some] at isResult
  refine ⟨found, analysis, rule, _, done, id, version, isRule, stamped, isResult, ?_⟩
  have failed : (Verdict.ofStamps "page layout" (some "1.2.0")
      (Stamp.all "SCAFFOLD: template=page layout version=1.2.0".toList)).status = .failed := by
    decide +kernel
  rw [result, stamped, verdict, Option.map_some, check, id, version]
  exact failed

end Analysis

end Lineage
