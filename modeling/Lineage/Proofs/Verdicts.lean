import Lineage.Validation
import Lineage.Proofs.BlockSites
import Lineage.Proofs.Inheritance
import Lineage.Proofs.Matches
import Lineage.Proofs.Outcomes

/-!
# The verdicts on the rules of a chain

What a criterion demands is said of the chain, of what its templates declare, and of the content
(`Criterion.Demands`).  A status judges a criterion if it is `passed` exactly if the demand is met,
and `skipped` exactly if there is no content to judge (`Status.Judges`).

The main result says that every rule of a chain is judged once, by its leaf-most declaration and at
the level of the template that has it, and that a failure blocks exactly if that level is one of the
two highest.
-/

namespace Lineage

open Metadata (Declares levelAt)

/-! ## What rules demand -/

/-- Whether the criterion is about a content. -/
def Criterion.readsContent : Criterion → Bool
  | .content .. => true
  | .structural check => check = .stamped

/-- Some template describes the variable. -/
def Metadata.Documented (declared : List Declaration) (name : String) : Prop :=
  ∃ one ∈ declared, name ∈ one.descriptions.map (·.1)

/-- Some stamp of the content names the chain and, if that has a version, exactly the version. -/
def Metadata.StampedIn (metadata : Metadata) (content : List Char) : Prop :=
  ∃ stamp ∈ Stamp.all content, stamp.template = metadata.templateId ∧
    ∀ version, metadata.version = some version → stamp.version = some version.toText

/-- What a criterion demands of a chain with what its templates declare, and of a content. -/
def Criterion.Demands (chain : Chain) (declared : List Declaration) (analysis : Analysis)
    (content : Option (List Char)) : Criterion → Prop
  | .content _ pattern forbidden =>
    ∃ text, content = some text ∧ (pattern.Matches text ↔ forbidden = false)
  | .structural .requiredVariablesDocumented =>
    ∀ var ∈ (Classification.ofChain chain).required, Metadata.Documented declared var.name
  | .structural .variablesDocumented =>
    ∀ var ∈ (Classification.ofChain chain).needed.values, Metadata.Documented declared var.name
  | .structural .noDeadOverrides => analysis.blocks.warnings = []
  | .structural (.blockDefined block) => ∃ tier ∈ chain.tiers, tier.defines block = true
  | .structural .stamped => ∃ text, content = some text ∧ analysis.metadata.StampedIn text

/-- The status that a criterion deserves. -/
structure Status.Judges (status : Status) (chain : Chain) (declared : List Declaration)
    (analysis : Analysis) (content : Option (List Char)) (criterion : Criterion) : Prop where
  skipped : status = .skipped ↔ criterion.readsContent = true ∧ content = none
  passed : status = .passed ↔ criterion.Demands chain declared analysis content

/-- The validation says of a chain with what its templates declare what it should. -/
structure Validation.Judges (validation : Validation) (chain : Chain) (declared : List Declaration)
    (analysis : Analysis) (content : Option (List Char)) : Prop where
  rules : validation.results.map (·.ruleId) =
    (declared.flatMap fun one => one.rules.map (·.id)).eraseDups
  /-- What counts of a rule is its leaf-most declaration, and the level that holds there. -/
  judged : ∀ result ∈ validation.results, ∃ position tier written,
    chain.tiers[position]? = some tier ∧
      LeafMost declared (·.rule? result.ruleId) position written ∧
      result.declaredIn = tier.name ∧
      result.severity = (levelAt declared position).severity ∧
      result.status.Judges chain declared analysis content written.criterion
  blocks : validation.isBlocking = true ↔
    ∃ result ∈ validation.results, result.status = .failed ∧ ∃ position written,
      LeafMost declared (·.rule? result.ruleId) position written ∧
        (levelAt declared position = .strict ∨ levelAt declared position = .architectural)
  failed : ∀ result, result ∈ validation.failures ↔
    result ∈ validation.results ∧ result.status = .failed
  failures : validation.failures.Sublist validation.results
  blocking : validation.blockingFailures.Sublist validation.failures
  nonBlocking : validation.nonBlockingFailures.Sublist validation.failures
  disjoint : validation.blockingFailures.Disjoint validation.nonBlockingFailures
  divided :
    (validation.blockingFailures ++ validation.nonBlockingFailures).Perm validation.failures

/-! ## Verdicts -/

/-- The verdict decides whether the demand is met. -/
structure Verdict.Decides (verdict : Verdict) (demand : Prop) : Prop where
  passed : verdict.status = .passed ↔ demand
  notSkipped : verdict.status ≠ .skipped

namespace Verdict

theorem decides_ofPattern (written : String) (pattern : Regex.Pattern) (forbidden : Bool)
    (content : List Char) :
    (ofPattern written pattern forbidden content).Decides
      (pattern.Matches content ↔ forbidden = false) := by
  rw [← Regex.Pattern.isSome_firstMatch?_iff]
  cases found : pattern.firstMatch? content <;> cases forbidden <;> constructor <;>
    simp [ofPattern, found]

theorem decides_ofUndocumented (kind : String) (missing : List String) :
    (ofUndocumented kind missing).Decides (missing = []) := by
  rw [ofUndocumented]
  cases missing <;> constructor <;> simp

theorem decides_ofWarnings (warnings : List BlockWarning) :
    (ofWarnings warnings).Decides (warnings = []) := by
  rw [ofWarnings]
  cases warnings <;> constructor <;> simp

theorem decides_ofBlock (block : String) (definition : Option BlockDefinition) :
    (ofBlock block definition).Decides (∃ found, definition = some found) := by
  cases definition <;> constructor <;> simp [ofBlock]

theorem decides_ofStamps (templateId : String) (version : Option String) (stamps : List Stamp) :
    (ofStamps templateId version stamps).Decides
      (stamps.any (·.names templateId version) = true) := by
  rw [ofStamps]
  split
  · rename_i found
    constructor <;> simp [found]
  · rename_i notFound
    cases stamps <;> constructor <;> simp [notFound]

variable {verdict : Verdict} {demand other : Prop}

theorem Decides.congr (decides : verdict.Decides demand) (same : demand ↔ other) :
    verdict.Decides other :=
  ⟨decides.passed.trans same, decides.notSkipped⟩

end Verdict

/-! ## The analysis of a chain -/

/-- The analysis tells of a chain with what its templates declare what it should. -/
structure Analysis.Analyzes (analysis : Analysis) (chain : Chain) (declared : List Declaration) :
    Prop where
  classification : analysis.classification = .ofChain chain
  blocks : BlockIndex.Indexes (blockSites chain.tiers) analysis.blocks
  metadata : analysis.metadata.Merges chain.tiers declared

namespace Analysis

variable {chain : Chain} {declared : List Declaration} {analysis : Analysis}

theorem exists_analyzes (distinct : ∀ tier ∈ chain.tiers, tier.blockNames.Nodup)
    (done : ofChain chain = .ok analysis) :
    ∃ declared, Declares chain.tiers declared ∧ analysis.Analyzes chain declared := by
  obtain ⟨blocks, indexed, further⟩ := bind_eq_ok_iff.mp done
  obtain ⟨metadata, collected, same⟩ := bind_eq_ok_iff.mp further
  obtain rfl := Except.ok.inj same
  obtain ⟨declared, declares, rfl⟩ := Metadata.ofChain_eq_ok_iff.mp collected
  have answers := BlockIndex.answers_ofChain distinct
  rw [indexed] at answers
  have merges := Metadata.merges_merged declares (Metadata.getLast?_tiers chain)
  exact ⟨declared, declares, rfl, answers, merges⟩

/-- No name is listed exactly if each of the variables is described. -/
theorem Analyzes.undocumented_eq_nil_iff (analyzes : analysis.Analyzes chain declared)
    (vars : List Variable) :
    analysis.undocumented vars = [] ↔ ∀ var ∈ vars, Metadata.Documented declared var.name := by
  rw [undocumented, List.filter_eq_nil_iff, List.forall_mem_map]
  simp only [Bool.not_eq_true', Bool.not_eq_false, analyzes.metadata.documented]
  rfl

/-- A block is known exactly if some template contains it. -/
theorem Analyzes.exists_get?_iff (analyzes : analysis.Analyzes chain declared) (block : String) :
    (∃ definition, analysis.blocks.get? block = some definition) ↔
      ∃ tier ∈ chain.tiers, tier.defines block = true := by
  have indexed := analyzes.blocks.indexed
  rw [← List.any_eq_true, ← mem_blockNames_flatMap_iff, ← map_name_blockSites,
    ← List.mem_eraseDups, ← analyzes.blocks.keys, ← Option.ne_none_iff_exists', BlockIndex.get?,
    Ne, indexed.get?_eq_none_iff, not_not]

theorem stampedIn_iff (metadata : Metadata) (content : List Char) :
    (Stamp.all content).any (·.names metadata.templateId (metadata.version.map (·.toText))) = true ↔
      metadata.StampedIn content := by
  simp only [List.any_eq_true, Metadata.StampedIn, Stamp.names, Bool.and_eq_true, beq_iff_eq,
    Bool.or_eq_true]
  cases metadata.version <;> simp

theorem judges_of_decides {content : Option (List Char)} {criterion : Criterion} {verdict : Verdict}
    (decides : verdict.Decides (criterion.Demands chain declared analysis content))
    (judged : criterion.readsContent = true → content ≠ none) :
    verdict.status.Judges chain declared analysis content criterion := by
  constructor
  · constructor
    · exact fun skipped => absurd skipped decides.notSkipped
    · rintro ⟨reads, absent⟩
      exact absurd absent (judged reads)
  · exact decides.passed

/-- Without a content nothing is said of it. -/
theorem judges_noContent {criterion : Criterion} (reads : criterion.readsContent = true) :
    Verdict.noContent.status.Judges chain declared analysis none criterion := by
  -- the demands of these two kinds begin with the content that there has to be
  have unmet : ¬ criterion.Demands chain declared analysis none := by
    cases criterion with
    | content written pattern forbidden =>
        rintro ⟨text, absent, _⟩
        cases absent
    | structural check =>
        obtain rfl : check = .stamped := by simpa [Criterion.readsContent] using reads
        rintro ⟨text, absent, _⟩
        cases absent
  constructor
  · simp [Verdict.noContent, reads]
  · simp [Verdict.noContent, unmet]

/-- A verdict is the one that the criterion deserves. -/
theorem Analyzes.judges_verdict (analyzes : analysis.Analyzes chain declared)
    (content : Option (List Char)) (criterion : Criterion) :
    (analysis.verdict content criterion).status.Judges chain declared analysis content
      criterion := by
  cases criterion with
  | content written pattern forbidden =>
      cases content with
      | none => exact judges_noContent rfl
      | some text =>
          refine judges_of_decides ?_ fun _ => Option.some_ne_none text
          apply (Verdict.decides_ofPattern written pattern forbidden text).congr
          simp [Criterion.Demands]
  | structural check =>
      cases check with
      | requiredVariablesDocumented =>
          refine judges_of_decides ?_ fun reads => absurd reads (by decide)
          apply (Verdict.decides_ofUndocumented _ _).congr
          rw [analyzes.undocumented_eq_nil_iff, analyzes.classification]
          rfl
      | variablesDocumented =>
          refine judges_of_decides ?_ fun reads => absurd reads (by decide)
          apply (Verdict.decides_ofUndocumented _ _).congr
          rw [analyzes.undocumented_eq_nil_iff, analyzes.classification]
          rfl
      | noDeadOverrides =>
          refine judges_of_decides ?_ fun reads => absurd reads (by decide)
          exact Verdict.decides_ofWarnings analysis.blocks.warnings
      | blockDefined block =>
          refine judges_of_decides ?_ fun reads => absurd reads (by simp [Criterion.readsContent])
          exact (Verdict.decides_ofBlock block _).congr (analyzes.exists_get?_iff block)
      | stamped =>
          cases content with
          | none => exact judges_noContent rfl
          | some text =>
              refine judges_of_decides ?_ fun _ => Option.some_ne_none text
              apply (Verdict.decides_ofStamps _ _ _).congr
              rw [stampedIn_iff]
              simp [Criterion.Demands]

/-! ## The results -/

variable {template : String} {content : Option String}

/-- The results come in the order of the first declarations of their rules. -/
theorem Analyzes.map_ruleId (analyzes : analysis.Analyzes chain declared) (template : String)
    (content : Option String) :
    (analysis.validate template content).results.map (·.ruleId) =
      (declared.flatMap fun one => one.rules.map (·.id)).eraseDups := by
  rw [← analyzes.metadata.ruleIds, ← analyzes.metadata.order, validate, List.map_map]
  rfl

/-- Each result is about the leaf-most declaration of its rule. -/
theorem Analyzes.judges_result (analyzes : analysis.Analyzes chain declared) {result : RuleResult}
    (member : result ∈ (analysis.validate template content).results) :
    ∃ position tier written, chain.tiers[position]? = some tier ∧
      LeafMost declared (·.rule? result.ruleId) position written ∧
      result.declaredIn = tier.name ∧
      result.severity = (levelAt declared position).severity ∧
      result.status.Judges chain declared analysis (content.map String.toList)
        written.criterion := by
  obtain ⟨rule, isRule, rfl⟩ := List.mem_map.mp member
  have look := (analyzes.metadata.rules rule).mp isRule
  obtain ⟨position, tier, written, here, leafMost, same⟩ := (analyzes.metadata.rule _ _).mp look
  have judges := analyzes.judges_verdict (content.map String.toList) written.criterion
  refine ⟨position, tier, written, here, leafMost, ?_, ?_, ?_⟩
  · rw [same]
    rfl
  · rw [same]
    rfl
  · rw [same]
    exact judges

end Analysis

/-! ## The failures -/

theorem RuleResult.isBlocking_iff {result : RuleResult} :
    result.isBlocking = true ↔ result.status = .failed ∧ result.severity = .blocking := by
  simp [isBlocking, isFailure]

namespace Validation

variable (validation : Validation)

theorem mem_failures_iff {result : RuleResult} : result ∈ validation.failures ↔
    result ∈ validation.results ∧ result.status = .failed := by
  simp [failures, RuleResult.isFailure]

theorem blockingFailures_eq :
    validation.blockingFailures = validation.failures.filter (·.isBlocking) := by
  rw [blockingFailures, failures, List.filter_filter]
  apply List.filter_congr
  intro result _
  rw [RuleResult.isBlocking, Bool.and_right_comm, Bool.and_self]

theorem nonBlockingFailures_eq :
    validation.nonBlockingFailures = validation.failures.filter (!·.isBlocking) := by
  rw [nonBlockingFailures, failures, List.filter_filter]
  apply List.filter_congr
  intro result _
  rw [Bool.and_comm]

theorem disjoint_failures :
    validation.blockingFailures.Disjoint validation.nonBlockingFailures := by
  intro result isBlocking notBlocking
  have blocks := (List.mem_filter.mp isBlocking).2
  have fails := (List.mem_filter.mp notBlocking).2
  simp [blocks] at fails

end Validation

namespace Analysis

variable {chain : Chain} {declared : List Declaration} {analysis : Analysis}

/-- A failure blocks exactly if the leaf-most declaration of its rule has a high level. -/
theorem Analyzes.isBlocking_iff (analyzes : analysis.Analyzes chain declared) (template : String)
    (content : Option String) :
    (analysis.validate template content).isBlocking = true ↔
      ∃ result ∈ (analysis.validate template content).results, result.status = .failed ∧
        ∃ position written, LeafMost declared (·.rule? result.ruleId) position written ∧
          (levelAt declared position = .strict ∨ levelAt declared position = .architectural) := by
  have high : ∀ level : Enforcement,
      level.severity = .blocking ↔ level = .strict ∨ level = .architectural := by
    intro level
    cases level <;> decide
  rw [Validation.isBlocking, List.any_eq_true]
  constructor
  · rintro ⟨result, member, isBlocking⟩
    obtain ⟨failed, severity⟩ := RuleResult.isBlocking_iff.mp isBlocking
    obtain ⟨position, _, written, _, leafMost, _, level, _⟩ := analyzes.judges_result member
    exact ⟨result, member, failed, position, written, leafMost,
      (high _).mp (level.symm.trans severity)⟩
  · rintro ⟨result, member, failed, position, written, leafMost, isHigh⟩
    obtain ⟨_, _, _, _, counts, _, level, _⟩ := analyzes.judges_result member
    obtain ⟨rfl, rfl⟩ := leafMost.unique counts
    have severity := level.trans ((high _).mpr isHigh)
    exact ⟨result, member, RuleResult.isBlocking_iff.mpr ⟨failed, severity⟩⟩

theorem Analyzes.judges_validate (analyzes : analysis.Analyzes chain declared) (template : String)
    (content : Option String) :
    (analysis.validate template content).Judges chain declared analysis
      (content.map String.toList) where
  rules := analyzes.map_ruleId template content
  judged _ member := analyzes.judges_result member
  blocks := analyzes.isBlocking_iff template content
  failed _ := Validation.mem_failures_iff _
  failures := List.filter_sublist
  blocking := Validation.blockingFailures_eq _ ▸ List.filter_sublist
  nonBlocking := Validation.nonBlockingFailures_eq _ ▸ List.filter_sublist
  disjoint := Validation.disjoint_failures _
  divided := by
    rw [Validation.blockingFailures_eq, Validation.nonBlockingFailures_eq]
    exact List.filter_append_perm _ _

/-- Of the chain that a resolution finds with an analysis, every content is judged by each rule that
some template declares, as its leaf-most declaration demands. -/
theorem validate_judges {resolution : Resolution} {intake : Intake} {chain : Chain}
    {analysis : Analysis} (readings : intake.parses.HoldsReadings)
    (found : (resolution.run intake).1 = .ok chain) (done : ofChain chain = .ok analysis) :
    ∃ declared, Declares chain.tiers declared ∧ ∀ (template : String) (content : Option String),
      (analysis.validate template content).Judges chain declared analysis
        (content.map String.toList) := by
  have distinct := Resolution.run_blockNames_nodup readings found
  obtain ⟨declared, declares, analyzes⟩ := exists_analyzes distinct done
  exact ⟨declared, declares, analyzes.judges_validate⟩

/-- A rule that the leaf declares once more stays in the place of its first declaration. -/
theorem validate_judges_redeclared :
    let base := Source.ofText (Sample.comment
      "scaffold:metadata\nrules: [\x7bid: mark, pattern: A\x7d, \x7bid: end, pattern: Z\x7d]")
    let leaf := Source.ofText (Sample.extendsTag "base" ++ Sample.comment
      "scaffold:metadata\nenforcement: STRICT\nrules: [\x7bid: mark, pattern: B\x7d]")
    let library : Library := ⟨[("base", base), ("leaf", leaf)]⟩
    let chain : Chain := ⟨[⟨"base", base, "base", []⟩,
      ⟨"leaf", leaf, "leaf", [.extends (.literal "base") 1]⟩], List.cons_ne_nil _ _⟩
    (Resolution.run ⟨library.lookup, "leaf", 2⟩ .empty).1 = .ok chain ∧
      ∃ analysis declared, ofChain chain = .ok analysis ∧ Declares chain.tiers declared ∧
        (analysis.validate "leaf" (some "B")).results.map (·.ruleId) = ["mark", "end"] ∧
        (analysis.validate "leaf" (some "B")).Judges chain declared analysis
          (some "B".toList) := by
  intro base leaf library chain
  have found : (Resolution.run ⟨library.lookup, "leaf", 2⟩ .empty).1 = .ok chain := by
    refine Resolution.run_of_isChain rfl (by decide) (by decide) ?_ (by decide) (Nat.le_refl 2)
      (ParseCache.truthful_empty _)
    simp only [chain, List.forall_mem_cons]
    exact ⟨⟨rfl, by decide +kernel⟩, ⟨rfl, by decide +kernel⟩, by simp⟩
  have ids : ((chain.tiers.mapM Metadata.declaration).toOption.map fun declared =>
      (declared.flatMap fun one => one.rules.map (·.id)).eraseDups) = some ["mark", "end"] := by
    decide +kernel
  refine ⟨found, ?_⟩
  cases declares : chain.tiers.mapM Metadata.declaration with
  | error failure =>
      rw [declares] at ids
      cases ids
  | ok declared =>
      obtain ⟨metadata, collected⟩ : ∃ metadata, Metadata.ofChain chain = .ok metadata :=
        ⟨_, Metadata.ofChain_eq_ok_iff.mpr ⟨declared, mapM_eq_ok_iff.mp declares, rfl⟩⟩
      have indexed : BlockIndex.ofChain chain = .ok .empty := rfl
      have done : ofChain chain = .ok ⟨.ofChain chain, .empty, metadata⟩ := by
        rw [ofChain, indexed, collected]
        rfl
      obtain ⟨other, declaresOther, judges⟩ :=
        validate_judges ParseCache.holdsReadings_empty found done
      have judges := judges "leaf" (some "B")
      obtain rfl := Except.ok.inj (declares.symm.trans (mapM_eq_ok_iff.mpr declaresOther))
      rw [declares] at ids
      exact ⟨_, declared, done, declaresOther, judges.rules.trans (Option.some.inj ids), judges⟩

end Analysis

end Lineage
