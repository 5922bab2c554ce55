import Lineage.Proofs.Completion
import Lineage.Proofs.Operands

/-!
# The two forms of a condition

A condition may be written inline, as `VALUE if TEST else OTHER` in an output, or with tags around
two outputs.  Both forms are templates with the reads of the three expressions, and the guards are
decided twice: inline by the words of the test, and with tags by the names that the test reads
(`reads_inlineForm`, `reads_tagForm`).  The two agree as far as every word of the test that the value
reads bare is read by the test too.  An attribute, a filter, a test or the name of an argument is a
word that is not read.
-/

namespace Lineage.Template

open Lineage.Text

/-! ## Words and reads -/

/-- Every name that an expression reads is one of its words. -/
theorem mem_wordsIn_of_occurrencesFrom {source : List Char} {context : Context}
    {bound : List String} {conditions : List InlineCondition} {before rest : List Token}
    {occurrence : Occurrence}
    (member : occurrence ∈ occurrencesFrom source context bound conditions before rest) :
    occurrence.name ∈ wordsIn rest := by
  induction rest generalizing before with
  | nil => cases member
  | cons token rest ih =>
      have behind : occurrence ∈ occurrencesFrom source context bound conditions (token :: before)
          rest → occurrence.name ∈ wordsIn (token :: rest) := by
        intro later
        have isWord := ih later
        rw [wordsIn, List.mem_filter, List.mem_filterMap] at isWord ⊢
        obtain ⟨⟨other, isOther, isName⟩, noKeyword⟩ := isWord
        exact ⟨⟨other, List.mem_cons_of_mem token isOther, isName⟩, noKeyword⟩
      rw [occurrencesFrom] at member
      split at member
      · exact behind member
      · rename_i name isWord
        split at member
        · rename_i reads
          rcases List.mem_cons.mp member with rfl | later
          · have noKeyword : (!keywords.contains name) = true := by
              cases isKeyword : keywords.contains name with
              | false => rfl
              | true =>
                  rw [isRead, isKeyword] at reads
                  cases reads
            rw [wordsIn, List.mem_filter, List.mem_filterMap]
            exact ⟨⟨token, List.mem_cons_self, isWord⟩, noKeyword⟩
          · exact behind later
        · exact behind member

/-- The names that a test reads, which guard the branch behind it. -/
def Expression.testedNames (test : Expression) : List String :=
  (test.occurrences .test []).map (·.name)

theorem mem_wordsIn_of_testedNames {test : Expression} {name : String}
    (isTested : name ∈ test.testedNames) : name ∈ wordsIn test.tokens := by
  obtain ⟨occurrence, member, rfl⟩ := List.mem_map.mp isTested
  exact mem_wordsIn_of_occurrencesFrom member

/-! ## The reads of a template -/

/-- A read as a name and a guard. -/
def Occurrence.pair (occurrence : Occurrence) : String × Guard :=
  (occurrence.name, occurrence.guard)

namespace Outline

variable {outline : Outline} {line : Nat} {text : List Char} {expression : Expression}

theorem filterMap_reads (context : Context) :
    (outline.reads line expression context).filterMap Node.read? =
      ((expression.occurrences context outline.bound).map
        (Occurrence.guarded outline.isTested)).map Occurrence.pair := by
  have same : Node.read? ∘ outline.readNode line =
      some ∘ (Occurrence.pair ∘ Occurrence.guarded outline.isTested) := rfl
  rw [reads, List.filterMap_map, List.map_map, same, List.filterMap_eq_map]

/-- An output of an expression leaves the reads of the expression. -/
theorem segment_output (isExpression : Expression.ofText text = .ok expression)
    (filled : text ≠ []) (noSuper : expression.callsSuper = false) :
    outline.segment (.output text line) =
      .ok (outline.add (outline.reads line expression .plain)) := by
  have notEmpty : text.isEmpty = false := by simpa using filled
  have effects : Effect.ofOutput text = [.read expression .plain] := by
    rw [Effect.ofOutput, notEmpty, isExpression]
    rfl
  rw [segment, effects, applyAll_eq_ok_iff, foldlM_cons_eq_ok_iff]
  exact ⟨_, read_eq_ok_iff.mpr (Or.inl ⟨noSuper, rfl⟩), rfl⟩

/-- The outline inside a condition that stands in no other structure. -/
def inBranch (nodes : List Node) (tested : List String) (inElse : Bool) (line : Nat) : Outline :=
  ⟨nodes, [⟨.conditional tested inElse, line, []⟩], false⟩

theorem isTested_inBranch (nodes : List Node) (tested : List String) (inElse : Bool) (line : Nat) :
    (inBranch nodes tested inElse line).isTested = fun name => !inElse && tested.contains name := by
  funext name
  simp [inBranch, isTested, Frame.tests]

/-- The reads of an expression inside a condition. -/
theorem filterMap_reads_inBranch (nodes : List Node) (tested : List String) (inElse : Bool)
    (begun : Nat) (context : Context) :
    ((inBranch nodes tested inElse begun).reads line expression context).filterMap Node.read? =
      ((expression.occurrences context []).map
        (Occurrence.guarded fun name => !inElse && tested.contains name)).map Occurrence.pair := by
  have noBinding : (inBranch nodes tested inElse begun).bound = [] := rfl
  rw [filterMap_reads, noBinding, isTested_inBranch]

/-- A tag that opens a condition leaves the reads of its test, which guards the branch. -/
theorem segment_if (isTest : IsOperand text expression) :
    empty.segment (.tag ("if".toList ++ ' ' :: text) line) =
      .ok (inBranch ((inBranch [] [] false line).reads line expression .test)
        expression.testedNames false line) := by
  have isIf : IsWord "if" := by decide
  have notEmpty : expression.tokens.isEmpty = false := by simpa using isTest.filled
  have effects : Effect.ofTag ("if".toList ++ ' ' :: text) =
      [.enter (.conditional [] false) [], .test expression] := by
    rw [ofTag_if (tagName_join isIf _), tagArgument_join isIf isTest.trimmed, testEffects,
      isTest.ofText]
    simp [Bind.bind, Except.bind, notEmpty, Pure.pure, Except.pure, Effect.orRefuse]
  rw [segment, effects]
  apply applyAll_pair rfl
  rw [apply, test_eq_ok_iff]
  exact ⟨_, read_eq_ok_iff.mpr (Or.inl ⟨isTest.noSuper, rfl⟩), rfl⟩

end Outline

/-! ## The two forms -/

/-- The condition inline in an output. -/
def inlineForm (value test other : List Char) : List Char :=
  Construct.output.write (inlineText value test other)

/-- The condition with tags around two outputs. -/
def tagForm (value test other : List Char) : List Char :=
  Construct.tag.write ("if".toList ++ ' ' :: test) ++ Construct.output.write value ++
    Construct.tag.write "else".toList ++ Construct.output.write other ++
    Construct.tag.write "endif".toList

theorem IsTrimmed.join {first second : List Char} (one : IsTrimmed first)
    (other : IsTrimmed second) (filledFirst : first ≠ []) (filledSecond : second ≠ []) :
    IsTrimmed (first ++ ' ' :: second) := by
  constructor
  · intro c isHead
    rw [List.head?_append_of_ne_nil _ filledFirst] at isHead
    exact one.1 c isHead
  · intro c isLast
    rw [List.getLast?_append_of_ne_nil _ (List.cons_ne_nil _ _),
      List.getLast?_cons_of_ne_nil filledSecond] at isLast
    exact other.2 c isLast

theorem IsOperand.ne_nil {text : List Char} {operand : Expression}
    (isOperand : IsOperand text operand) : text ≠ [] := by
  rintro rfl
  have reads := isOperand.reads
  cases found : operand.tokens with
  | nil => exact isOperand.filled found
  | cons token tokens =>
      rw [found] at reads
      cases reads

section Forms

variable {value test other : Expression} {valueText testText otherText : List Char}

theorem isTrimmed_inlineText (isValue : IsOperand valueText value)
    (isTest : IsOperand testText test) (isOther : IsOperand otherText other) :
    IsTrimmed (inlineText valueText testText otherText) := by
  have word : ∀ {word : String}, IsWord word → IsTrimmed word.toList ∧ word.toList ≠ [] :=
    fun isWord => ⟨(IsPlain.ofWord isWord).isTrimmed, isWord.ne_nil⟩
  have isIf : IsWord "if" := by decide
  have isElse : IsWord "else" := by decide
  have elsePart := (word isElse).1.join isOther.trimmed (word isElse).2 isOther.ne_nil
  have testPart := isTest.trimmed.join elsePart isTest.ne_nil (by simp)
  have ifPart := (word isIf).1.join testPart (word isIf).2 (by simp)
  exact isValue.trimmed.join ifPart isValue.ne_nil (by simp)

/-- The inline condition is a template.  It reads what its three expressions read, and the test
guards the reads of the value by all of its words. -/
theorem reads_inlineForm (isValue : IsOperand valueText value)
    (isTest : IsOperand testText test) (isOther : IsOperand otherText other) :
    ∃ nodes, Node.ofTemplate (inlineForm valueText testText otherText) = .ok nodes ∧
      namesParent nodes = false ∧ nodes.filterMap Node.read? =
        ((value.occurrences .plain []).map (Occurrence.guarded (wordsIn test.tokens).contains) ++
          (test.occurrences .test [] ++ other.occurrences .plain [])).map Occurrence.pair := by
  have isExpression := ofText_inline isValue isTest isOther
  have noSuper := callsSuper_inline isValue isTest isOther
  have filled : inlineText valueText testText otherText ≠ [] := by simp [inlineText]
  have writable : ∀ part ∈ [Segment.output (inlineText valueText testText otherText) 0],
      part.IsWritable :=
    List.forall_mem_singleton.mpr
      ⟨isTrimmed_inlineText isValue isTest isOther, Expression.isOutputText isExpression⟩
  have cut := Segment.ofTemplate_written writable (List.isChain_singleton _)
  rw [List.flatMap_singleton] at cut
  have done : Outline.empty.segments [.output (inlineText valueText testText otherText) 1] =
      .ok (Outline.empty.add (Outline.empty.reads 1 (value.inline test other) .plain)) :=
    Outline.foldlM_cons_eq_ok_iff.mpr
      ⟨_, Outline.segment_output isExpression filled noSuper, rfl⟩
  refine ⟨_, Node.ofTemplate_eq_ok_iff.mpr ⟨_, _, cut, done, rfl, rfl⟩, ?_, ?_⟩
  · simp [Outline.add, Outline.empty, Outline.namesParent_reads]
  · have noBinding : Outline.empty.bound = [] := rfl
    have never : Outline.empty.isTested = fun _ => false := rfl
    rw [Outline.add, Outline.empty, List.nil_append, ← Outline.empty, Outline.filterMap_reads,
      noBinding, never, Occurrence.guarded_never, List.map_id,
      occurrences_inline isValue isTest isOther]

theorem isTagText_if (isText : IsTagText testText) :
    IsTagText ("if".toList ++ ' ' :: testText) := by
  have isIf : "if".toList = ['i', 'f'] := rfl
  rw [isIf]
  apply IsTagText.cons (by decide) (by simp)
  apply IsTagText.cons (by decide) (by simp)
  exact .cons (by decide) (by simp) isText

/-- The segments of the condition with tags. -/
theorem segments_tagForm (isValue : IsOperand valueText value)
    (isTest : IsOperand testText test) (isOther : IsOperand otherText other)
    (isText : IsTagText testText) : ∃ first second third fourth fifth,
      Segment.ofTemplate (tagForm valueText testText otherText) =
        .ok [.tag ("if".toList ++ ' ' :: testText) first, .output valueText second,
          .tag "else".toList third, .output otherText fourth, .tag "endif".toList fifth] := by
  have isIf : IsWord "if" := by decide
  have isElse : IsPlain "else".toList := .ofWord (by decide)
  have isEndIf : IsPlain "endif".toList := .ofWord (by decide)
  have trimmed := (IsPlain.ofWord isIf).isTrimmed.join isTest.trimmed isIf.ne_nil isTest.ne_nil
  have whole : tagForm valueText testText otherText =
      [Segment.tag ("if".toList ++ ' ' :: testText) 0, .output valueText 0, .tag "else".toList 0,
        .output otherText 0, .tag "endif".toList 0].flatMap Segment.written := by
    simp [tagForm, Segment.written]
  rw [whole, Segment.ofTemplate_written]
  · exact ⟨_, _, _, _, _, rfl⟩
  · simp only [List.forall_mem_cons, List.not_mem_nil, false_imp_iff, implies_true, and_true]
    refine ⟨⟨trimmed, isTagText_if isText, by simp⟩,
      ⟨isValue.trimmed, Expression.isOutputText isValue.ofText⟩,
      ⟨isElse.isTrimmed, isElse.isTagText, by simp⟩,
      ⟨isOther.trimmed, Expression.isOutputText isOther.ofText⟩,
      isEndIf.isTrimmed, isEndIf.isTagText, by simp⟩
  · simp [TextsApart, Segment.isText]

/-- What is left of the condition with tags, on whatever lines they stand. -/
theorem segments_eq_tagForm (isValue : IsOperand valueText value)
    (isTest : IsOperand testText test) (isOther : IsOperand otherText other)
    (first second third fourth fifth : Nat) :
    Outline.empty.segments [.tag ("if".toList ++ ' ' :: testText) first,
        .output valueText second, .tag "else".toList third, .output otherText fourth,
        .tag "endif".toList fifth] =
      .ok ⟨(Outline.inBranch [] [] false first).reads first test .test ++
        (Outline.inBranch [] test.testedNames false first).reads second value .plain ++
        (Outline.inBranch [] [] true first).reads fourth other .plain, [], false⟩ := by
  apply Outline.foldlM_cons_eq_ok_iff.mpr ⟨_, Outline.segment_if isTest, ?_⟩
  apply Outline.foldlM_cons_eq_ok_iff.mpr ⟨_, Outline.segment_output isValue.ofText
    isValue.ne_nil isValue.noSuper, ?_⟩
  apply Outline.foldlM_cons_eq_ok_iff.mpr ⟨_, rfl, ?_⟩
  apply Outline.foldlM_cons_eq_ok_iff.mpr ⟨_, Outline.segment_output isOther.ofText
    isOther.ne_nil isOther.noSuper, ?_⟩
  exact Outline.foldlM_cons_eq_ok_iff.mpr ⟨_, rfl, rfl⟩

/-- The condition with tags is a template.  It reads what its three expressions read, and the test
guards the reads of the value by the names that it reads itself. -/
theorem reads_tagForm (isValue : IsOperand valueText value) (isTest : IsOperand testText test)
    (isOther : IsOperand otherText other) (isText : IsTagText testText) :
    ∃ nodes, Node.ofTemplate (tagForm valueText testText otherText) = .ok nodes ∧
      namesParent nodes = false ∧ nodes.filterMap Node.read? =
        (test.occurrences .test [] ++
          ((value.occurrences .plain []).map (Occurrence.guarded test.testedNames.contains) ++
            other.occurrences .plain [])).map Occurrence.pair := by
  obtain ⟨first, second, third, fourth, fifth, cut⟩ :=
    segments_tagForm isValue isTest isOther isText
  have done := segments_eq_tagForm isValue isTest isOther first second third fourth fifth
  refine ⟨_, Node.ofTemplate_eq_ok_iff.mpr ⟨_, _, cut, done, rfl, rfl⟩, ?_, ?_⟩
  · simp [Outline.namesParent_reads]
  · have never : (fun name => !false && ([] : List String).contains name) = fun _ => false := rfl
    have neverInElse : (fun name => !true && ([] : List String).contains name) = fun _ => false :=
      rfl
    have tests : (fun name => !false && test.testedNames.contains name) =
      test.testedNames.contains := rfl
    rw [List.filterMap_append, List.filterMap_append, Outline.filterMap_reads_inBranch,
      Outline.filterMap_reads_inBranch, Outline.filterMap_reads_inBranch, never, neverInElse,
      tests, Occurrence.guarded_never, List.map_id, List.map_id, List.append_assoc,
      List.map_append, List.map_append]

end Forms

/-! ## Where the forms agree -/

namespace Occurrence

variable {tested words : String → Bool} {read : Occurrence}

theorem guarded_of_not (notTested : tested read.name = false) : read.guarded tested = read := by
  simp [guarded, notTested]

/-- A read of a tested name is not left bare. -/
theorem guard_guarded_ne_bare (isTested : tested read.name = true) :
    (read.guarded tested).guard ≠ .bare := by
  by_cases isBare : read.guard = .bare
  · simp [guarded, isBare, isTested]
  · simp [guarded, isBare]

/-- Two ways to guard a read give the same if neither guards it alone. -/
theorem guarded_congr (alike : read.guard = .bare → words read.name = tested read.name) :
    read.guarded words = read.guarded tested := by
  by_cases isBare : read.guard = .bare
  · rw [guarded, guarded, alike isBare]
  · simp [guarded, isBare]

end Occurrence

/-- Of two ways to guard reads the one that guards more names leaves the same reads exactly if it
guards no bare read more. -/
theorem guarded_perm_iff {tested words : String → Bool} (reads : List Occurrence)
    (fewer : ∀ name, tested name = true → words name = true) :
    ((reads.map (Occurrence.guarded words)).map Occurrence.pair).Perm
        ((reads.map (Occurrence.guarded tested)).map Occurrence.pair) ↔
      ∀ read ∈ reads, read.guard = .bare → words read.name = true → tested read.name = true := by
  constructor
  · intro same read member isBare isWord
    by_contra isLost
    rw [Bool.not_eq_true] at isLost
    have left : read.pair ∈ (reads.map (Occurrence.guarded tested)).map Occurrence.pair := by
      apply List.mem_map_of_mem
      rw [← Occurrence.guarded_of_not isLost]
      exact List.mem_map_of_mem member
    obtain ⟨_, memberGuarded, isPair⟩ := List.mem_map.mp (same.symm.subset left)
    obtain ⟨other, _, rfl⟩ := List.mem_map.mp memberGuarded
    obtain ⟨sameName, sameGuard⟩ := Prod.mk.inj isPair
    have isWordOther : words other.name = true := (congrArg words sameName).trans isWord
    exact Occurrence.guard_guarded_ne_bare isWordOther (sameGuard.trans isBare)
  · intro agree
    have alike : reads.map (Occurrence.guarded words) = reads.map (Occurrence.guarded tested) := by
      apply List.map_congr_left
      intro read member
      apply Occurrence.guarded_congr
      intro isBare
      exact Bool.eq_iff_iff.mpr ⟨agree read member isBare, fewer read.name⟩
    rw [alike]

/-- The two forms of a condition are templates.  They read the same names with the same guards,
though in another order, exactly if the test reads every word that it has and the value reads
bare. -/
theorem Parsed.ofTemplate_forms_agree_iff {value test other : Expression}
    {valueText testText otherText : List Char} (isValue : IsOperand valueText value)
    (isTest : IsOperand testText test) (isOther : IsOperand otherText other)
    (isText : IsTagText testText) (name : String) :
    ∃ inline tagged,
      Parsed.ofTemplate name (inlineForm valueText testText otherText) = .ok inline ∧
      Parsed.ofTemplate name (tagForm valueText testText otherText) = .ok tagged ∧
      (inline.reads.Perm tagged.reads ↔ ∀ read ∈ value.occurrences .plain [],
        read.guard = .bare → read.name ∈ wordsIn test.tokens → read.name ∈ test.testedNames) := by
  obtain ⟨nodesInline, isInline, namelessInline, readsInline⟩ :=
    reads_inlineForm isValue isTest isOther
  obtain ⟨nodesTagged, isTagged, namelessTagged, readsTagged⟩ :=
    reads_tagForm isValue isTest isOther isText
  have fewer : ∀ name, test.testedNames.contains name = true →
      (wordsIn test.tokens).contains name = true := by
    intro name isTested
    rw [List.contains_iff_mem] at isTested ⊢
    exact mem_wordsIn_of_testedNames isTested
  refine ⟨⟨name, nodesInline⟩, ⟨name, nodesTagged⟩,
    Parsed.ofTemplate_eq_ok_iff.mpr ⟨rfl, isInline, dynamicParent?_of_not namelessInline⟩,
    Parsed.ofTemplate_eq_ok_iff.mpr ⟨rfl, isTagged, dynamicParent?_of_not namelessTagged⟩, ?_⟩
  have agree := guarded_perm_iff (value.occurrences .plain []) fewer
  simp only [List.contains_iff_mem] at agree
  rw [← agree, Parsed.reads, Parsed.reads, readsInline, readsTagged, List.map_append,
    List.map_append, List.map_append, List.map_append]
  have valueFirst := List.perm_append_comm_assoc ((test.occurrences .test []).map Occurrence.pair)
    (((value.occurrences .plain []).map
      (Occurrence.guarded test.testedNames.contains)).map Occurrence.pair)
    ((other.occurrences .plain []).map Occurrence.pair)
  rw [valueFirst.congr_right, List.perm_append_right_iff]

/-- The forms agree where the value reads what the test reads, and neither the attribute nor the test
that it names. -/
theorem Parsed.ofTemplate_forms_agree_attribute :
    let value : Expression := ⟨"b ~ e|d('c')".toList, [⟨.word "b", 0⟩, ⟨.operator "~", 2⟩,
      ⟨.word "e", 4⟩, ⟨.operator "|", 5⟩, ⟨.word "d", 6⟩, ⟨.operator "(", 7⟩,
      ⟨.literal '\'' ['c'], 8⟩, ⟨.operator ")", 11⟩]⟩
    let test : Expression := ⟨"b.c is d".toList, [⟨.word "b", 0⟩, ⟨.operator ".", 1⟩,
      ⟨.word "c", 2⟩, ⟨.word "is", 4⟩, ⟨.word "d", 7⟩]⟩
    let other : Expression := ⟨"c".toList, [⟨.word "c", 0⟩]⟩
    IsOperand value.source value ∧ IsOperand test.source test ∧ IsOperand other.source other ∧
      IsTagText test.source ∧ ∃ inline tagged,
        Parsed.ofTemplate "page" (inlineForm value.source test.source other.source) = .ok inline ∧
        Parsed.ofTemplate "page" (tagForm value.source test.source other.source) = .ok tagged ∧
        inline.reads.Perm tagged.reads := by
  intro value test other
  have isValue : IsOperand value.source value :=
    ⟨by decide +kernel, by decide, by decide, by decide, by decide, by decide⟩
  have isTest : IsOperand test.source test :=
    ⟨by decide +kernel, by decide, by decide, by decide, by decide, by decide⟩
  have isOther : IsOperand other.source other :=
    ⟨by decide +kernel, by decide, by decide, by decide, by decide, by decide⟩
  have isText : IsTagText test.source := by
    iterate 8 apply IsTagText.cons (by decide) (by decide)
    exact .nil
  obtain ⟨inline, tagged, isInline, isTagged, agree⟩ :=
    Parsed.ofTemplate_forms_agree_iff isValue isTest isOther isText "page"
  refine ⟨isValue, isTest, isOther, isText, inline, tagged, isInline, isTagged, agree.mpr ?_⟩
  decide +kernel

/-- The forms differ where the value reads what the test only names as an attribute: inline the read
is conditional, although nothing tests that name. -/
theorem Parsed.ofTemplate_forms_differ :
    let inline : List Node :=
      [.read "a" .conditional 1, .read "x" .conditional 1, .read "b" .bare 1]
    let tagged : List Node :=
      [.read "x" .conditional 1, .read "a" .bare 1, .read "b" .bare 1]
    Parsed.ofTemplate "page" (inlineForm "a".toList "x.a".toList "b".toList) =
        .ok ⟨"page", inline⟩ ∧
      Parsed.ofTemplate "page" (tagForm "a".toList "x.a".toList "b".toList) =
        .ok ⟨"page", tagged⟩ ∧
      ¬ (inline.filterMap Node.read?).Perm (tagged.filterMap Node.read?) := by
  decide +kernel

end Lineage.Template
