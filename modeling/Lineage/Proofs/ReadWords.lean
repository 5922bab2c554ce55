import Lineage.Proofs.BoundNames
import Lineage.Proofs.ReadNodes
import Lineage.Samples

/-!
# Which words of an output are read

A word of an expression names a variable if the language of expressions gives it no other meaning
there (`IsVariableAt`) and no structure around the expression binds it (`BoundBehind`).  In an
output each of these words is read, with the exception of the words that have a meaning in some tag
only (`tagWords`): these are read in no expression.
-/

namespace Lineage.Template

open Lineage.Text

/-- Words of the language of expressions: operators and literals. -/
def operatorWords : List String :=
  ["and", "or", "not", "in", "is", "if", "else", "true", "false", "none", "True", "False", "None"]

/-- Words that have a meaning in the tags of loops, inclusions and imports. -/
def tagWords : List String :=
  ["recursive", "as", "import", "with", "without", "context", "ignore", "missing"]

theorem mem_keywords_iff {name : String} :
    name ∈ keywords ↔ name ∈ operatorWords ∨ name ∈ tagWords := by
  have whole : keywords = operatorWords ++ tagWords := rfl
  rw [whole, List.mem_append]

/-- By the language of expressions the word `name` between the tokens names a variable. -/
structure IsVariableAt (ahead : List Token) (name : String) (behind : List Token) : Prop where
  noOperator : name ∉ operatorWords
  noBuiltin : name ∉ builtins
  noAttribute : ∀ last ∈ ahead.getLast?, last.isSign "." = false
  noFilter : ∀ last ∈ ahead.getLast?, last.isSign "|" = false
  noTest : ∀ last ∈ ahead.getLast?, last.isWord "is" = false
  noNegatedTest : ∀ front first second, ahead = front ++ [first, second] →
    first.isWord "is" = true → second.isWord "not" = false
  noArgument : ∀ next ∈ behind.head?, next.isSign "=" = false

section Words

variable {ahead behind : List Token} {name : String}

/-- A word that names a variable names no test. -/
theorem IsVariableAt.namesTest_eq (isVariable : IsVariableAt ahead name behind) :
    namesTest ahead.reverse = false := by
  have noTest := isVariable.noTest
  have noNegatedTest := isVariable.noNegatedTest
  rcases List.eq_nil_or_concat ahead with rfl | ⟨front, last, rfl⟩
  · rfl
  · rw [List.concat_eq_append] at *
    have noIs := noTest last (by simp)
    rcases List.eq_nil_or_concat front with rfl | ⟨front, first, rfl⟩
    · simpa [namesTest] using noIs
    · rw [List.concat_eq_append] at *
      have noNot := noNegatedTest front first last (by simp)
      simp only [List.reverse_append, List.reverse_cons, List.reverse_nil, List.nil_append,
        List.cons_append, namesTest, noIs, Bool.false_or, Bool.and_eq_false_iff]
      by_cases isIs : first.isWord "is" = true
      · exact Or.inl (noNot isIs)
      · exact Or.inr (by simpa using isIs)

/-- A word that names a variable is read if it is no keyword and is not bound. -/
theorem IsVariableAt.isRead_eq (isVariable : IsVariableAt ahead name behind) (bound : List String) :
    isRead .plain bound ahead.reverse name behind =
      !(keywords.contains name || bound.contains name) := by
  have noBuiltin : builtins.contains name = false := by simpa using isVariable.noBuiltin
  have noSuper : (name == "super") = false := by
    rw [beq_eq_false_iff_ne]
    rintro rfl
    exact isVariable.noBuiltin (by decide)
  have noFilterTag : (Context.plain == Context.filter) = false := rfl
  have noMark : ahead.reverse.head?.any (fun token => token.isSign "." || token.isSign "|") =
      false := by
    rw [List.head?_reverse, Option.any_eq_false]
    intro last isLast
    simp [isVariable.noAttribute last isLast, isVariable.noFilter last isLast]
  have noArgument : behind.head?.any (·.isSign "=") = false := by
    rw [Option.any_eq_false]
    intro next isNext
    simp [isVariable.noArgument next isNext]
  simp only [isRead, callsSuper, noSuper, noFilterTag, noMark, isVariable.namesTest_eq,
    noArgument, noBuiltin, Bool.false_and, Bool.or_false]

end Words

/-- A word that names a variable is read outside of tags exactly if nothing binds it and it is no
word of the tags. -/
theorem exists_occurrence_iff {expression : Expression} {bound : List String} {name : String}
    {ahead behind : List Token} {word : Token}
    (split : expression.tokens = ahead ++ word :: behind) (isWord : word.word? = some name)
    (isVariable : IsVariableAt ahead name behind) :
    (∃ occurrence ∈ expression.occurrences .plain bound, occurrence.name = name) ↔
      name ∉ bound ∧ name ∉ tagWords := by
  constructor
  · rintro ⟨occurrence, member, rfl⟩
    obtain ⟨_, _, _, _, _, read, _⟩ := mem_occurrencesFrom_iff.mp member
    simp only [isRead, Bool.not_eq_true', Bool.or_eq_false_iff] at read
    obtain ⟨⟨⟨⟨⟨⟨⟨noKeyword, _⟩, _⟩, _⟩, _⟩, _⟩, _⟩, notBound⟩ := read
    constructor
    · simpa using notBound
    · intro isTagWord
      have isKeyword := mem_keywords_iff.mpr (Or.inr isTagWord)
      rw [← List.contains_iff_mem, noKeyword] at isKeyword
      cases isKeyword
  · rintro ⟨free, noTagWord⟩
    have noKeyword : name ∉ keywords := by
      rw [mem_keywords_iff]
      rintro (isOperator | isTagWord)
      · exact isVariable.noOperator isOperator
      · exact noTagWord isTagWord
    let guard := guardAt expression.source .plain (InlineCondition.all [] expression.tokens)
      ahead.length name behind
    refine ⟨⟨name, guard⟩, mem_occurrencesFrom_iff.mpr
      ⟨ahead, word, behind, split, isWord, ?_, rfl⟩, rfl⟩
    rw [List.append_nil, isVariable.isRead_eq bound]
    simp [noKeyword, free]

/-- The nodes of an output that is accepted stand in the list between those of what is in front of
the output and those of what is behind it. -/
theorem Node.exists_reads_of_output {text : List Char} {nodes : List Node}
    {before after : List Segment} {body : List Char} {line : Nat}
    (accepted : Node.ofTemplate text = .ok nodes)
    (cut : Segment.ofTemplate text = .ok (before ++ .output body line :: after)) :
    ∃ outline expression front back, Outline.empty.segments before = .ok outline ∧
      Expression.ofText body = .ok expression ∧
      nodes = front ++ (outline.reads line expression .plain ++ back) ∧
      front.length = outline.nodes.length := by
  obtain ⟨parts, final, isCut, done, _, rfl⟩ := Node.ofTemplate_eq_ok_iff.mp accepted
  cases isCut.symm.trans cut
  obtain ⟨outline, toOutput, further⟩ := Outline.foldlM_append_eq_ok_iff.mp done
  obtain ⟨middle, output, toEnd⟩ := Outline.foldlM_cons_eq_ok_iff.mp further
  obtain ⟨expression, isExpression, isRead⟩ : ∃ expression,
      Expression.ofText body = .ok expression ∧
        outline.read line expression .plain = .ok middle := by
    rw [Outline.segment, Outline.applyAll_eq_ok_iff, Effect.ofOutput] at output
    split at output
    · obtain ⟨_, refused, _⟩ := Outline.foldlM_cons_eq_ok_iff.mp output
      cases refused
    · cases found : Expression.ofText body with
      | error cause =>
          rw [found] at output
          obtain ⟨_, refused, _⟩ := Outline.foldlM_cons_eq_ok_iff.mp output
          cases refused
      | ok expression =>
          rw [found] at output
          obtain ⟨_, isRead, ended⟩ := Outline.foldlM_cons_eq_ok_iff.mp output
          cases ended
          exact ⟨expression, rfl, isRead⟩
  obtain ⟨rest, whole⟩ := Outline.segments_keepsReads toEnd
  rw [Outline.reading?_read isRead, List.append_assoc, eq_comm] at whole
  obtain ⟨front, others, isNodes, isFront, isOthers⟩ := List.map_eq_append_iff.mp whole
  obtain ⟨reads, back, rfl, isReads, _⟩ := List.map_eq_append_iff.mp isOthers
  have same : reads = outline.reads line expression .plain := Outline.eq_reads_of_reading? isReads
  refine ⟨outline, expression, front, back, toOutput, isExpression, by rw [isNodes, same], ?_⟩
  rw [← List.length_map, isFront, List.length_map]

/-- In a template that is accepted each output leaves its reads in a row in the list of nodes.  A
word of the output that names a variable is among them exactly if no structure around the output
binds it and it is no word of the tags. -/
theorem Parsed.ofTemplate_output_words {name : String} {text : List Char} {parsed : Parsed}
    {before after : List Segment} {body : List Char} {line : Nat}
    (accepted : Parsed.ofTemplate name text = .ok parsed)
    (cut : Segment.ofTemplate text = .ok (before ++ .output body line :: after)) :
    ∃ outline expression front reads back, Outline.empty.segments before = .ok outline ∧
      Expression.ofText body = .ok expression ∧
      parsed.nodes = front ++ (reads ++ back) ∧ front.length = outline.nodes.length ∧
      (∀ node ∈ reads, ∃ read guard, node = .read read guard line) ∧
      ∀ ahead word behind spelled, expression.tokens = ahead ++ word :: behind →
        word.word? = some spelled → IsVariableAt ahead spelled behind →
          ((∃ guard, .read spelled guard line ∈ reads) ↔
            ¬ BoundBehind (before.flatMap Segment.effects) spelled ∧ spelled ∉ tagWords) := by
  obtain ⟨_, isTemplate, _⟩ := Parsed.ofTemplate_eq_ok_iff.mp accepted
  obtain ⟨outline, expression, front, back, toOutput, isExpression, isNodes, isFront⟩ :=
    Node.exists_reads_of_output isTemplate cut
  refine ⟨outline, expression, front, _, back, toOutput, isExpression, isNodes, isFront, ?_, ?_⟩
  · intro node member
    obtain ⟨occurrence, _, rfl⟩ := List.mem_map.mp member
    exact ⟨_, _, rfl⟩
  · intro ahead word behind spelled split isWord isVariable
    rw [← Outline.mem_bound_iff toOutput, ← exists_occurrence_iff split isWord isVariable]
    constructor
    · rintro ⟨guard, member⟩
      obtain ⟨occurrence, isOccurrence, same⟩ := List.mem_map.mp member
      cases same
      exact ⟨occurrence, isOccurrence, rfl⟩
    · rintro ⟨occurrence, isOccurrence, rfl⟩
      exact ⟨_, List.mem_map.mpr ⟨occurrence, isOccurrence, rfl⟩⟩

/-- Inside a loop the target of the loop is not read, and another variable is. -/
theorem Parsed.ofTemplate_output_words_loop :
    let text := (Sample.tag "for i in xs" ++ Sample.output "x.i ~ i" ++
      Sample.tag "endfor").toList
    let before : List Segment := [.tag "for i in xs".toList 1]
    let behind : List Token :=
      [⟨.operator ".", 1⟩, ⟨.word "i", 2⟩, ⟨.operator "~", 4⟩, ⟨.word "i", 6⟩]
    let parsed : Parsed := ⟨"page", [.read "xs" .bare 1, .read "x" .bare 1]⟩
    Parsed.ofTemplate "page" text = .ok parsed ∧
      Segment.ofTemplate text = .ok (before ++ .output "x.i ~ i".toList 1 ::
        [.tag "endfor".toList 1]) ∧
      IsVariableAt [] "x" behind ∧ ¬ BoundBehind (before.flatMap Segment.effects) "x" ∧
      BoundBehind (before.flatMap Segment.effects) "i" ∧
      ∃ front reads back, parsed.nodes = front ++ (reads ++ back) ∧ front.length = 1 ∧
        ∃ guard, .read "x" guard 1 ∈ reads := by
  intro text before behind parsed
  have accepted : Parsed.ofTemplate "page" text = .ok parsed := by decide +kernel
  have cut : Segment.ofTemplate text = .ok (before ++ .output "x.i ~ i".toList 1 ::
      [.tag "endfor".toList 1]) := by decide +kernel
  have inLoop : Outline.empty.segments before =
      .ok ⟨[.read "xs" .bare 1], [⟨.loop, 1, ["i"]⟩], false⟩ := by decide +kernel
  have isVariable : IsVariableAt [] "x" behind := by
    constructor
    · decide
    · decide
    · decide
    · decide
    · decide
    · intro front first second none
      simp at none
    · decide
  have free : ¬ BoundBehind (before.flatMap Segment.effects) "x" := by
    rw [← Outline.mem_bound_iff inLoop]
    decide
  have bound : BoundBehind (before.flatMap Segment.effects) "i" := by
    rw [← Outline.mem_bound_iff inLoop]
    decide
  obtain ⟨outline, expression, front, reads, back, toOutput, isExpression, isNodes, isFront, _,
    words⟩ := Parsed.ofTemplate_output_words accepted cut
  cases inLoop.symm.trans toOutput
  have tokens : Expression.ofText "x.i ~ i".toList =
      .ok ⟨"x.i ~ i".toList, ⟨.word "x", 0⟩ :: behind⟩ := by decide +kernel
  cases tokens.symm.trans isExpression
  have read := (words [] ⟨.word "x", 0⟩ behind "x" rfl rfl isVariable).mpr ⟨free, by decide⟩
  exact ⟨accepted, cut, isVariable, free, bound, front, reads, back, isNodes, isFront, read⟩

/-- The word `context` names a variable that no structure binds, and is not read. -/
theorem Parsed.ofTemplate_context_not_read :
    let text := (Sample.output "context").toList
    Segment.ofTemplate text = .ok [.output "context".toList 1] ∧
      Expression.ofText "context".toList =
        .ok ⟨"context".toList, [⟨.word "context", 0⟩]⟩ ∧
      IsVariableAt [] "context" [] ∧ ¬ BoundBehind [] "context" ∧
      Parsed.ofTemplate "t" text = .ok ⟨"t", []⟩ := by
  intro text
  have isVariable : IsVariableAt [] "context" [] := by
    constructor
    · decide
    · decide
    · decide
    · decide
    · decide
    · intro front first second none
      simp at none
    · decide
  have free : ¬ BoundBehind [] "context" := by
    have atStart : Outline.empty.segments [] = .ok .empty := rfl
    intro isBound
    cases (Outline.mem_bound_iff atStart).mpr isBound
  exact ⟨by decide +kernel, by decide +kernel, isVariable, free, by decide +kernel⟩

end Lineage.Template
