import Lineage.Proofs.BlockNesting
import Lineage.Proofs.Descriptions
import Lineage.Proofs.Parents
import Lineage.Proofs.WordsInBodies

/-!
# Attributes in a template

The name of an attribute stands behind a point, in an output or a tag.  Replaced by another
identifier, it leaves the template accepted, with the same nodes up to the descriptions of
fallbacks, as long as no search for a word takes the one or the other for what it looks for
(`Parsed.ofTemplate_attribute`).  For these searches the point does not count, so that in general
names of attributes are not inert: `x.super()` is a call of `super`
(`Parsed.ofTemplate_attribute_super`).
-/

namespace Lineage.Template

open Lineage.Text

/-! ## Renamed effects -/

namespace Expression.Alike

variable {first second third : Expression}

theorem symm (alike : first.Alike second) : second.Alike first where
  occurrences context bound := (alike.occurrences context bound).symm
  callsSuper := alike.callsSuper.symm

theorem trans (alike : first.Alike second) (others : second.Alike third) : first.Alike third where
  occurrences context bound :=
    (alike.occurrences context bound).trans (others.occurrences context bound)
  callsSuper := alike.callsSuper.trans others.callsSuper

end Expression.Alike

/-- The expression has an inline condition. -/
def Expression.IsConditional (expression : Expression) : Prop :=
  InlineCondition.all [] expression.tokens ≠ []

/-- The name is a word in the test of an inline condition, or one of the modifiers that may have
been dropped behind it. -/
def Expression.Tests (expression : Expression) (name : String) : Prop :=
  TestsWord expression.tokens name ∨ (expression.IsConditional ∧ name ∈ modifierWords)

variable {apart : Prop} {old new : String}

theorem Expression.Renamed.alike {expression expression' : Expression}
    (renamed : expression.Renamed apart old new expression') (noIf : old ≠ "if" ∧ new ≠ "if")
    (noElse : expression.IsConditional → old ≠ "else" ∧ new ≠ "else")
    (tested : expression.Tests old → apart) : expression.Alike expression' := by
  rcases renamed with ⟨whole, whole', isLeft, isLeft', renames⟩
  have conditional (some : InlineCondition.all [] whole ≠ []) : expression.IsConditional :=
    fun none => some (isLeft.all_eq_nil none)
  have between : (expression.part whole).Alike (expression'.part whole') := by
    apply renames.expression_alike noIf (fun some => noElse (conditional some))
    intro tests
    apply tested
    exact (isLeft.testsWord tests).imp_right fun isModifier =>
      ⟨conditional tests.all_ne_nil, isModifier⟩
  exact isLeft.part_alike.symm.trans (between.trans isLeft'.part_alike)

theorem Effect.forall₂_alike {effects effects' : List Effect}
    (renamed : List.Forall₂ (Effect.Renamed apart old new) effects effects')
    (noIf : old ≠ "if" ∧ new ≠ "if")
    (noElse : ∀ expression ∈ effects.filterMap Effect.scanned?, expression.IsConditional →
      old ≠ "else" ∧ new ≠ "else")
    (tested : ∀ expression ∈ effects.filterMap Effect.scanned?, expression.Tests old → apart) :
    List.Forall₂ Effect.Alike effects effects' := by
  simp only [List.mem_filterMap, forall_exists_index, and_imp] at noElse tested
  induction renamed with
  | nil => exact .nil
  | cons first others ih =>
      refine .cons ?_ (ih ?_ ?_)
      · have noElseHere := fun expression => noElse expression _ List.mem_cons_self
        have testedHere := fun expression => tested expression _ List.mem_cons_self
        cases first with
        | same => exact .same _
        | read context renamed =>
            exact .read context (renamed.alike noIf (noElseHere _ rfl) (testedHere _ rfl))
        | test renamed => exact .test (renamed.alike noIf (noElseHere _ rfl) (testedHere _ rfl))
      · exact fun expression effect member =>
          noElse expression effect (List.mem_cons_of_mem _ member)
      · exact fun expression effect member =>
          tested expression effect (List.mem_cons_of_mem _ member)

/-! ## Tags whose argument has no attribute -/

namespace Token.Reads

variable {start : Nat} {text : List Char} {tokens : List Token}

/-- Every word of an expression is an identifier. -/
theorem isIdentifier (reads : Reads start text tokens) :
    ∀ token ∈ tokens, ∀ name ∈ token.word?, IsIdentifier name := by
  intro token member name isWord
  obtain ⟨_, _, _, _, _, _, read⟩ := reads.exists_read token member
  rw [Token.word?_eq_some_iff.mp isWord] at read
  exact (isIdentifier_of_read read).1

/-- The characters of a token stand in the text. -/
theorem mem_text (reads : Reads start text tokens) :
    ∀ token ∈ tokens, ∀ c ∈ token.lexeme.source, c ∈ text := by
  intro token member c inside
  obtain ⟨front, _, _, _, rfl, _, read⟩ := reads.exists_read token member
  rw [← read_source read]
  exact List.mem_append_right front (List.mem_append_left _ inside)

end Token.Reads

/-- A single string literal is a single token. -/
theorem length_of_isLiteral {text : List Char} {name : String} {expression : Expression}
    (isLiteral : IsLiteral text name) (read : Expression.ofText text = .ok expression) :
    expression.tokens.length = 1 := by
  rcases isLiteral with ⟨mark, isQuote, quoted, rfl⟩
  rcases Expression.ofText_eq_ok_iff.mp read with ⟨_, reads, _⟩
  have kind : isSeparator mark = false ∧ startsWord mark = false ∧ mark.isDigit = false ∧
      mark ≠ '\\' := by
    rcases isQuote with rfl | rfl
    · decide
    · decide
  have isMark : mark = '"' ∨ mark = '\'' := isQuote
  have isRead : Lexeme.read mark (name.toList ++ [mark]) = .ok (.literal mark name.toList, []) := by
    rw [Lexeme.read, kind.2.1, if_neg Bool.false_ne_true, kind.2.2.1, if_neg Bool.false_ne_true,
      if_pos isMark, splitLiteral?_of_isQuoted kind.2.2.2 quoted]
  have single : Token.Reads 0 (mark :: (name.toList ++ [mark])) [⟨.literal mark name.toList, 0⟩] :=
    .lexeme kind.1 isRead (.nil _)
  have same := (Token.all_eq_ok_iff.mpr reads).symm.trans (Token.all_eq_ok_iff.mpr single)
  rw [Except.ok.inj same]
  rfl

/-- The argument of an `extends` tag in a template that is accepted is a single string literal. -/
theorem isLiteral_of_extends {before after : List Segment} {body : List Char} {line : Nat}
    {outline : Outline}
    (done : Outline.empty.segments (before ++ .tag body line :: after) = .ok outline)
    (noDynamic : outline.nodes.findSome? Node.dynamicParent? = none)
    (isTag : tagName body = "extends") : ∃ name, IsLiteral (tagArgument body) name := by
  have parentsOf := Outline.parentsOf_segments done
  have literal := dynamic_notMem_parents noDynamic
  generalize parents outline.nodes = found at parentsOf literal
  cases parentsOf with
  | absent none =>
      have notTag := List.countP_eq_zero.mp none (.tag body line) (by simp)
      exact absurd (isExtendsTag_tag.mpr isTag) notTag
  | literal named =>
      obtain ⟨single, before', body', line', after', same, isTag', _, isLiteral⟩ := named
      obtain ⟨_, sameTag⟩ := eq_of_countP_eq_one single (isExtendsTag_tag.mpr isTag)
        (isExtendsTag_tag.mpr isTag') same
      cases sameTag
      exact ⟨_, isLiteral⟩
  | dynamic expression => exact absurd (List.mem_singleton_self _) (literal expression)

/-- The name of a block is an identifier. -/
theorem isIdentifier_of_mark {body : List Char} {line : Nat} {name : String}
    (isMark : (Segment.tag body line).mark? = some (.begins (.block name))) :
    IsIdentifier name := by
  rw [Segment.mark?] at isMark
  unfold Mark.ofTag? at isMark
  split at isMark
  case h_1 =>
    obtain ⟨_, isName, same⟩ := Option.map_eq_some_iff.mp isMark
    cases same
    rw [blockName?] at isName
    cases read : Expression.ofText (tagArgument body) with
    | error cause =>
        rw [read] at isName
        cases isName
    | ok expression =>
        rw [read] at isName
        have isHead : expression.tokens.head?.bind Token.word? = some name := isName
        obtain ⟨first, isFirst, isWord⟩ := Option.bind_eq_some_iff.mp isHead
        rcases Expression.ofText_eq_ok_iff.mp read with ⟨_, reads, _⟩
        exact reads.isIdentifier first (List.mem_of_head? isFirst) name isWord
  case h_10 =>
    split at isMark
    · cases isMark
    · cases isMark
  all_goals cases isMark

/-- The name in an `endblock` tag, if there is one, has no point. -/
theorem noPoint_of_endBlock {parts : List Segment} {body : List Char} {line : Nat}
    {middle after : Outline} (done : Outline.empty.segments parts = .ok middle)
    (ran : middle.segment (.tag body line) = .ok after) (isTag : tagName body = "endblock") :
    '.' ∉ tagArgument body := by
  have runs : Mark.Runs (parts.filterMap Segment.mark?) [] middle.shapes :=
    Outline.runs_of_segments done
  have turned := Outline.runs_of_segment ran
  rw [Segment.mark?, isTag] at turned
  obtain ⟨_, turns, _⟩ := Mark.runs_cons_iff.mp turned
  generalize middle.shapes = shapes at runs turns
  cases turns with
  | closes closes outer =>
      cases closes with
      | @block name _ named =>
          rw [← List.nil_append (Shape.block name :: _)] at runs
          rcases exists_tag_of_runs runs with ⟨_, _, _, _, isMark, _⟩
          have continues := (isIdentifier_of_mark isMark).continuesWord_of_mem
          intro inside
          rw [← String.toList_ofList (l := tagArgument body)] at inside
          rcases named with nameless | isName
          · rw [nameless] at inside
            cases inside
          · rw [isName] at inside
            exact absurd (continues '.' inside) (by decide)

/-! ## Places for a name -/

/-- A place for a name in an output or a tag of a template: the pieces around its own, and what
stands before and after the name in its own. -/
structure NamePlace where
  front : List Piece
  inTag : Bool
  before : List Char
  after : List Char
  back : List Piece
deriving DecidableEq, Repr

namespace NamePlace

section Template

variable (place : NamePlace) (name : String)

/-- Whether the place is in a tag or in an output. -/
def construct : Construct :=
  if place.inTag then .tag else .output

/-- The inside of the output or the tag, with the name at the place. -/
def inner : List Char :=
  place.before ++ (name.toList ++ place.after)

/-- The output or the tag. -/
def piece : Piece :=
  if place.inTag then .tag (place.inner name) else .output (place.inner name)

/-- The pieces of the template. -/
def pieces : List Piece :=
  place.front ++ place.piece name :: place.back

/-- The template with the name at the place. -/
def write : List Char :=
  (place.pieces name).flatMap Piece.source

/-- The name of the tag, if the place is in one. -/
def tag : String :=
  if place.inTag then tagName (bodyOf (place.inner name)) else ""

/-- The text of the expression in which the name stands. -/
def text : List Char :=
  if place.inTag then tagArgument (bodyOf (place.inner name)) else bodyOf (place.inner name)

/-- What stands before the name in its expression. -/
def lead : List Char :=
  if place.inTag then trimStart ((bodyStart place.before).dropWhile continuesTagName)
  else bodyStart place.before

/-- What stands after the name in its expression. -/
def tail : List Char :=
  if place.inTag then trimEnd (bodyEnd place.after) else bodyEnd place.after

/-- The segment of the output or the tag. -/
def segment (line : Nat) : Segment :=
  if place.inTag then .tag (bodyOf (place.inner name)) line
  else .output (bodyOf (place.inner name)) line

/-- What the output or the tag does. -/
def effects : List Effect :=
  if place.inTag then Effect.ofTag (bodyOf (place.inner name))
  else Effect.ofOutput (bodyOf (place.inner name))

/-- The expressions that are looked through there for reads and calls. -/
def scanned : List Expression :=
  (place.effects name).filterMap Effect.scanned?

end Template

/-- The name at the place is that of an attribute: the place is in a piece of the template, and in
the expression the name is a word right behind a point, in front of the tokens `behind`. -/
structure IsAttribute (place : NamePlace) (name : String) (expression : Expression)
    (behind : List Token) : Prop where
  isPiece : Piece.all 1 (place.write name) = .ok (place.pieces name)
  isExpression : Expression.ofText (place.text name) = .ok expression
  isBehindPoint : ∃ ahead point, point.isSign "." = true ∧
    expression.tokens = ahead ++ point :: ⟨.word name, place.lead.length⟩ :: behind

/-- Whether the old or the new name stands at the place is not noticed by the searches for a word
that pass over a point.  Neither is a keyword that they look for there.  And if the old one is a word
in the test of an inline condition, neither is a word that names no attribute, since the words of a
test are compared to those. -/
structure Unnoticed (place : NamePlace) (old new : String) (expression : Expression)
    (behind : List Token) : Prop where
  inertOld : IsInertName old behind
  inertNew : IsInertName new behind
  spares : SparesKeywords old new (place.tag old)
  noElse : ∀ scanned ∈ place.scanned old, scanned.IsConditional → old ≠ "else" ∧ new ≠ "else"
  tested : ∀ scanned ∈ place.scanned old, scanned.Tests old →
    AreApart old new false expression.tokens

/-! ### The template with another name -/

section Replacement

variable {place : NamePlace} {old new : String}

theorem behindName (filled : place.lead ≠ []) (isTag : place.inTag = true) :
    (bodyStart place.before).dropWhile continuesTagName ≠ [] := by
  intro none
  rw [lead, if_pos isTag, none] at filled
  exact filled rfl

theorem text_eq (filled : place.lead ≠ []) {name : String} (identifier : IsIdentifier name) :
    place.text name = place.lead ++ (name.toList ++ place.tail) := by
  rw [text, inner, bodyOf_word identifier.isWordText, lead, tail]
  cases isTag : place.inTag with
  | false => rfl
  | true => exact (tagArgument_word identifier.isWordText (behindName filled isTag) _).2

theorem tag_eq (filled : place.lead ≠ []) (identifier : IsIdentifier old)
    (identifier' : IsIdentifier new) : place.tag new = place.tag old := by
  rw [tag, tag, inner, inner, bodyOf_word identifier.isWordText, bodyOf_word identifier'.isWordText]
  cases isTag : place.inTag with
  | false => rfl
  | true =>
      have named {name : String} (identifier : IsIdentifier name) :=
        (tagArgument_word identifier.isWordText (behindName filled isTag) (bodyEnd place.after)).1
      exact (named identifier').trans (named identifier).symm

/-- An expression behind the name of a tag is no part of the tag that begins a raw section. -/
theorem notRaw (filled : place.lead ≠ []) (isTag : place.inTag = true)
    (identifier : IsIdentifier new) : bodyOf (place.inner new) ≠ "raw".toList := by
  intro isRaw
  have ended := congrArg (List.dropWhile continuesTagName) isRaw
  have behind := behindName filled isTag
  rw [inner, bodyOf_word identifier.isWordText, List.dropWhile_append,
    if_neg (by simpa using behind)] at ended
  have none : "raw".toList.dropWhile continuesTagName = [] := by decide
  rw [none, List.append_eq_nil_iff] at ended
  exact behind ended.1

/-- The output or the tag is a piece with the one name as with the other. -/
theorem first_piece (filled : place.lead ≠ []) (identifier : IsIdentifier old)
    (identifier' : IsIdentifier new) {more : List Char}
    (found : Piece.first ((place.piece old).source ++ more) = .ok (place.piece old, more)) :
    Piece.first ((place.piece new).source ++ more) = .ok (place.piece new, more) := by
  have replaced {closer : Char} (noCloser : continuesWord closer = false)
      (split : splitAtClosing closer .start (place.inner old ++ closer :: '}' :: more) =
        .ok (place.inner old, more)) :
      splitAtClosing closer .start (place.inner new ++ closer :: '}' :: more) =
        .ok (place.inner new, more) := by
    rw [inner, List.append_assoc, List.append_assoc] at split ⊢
    exact splitAtClosing_replace noCloser Cursor.isSound_start identifier.isWordText
      identifier'.isWordText split
  rw [piece] at found ⊢
  cases isTag : place.inTag with
  | false =>
      rw [isTag] at found
      exact first_output_iff.mpr (replaced (by decide) (first_output_iff.mp found))
  | true =>
      rw [isTag] at found
      exact first_tag_iff.mpr
        ⟨replaced (by decide) (first_tag_iff.mp found).1, notRaw filled isTag identifier'⟩

theorem source_piece (place : NamePlace) (name : String) : (place.piece name).source =
    place.construct.opening ++ (place.inner name ++ place.construct.closing) := by
  rw [piece, construct]
  cases place.inTag <;> rfl

theorem all_write (filled : place.lead ≠ []) (identifier : IsIdentifier old)
    (identifier' : IsIdentifier new)
    (isPiece : Piece.all 1 (place.write old) = .ok (place.pieces old)) :
    Piece.all 1 (place.write new) = .ok (place.pieces new) := by
  have long : 2 ≤ place.construct.opening.length := by
    cases place.construct <;> decide
  exact all_replace long (place.source_piece old) (place.source_piece new)
    (fun more => first_piece filled identifier identifier') isPiece

theorem lineBreaks_piece (identifier : IsIdentifier old) (identifier' : IsIdentifier new) :
    lineBreaks (place.piece new).source = lineBreaks (place.piece old).source := by
  have none {name : String} (identifier : IsIdentifier name) : lineBreaks name.toList = 0 := by
    rw [lineBreaks, List.count_eq_zero]
    intro member
    exact absurd (identifier.continuesWord_of_mem '\n' member) (by decide)
  simp only [source_piece, inner, lineBreaks_append, none identifier, none identifier']

/-- The segments of the template, with the one of the place in the middle. -/
theorem exists_segments (filled : place.lead ≠ []) (identifier : IsIdentifier old)
    (identifier' : IsIdentifier new)
    (isPiece : Piece.all 1 (place.write old) = .ok (place.pieces old)) :
    ∃ front line back,
      Segment.ofTemplate (place.write old) = .ok (front ++ place.segment old line :: back) ∧
      Segment.ofTemplate (place.write new) = .ok (front ++ place.segment new line :: back) := by
  have isSegment (name : String) (line : Nat) :
      (place.piece name).segment? line = some (place.segment name line) := by
    rw [piece, segment]
    cases place.inTag <;> rfl
  have split (name : String) : Segment.ofPieces 1 (place.pieces name) =
      Segment.ofPieces 1 place.front ++
        place.segment name (1 + lineBreaks (place.front.flatMap Piece.source)) ::
          Segment.ofPieces (1 + lineBreaks (place.front.flatMap Piece.source) +
            lineBreaks (place.piece name).source) place.back := by
    rw [pieces, ofPieces_append, Segment.ofPieces, isSegment]
    rfl
  have cut {name : String} (isPiece : Piece.all 1 (place.write name) = .ok (place.pieces name)) :
      Segment.ofTemplate (place.write name) =
        .ok (Segment.ofPieces 1 (place.pieces name)) := by
    rw [Segment.ofTemplate, isPiece]
    rfl
  refine ⟨_, _, _, (cut isPiece).trans (congrArg _ (split old)), ?_⟩
  rw [cut (all_write filled identifier identifier' isPiece), split new,
    lineBreaks_piece identifier identifier']

end Replacement

/-! ### What the template does -/

namespace IsAttribute

variable {place : NamePlace} {old new : String} {expression : Expression} {behind : List Token}
  (isAttribute : place.IsAttribute old expression behind)
include isAttribute

theorem reads : Token.Reads 0 (place.text old) expression.tokens :=
  (Expression.ofText_eq_ok_iff.mp isAttribute.isExpression).2.1

theorem isIdentifier : IsIdentifier old := by
  rcases isAttribute.isBehindPoint with ⟨ahead, point, _, isTokens⟩
  exact isAttribute.reads.isIdentifier ⟨.word old, place.lead.length⟩ (by simp [isTokens]) old rfl

/-- The point stands in front of the name. -/
theorem lead_ne_nil : place.lead ≠ [] := by
  rcases isAttribute.isBehindPoint with ⟨ahead, point, _, isTokens⟩
  have reads := isAttribute.reads
  rw [isTokens] at reads
  rcases reads.exists_behind with ⟨_, _, _, fromPoint⟩
  have filled := (fromPoint.start_le point List.mem_cons_self).2
  have inFront := fromPoint.stop_le_start _ List.mem_cons_self
  apply List.ne_nil_of_length_pos
  exact Nat.lt_of_lt_of_le (Nat.lt_of_le_of_lt (Nat.zero_le _) filled) inFront

theorem point_mem_text : '.' ∈ place.text old := by
  rcases isAttribute.isBehindPoint with ⟨ahead, point, isPoint, isTokens⟩
  rw [Token.isSign, beq_iff_eq] at isPoint
  apply isAttribute.reads.mem_text point (by simp [isTokens])
  rw [isPoint]
  exact List.mem_cons_self

/-- An `extends` tag that is accepted holds a literal and no attribute. -/
theorem tag_ne_extends {front back : List Segment} {line : Nat} {outline : Outline}
    (done : Outline.empty.segments (front ++ place.segment old line :: back) = .ok outline)
    (noDynamic : outline.nodes.findSome? Node.dynamicParent? = none) :
    place.tag old ≠ "extends" := by
  intro isExtends
  have read := isAttribute.isExpression
  rw [segment] at done
  rw [tag] at isExtends
  rw [text] at read
  cases isTag : place.inTag with
  | false =>
      rw [isTag, if_neg Bool.false_ne_true] at isExtends
      exact absurd isExtends (by decide)
  | true =>
      rw [isTag] at done isExtends read
      rcases isLiteral_of_extends done noDynamic isExtends with ⟨_, isLiteral⟩
      have single := length_of_isLiteral isLiteral read
      rcases isAttribute.isBehindPoint with ⟨ahead, point, _, isTokens⟩
      rw [isTokens, List.length_append, List.length_cons, List.length_cons] at single
      omega

/-- An `endblock` tag that is accepted holds at most the name of a block. -/
theorem tag_ne_endBlock {front : List Segment} {line : Nat} {before middle : Outline}
    (done : Outline.empty.segments front = .ok before)
    (ran : before.segment (place.segment old line) = .ok middle) :
    place.tag old ≠ "endblock" := by
  intro isEndBlock
  have isPoint := isAttribute.point_mem_text
  rw [segment] at ran
  rw [tag] at isEndBlock
  rw [text] at isPoint
  cases isTag : place.inTag with
  | false =>
      rw [isTag, if_neg Bool.false_ne_true] at isEndBlock
      exact absurd isEndBlock (by decide)
  | true =>
      rw [isTag] at ran isEndBlock isPoint
      exact noPoint_of_endBlock done ran isEndBlock isPoint

theorem renamesText (identifier : IsIdentifier new)
    (unnoticed : place.Unnoticed old new expression behind) :
    RenamesText (AreApart old new false expression.tokens) old new (place.text old)
      (place.text new) := by
  have filled := isAttribute.lead_ne_nil
  have read := isAttribute.isExpression
  have isSource := (Expression.ofText_eq_ok_iff.mp read).1
  rcases isAttribute.isBehindPoint with ⟨ahead, point, isPoint, isTokens⟩
  rw [text_eq filled isAttribute.isIdentifier] at read isSource ⊢
  rw [text_eq filled identifier]
  rcases expression with ⟨source, tokens⟩
  cases isSource
  cases isTokens
  exact .of_word isPoint identifier read unnoticed.inertOld unnoticed.inertNew id

theorem effects_alike (identifier : IsIdentifier new)
    (unnoticed : place.Unnoticed old new expression behind) (noExtends : place.tag old ≠ "extends")
    (noEndBlock : place.tag old ≠ "endblock")
    (accepted : (place.effects old).any Effect.isRefusal = false) :
    List.Forall₂ Effect.Alike (place.effects old) (place.effects new) := by
  have filled := isAttribute.lead_ne_nil
  have renames := isAttribute.renamesText identifier unnoticed
  have sameTag := tag_eq filled isAttribute.isIdentifier identifier
  have spares := unnoticed.spares
  apply Effect.forall₂_alike _ spares.noIf unnoticed.noElse unnoticed.tested
  rw [effects] at accepted
  rw [effects, effects]
  rw [tag] at noExtends noEndBlock
  rw [tag, tag] at sameTag
  have notEmpty : place.text new ≠ [] := by
    rw [text_eq filled identifier]
    exact fun none => filled (List.append_eq_nil_iff.mp none).1
  rw [tag] at spares
  rw [text] at notEmpty
  rw [text, text] at renames
  cases isTag : place.inTag with
  | true =>
      rw [isTag, if_pos rfl] at accepted noExtends noEndBlock spares
      rw [isTag, if_pos rfl, if_pos rfl] at renames sameTag
      rw [if_pos rfl, if_pos rfl]
      exact ofTag_renamed sameTag spares noExtends noEndBlock renames accepted
  | false =>
      rw [isTag, if_neg Bool.false_ne_true] at accepted notEmpty
      rw [isTag, if_neg Bool.false_ne_true, if_neg Bool.false_ne_true] at renames
      rw [if_neg Bool.false_ne_true, if_neg Bool.false_ne_true]
      exact ofOutput_renamed notEmpty renames accepted

end IsAttribute

theorem segment_eq (place : NamePlace) (name : String) (outline : Outline) (line : Nat) :
    outline.segment (place.segment name line) = outline.applyAll line (place.effects name) := by
  rw [segment, effects]
  cases place.inTag <;> rfl

theorem effects_segment (place : NamePlace) (name : String) (line : Nat) :
    (place.segment name line).effects = place.effects name := by
  rw [segment, effects]
  cases place.inTag <;> rfl

end NamePlace

/-- An attribute in a template that is accepted may have any other name that is not noticed: the
template is accepted too, and it has the same nodes up to the descriptions of fallbacks. -/
theorem Parsed.ofTemplate_attribute {place : NamePlace} {name old new : String}
    {expression : Expression} {behind : List Token} {parsed : Parsed}
    (isAttribute : place.IsAttribute old expression behind) (identifier : IsIdentifier new)
    (unnoticed : place.Unnoticed old new expression behind)
    (accepted : Parsed.ofTemplate name (place.write old) = .ok parsed) :
    ∃ parsed', Parsed.ofTemplate name (place.write new) = .ok parsed' ∧ parsed'.name = parsed.name ∧
      parsed'.nodes.map Node.undescribed = parsed.nodes.map Node.undescribed := by
  obtain ⟨isName, isTemplate, noDynamic⟩ := Parsed.ofTemplate_eq_ok_iff.mp accepted
  obtain ⟨parts, outline, cut, done, closed, isNodes⟩ := Node.ofTemplate_eq_ok_iff.mp isTemplate
  obtain ⟨front, line, back, cutOld, cutNew⟩ := NamePlace.exists_segments isAttribute.lead_ne_nil
    isAttribute.isIdentifier identifier isAttribute.isPiece
  cases cut.symm.trans cutOld
  obtain ⟨before, ranFront, others⟩ := Outline.foldlM_append_eq_ok_iff.mp done
  obtain ⟨middle, ran, ranBack⟩ := Outline.foldlM_cons_eq_ok_iff.mp others
  have refused : (place.effects old).any Effect.isRefusal = false := by
    have isAccepted := Outline.isAccepted_of_segment ran
    rwa [Segment.isAccepted, place.effects_segment, Bool.not_eq_true'] at isAccepted
  rw [← isNodes] at noDynamic
  have alike := isAttribute.effects_alike identifier unnoticed
    (isAttribute.tag_ne_extends done noDynamic) (isAttribute.tag_ne_endBlock ranFront ran) refused
  rw [place.segment_eq] at ran
  obtain ⟨middle', ran', between⟩ := (Outline.Alike.refl before).applyAll alike ran
  obtain ⟨after', ranBack', whole⟩ := between.segments ranBack
  rw [← place.segment_eq] at ran'
  have done' : Outline.empty.segments (front ++ place.segment new line :: back) = .ok after' :=
    Outline.foldlM_append_eq_ok_iff.mpr
      ⟨before, ranFront, Outline.foldlM_cons_eq_ok_iff.mpr ⟨middle', ran', ranBack'⟩⟩
  have noDynamic' : after'.nodes.findSome? Node.dynamicParent? = none := by
    rw [← Node.dynamicParent?_undescribed, ← List.findSome?_map, whole.nodes,
      List.findSome?_map, Node.dynamicParent?_undescribed] at noDynamic
    exact noDynamic
  refine ⟨⟨name, after'.nodes⟩, Parsed.ofTemplate_eq_ok_iff.mpr ⟨rfl, ?_, noDynamic'⟩,
    isName.symm, ?_⟩
  · exact Node.ofTemplate_eq_ok_iff.mpr
      ⟨_, after', cutNew, done', whole.frames.symm.trans closed, rfl⟩
  · rw [← isNodes]
    exact whole.nodes.symm

/-- An attribute in the test of an inline condition, with another name. -/
theorem Parsed.ofTemplate_attribute_tested :
    let place : NamePlace := ⟨[.text "Draft: ".toList], false, " page.title if page.".toList,
      " else site.title ".toList, []⟩
    let behind : List Token :=
      [⟨.word "else", 25⟩, ⟨.word "site", 30⟩, ⟨.operator ".", 34⟩, ⟨.word "title", 35⟩]
    let expression : Expression := ⟨"page.title if page.draft else site.title".toList,
      [⟨.word "page", 0⟩, ⟨.operator ".", 4⟩, ⟨.word "title", 5⟩, ⟨.word "if", 11⟩,
        ⟨.word "page", 14⟩, ⟨.operator ".", 18⟩, ⟨.word "draft", 19⟩] ++ behind⟩
    place.IsAttribute "draft" expression behind ∧ IsIdentifier "hidden" ∧
      place.Unnoticed "draft" "hidden" expression behind ∧
      ∃ parsed parsed', Parsed.ofTemplate "page" (place.write "draft") = .ok parsed ∧
        Parsed.ofTemplate "page" (place.write "hidden") = .ok parsed' ∧
          parsed'.name = parsed.name ∧
            parsed'.nodes.map Node.undescribed = parsed.nodes.map Node.undescribed := by
  intro place behind expression
  have isAttribute : place.IsAttribute "draft" expression behind := by
    refine ⟨by decide +kernel, by decide +kernel, ?_⟩
    exact ⟨[⟨.word "page", 0⟩, ⟨.operator ".", 4⟩, ⟨.word "title", 5⟩, ⟨.word "if", 11⟩,
      ⟨.word "page", 14⟩], ⟨.operator ".", 18⟩, by decide, by decide +kernel⟩
  have identifier : IsIdentifier "hidden" :=
    ⟨'h', "idden".toList, by decide, by decide, List.all_eq_true.mp (by decide)⟩
  have unnoticed : place.Unnoticed "draft" "hidden" expression behind := by
    refine ⟨⟨by decide, by decide⟩, ⟨by decide, by decide⟩, ⟨by decide, ?_, ?_⟩, ?_, ?_⟩
    · exact fun isImport => absurd isImport (by decide)
    · exact fun isFrom => absurd isFrom (by decide)
    · exact fun _ _ _ => by decide
    · exact fun _ _ _ => ⟨by decide, by decide⟩
  let parsed : Parsed := ⟨"page", [.text 7 1, .read "page" .conditional 1,
    .read "page" .conditional 1, .read "site" .bare 1]⟩
  have accepted : Parsed.ofTemplate "page" (place.write "draft") = .ok parsed := by decide +kernel
  obtain ⟨parsed', accepted', same⟩ :=
    Parsed.ofTemplate_attribute isAttribute identifier unnoticed accepted
  exact ⟨isAttribute, identifier, unnoticed, parsed, parsed', accepted, accepted', same⟩

/-- An attribute with the name `super` in front of a bracket is taken for a call of `super`: the
template is refused, and with another name it is accepted. -/
theorem Parsed.ofTemplate_attribute_super :
    let place : NamePlace := ⟨[], false, " x.".toList, "() ".toList, []⟩
    (∃ expression behind, place.IsAttribute "size" expression behind) ∧ IsIdentifier "super" ∧
      Parsed.ofTemplate "page" (place.write "size") = .ok ⟨"page", [.read "x" .bare 1]⟩ ∧
        Parsed.ofTemplate "page" (place.write "super") =
          .error (.parse "page" 1 "super() used outside of a block") := by
  intro place
  refine ⟨⟨⟨"x.size()".toList, [⟨.word "x", 0⟩, ⟨.operator ".", 1⟩, ⟨.word "size", 2⟩,
    ⟨.operator "(", 6⟩, ⟨.operator ")", 7⟩]⟩, [⟨.operator "(", 6⟩, ⟨.operator ")", 7⟩],
    by decide +kernel, by decide +kernel, ?_⟩, ?_, by decide +kernel, by decide +kernel⟩
  · exact ⟨[⟨.word "x", 0⟩], ⟨.operator ".", 1⟩, by decide, by decide +kernel⟩
  · exact ⟨'s', "uper".toList, by decide, by decide, List.all_eq_true.mp (by decide)⟩

end Lineage.Template
