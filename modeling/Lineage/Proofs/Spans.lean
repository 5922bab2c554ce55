import Lineage.Samples
import Lineage.Proofs.Pieces
import Lineage.Proofs.Readings

/-!
# What the pieces of a template cover

The pieces of a template cover it from its first character to its last.  `Piece.Shows` says what a
piece shows as segments when it stands behind the characters `before`, and `Spans` says it of
consecutive pieces.  Both speak of the characters themselves and not of how they are found: a run of
text holds no opening delimiter, the body of a construct is its inside without its signs and blanks,
and the line of a segment is told from all that stands in front of it.
-/

namespace Lineage.Template

open Lineage.Text

/-! ## Trimmed texts and bodies -/

/-- No blank at either end. -/
def IsTrimmed (text : List Char) : Prop :=
  (∀ c ∈ text.head?, isBlank c = false) ∧ ∀ c ∈ text.getLast?, isBlank c = false

instance decidableIsTrimmed (text : List Char) : Decidable (IsTrimmed text) :=
  decidable_of_iff (text.head?.all (!isBlank ·) = true ∧ text.getLast?.all (!isBlank ·) = true)
    (by simp [IsTrimmed, Option.all_eq_true])

/-- The second text is the first without the blanks at its two ends. -/
def TrimsTo (text trimmed : List Char) : Prop :=
  IsTrimmed trimmed ∧ ∃ before after, (∀ c ∈ before, isBlank c = true) ∧
    (∀ c ∈ after, isBlank c = true) ∧ text = before ++ trimmed ++ after

/-- The body of a construct is its inside without one sign in front and one behind, as far as there
are such signs, and then without the blanks at its two ends. -/
def IsBodyOf (inner body : List Char) : Prop :=
  ∃ lead core trail, IsSign lead ∧ IsSign trail ∧ inner = lead ++ core ++ trail ∧
    (lead = [] → ∀ c ∈ inner.head?, c ≠ '-' ∧ c ≠ '+') ∧
    (trail = [] → ∀ c ∈ core.getLast?, c ≠ '-' ∧ c ≠ '+') ∧ TrimsTo core body

theorem head?_dropWhile_isBlank (text : List Char) :
    ∀ c ∈ (text.dropWhile isBlank).head?, isBlank c = false := by
  intro c isHead
  have notBlank := List.head?_dropWhile_not isBlank text
  rw [Option.mem_def.mp isHead] at notBlank
  simpa using notBlank

theorem trimsTo_trim (text : List Char) : TrimsTo text (trim text) := by
  obtain ⟨before, areBefore, isFront⟩ := exists_blanks_append text
  obtain ⟨after, areAfter, isBack⟩ := exists_blanks_append (trimStart text).reverse
  have cut : trimStart text = trim text ++ after.reverse := by
    have turned := congrArg List.reverse isBack
    rw [List.reverse_reverse, List.reverse_append] at turned
    exact turned
  refine ⟨⟨?_, ?_⟩, before, after.reverse, areBefore, by simpa using areAfter, ?_⟩
  · intro c isHead
    apply head?_dropWhile_isBlank text
    change c ∈ (trimStart text).head?
    rw [cut, List.head?_append, Option.mem_def.mp isHead]
    rfl
  · rw [trim, trimEnd, List.getLast?_reverse]
    exact head?_dropWhile_isBlank _
  · rw [List.append_assoc, ← cut]
    exact isFront

/-- A text is trimmed in one way only. -/
theorem trim_of_trimsTo {text trimmed : List Char} (trims : TrimsTo text trimmed) :
    trim text = trimmed := by
  obtain ⟨isTrimmed, before, after, areBefore, areAfter, rfl⟩ := trims
  cases trimmed with
  | nil =>
      have blank : ∀ c ∈ before ++ [] ++ after, isBlank c = true := by
        intro c member
        rw [List.append_nil] at member
        exact (List.mem_append.mp member).elim (areBefore c) (areAfter c)
      rw [trim, trimStart, ← List.append_nil (before ++ [] ++ after),
        List.dropWhile_append_of_pos blank]
      rfl
  | cons c rest =>
      have front : trimStart (before ++ (c :: rest ++ after)) = c :: rest ++ after :=
        dropWhile_blanks_append areBefore isTrimmed.1
      have back : (c :: rest ++ after).reverse.dropWhile isBlank = (c :: rest).reverse := by
        rw [List.reverse_append]
        apply dropWhile_blanks_append (by simpa using areAfter)
        rw [List.head?_reverse]
        exact isTrimmed.2
      rw [List.append_assoc, trim, front, trimEnd, back, List.reverse_reverse]

/-- The sign in front that is dropped is the only one that could be. -/
theorem exists_sign (text : List Char) : ∃ sign, IsSign sign ∧ text = sign ++ dropSign text ∧
    (sign = [] → ∀ c ∈ text.head?, c ≠ '-' ∧ c ≠ '+') := by
  obtain ⟨sign, isSign, whole⟩ := exists_sign_append text
  refine ⟨sign, isSign, whole, ?_⟩
  rintro rfl c isHead
  obtain ⟨rest, rfl⟩ := List.head?_eq_some_iff.mp isHead
  by_cases isSignHere : c = '-' ∨ c = '+'
  · rw [dropSign, if_pos isSignHere] at whole
    exact absurd whole (List.cons_ne_self c rest)
  · exact not_or.mp isSignHere

theorem isSign_reverse {sign : List Char} (isSign : IsSign sign) : sign.reverse = sign := by
  rcases isSign with rfl | rfl | rfl <;> rfl

theorem isBodyOf_bodyOf (inner : List Char) : IsBodyOf inner (bodyOf inner) := by
  obtain ⟨lead, isLead, front, onlyLead⟩ := exists_sign inner
  obtain ⟨trail, isTrail, back, onlyTrail⟩ := exists_sign (dropSign inner).reverse
  have core : dropSign inner = (dropSign (dropSign inner).reverse).reverse ++ trail := by
    have turned := congrArg List.reverse back
    rwa [List.reverse_reverse, List.reverse_append, isSign_reverse isTrail] at turned
  refine ⟨lead, _, trail, isLead, isTrail, ?_, onlyLead, ?_, trimsTo_trim _⟩
  · rw [List.append_assoc, ← core]
    exact front
  · rintro rfl c isLast
    apply onlyTrail rfl
    rw [List.append_nil] at core
    rwa [List.head?_reverse, core]

/-! ## Runs of text -/

/-- No opening delimiter in the text. -/
def HasNoOpening (text : List Char) : Prop :=
  ∀ construct : Construct, ¬ construct.opening <:+: text

theorem hasNoOpening_nil : HasNoOpening [] := by
  intro construct inside
  have empty := List.eq_nil_of_infix_nil inside
  cases construct <;> cases empty

theorem opening?_append_opening (construct : Construct) (rest : List Char) :
    opening? (construct.opening ++ rest) = some construct := by
  cases construct <;> rfl

theorem hasNoOpening_cons_iff {c : Char} {rest : List Char} :
    HasNoOpening (c :: rest) ↔ opening? (c :: rest) = none ∧ HasNoOpening rest := by
  constructor
  · intro noOpening
    constructor
    · cases found : opening? (c :: rest) with
      | none => rfl
      | some construct =>
          have whole := opening?_eq_some found
          exact absurd ⟨[], _, whole⟩ (noOpening construct)
    · intro construct inside
      exact noOpening construct (List.infix_cons inside)
  · rintro ⟨notHere, notLater⟩ construct inside
    rcases List.infix_cons_iff.mp inside with here | later
    · obtain ⟨behind, whole⟩ := here
      rw [← whole, opening?_append_opening] at notHere
      cases notHere
    · exact notLater construct later

/-- The text before the first opening delimiter holds none. -/
theorem hasNoOpening_splitAtOpening (text : List Char) :
    HasNoOpening (splitAtOpening text).1 := by
  induction text with
  | nil => exact hasNoOpening_nil
  | cons c rest ih =>
      rw [splitAtOpening]
      split
      · exact hasNoOpening_nil
      · rename_i notHere
        rw [push_fst, hasNoOpening_cons_iff]
        refine ⟨?_, ih⟩
        cases found : opening? (c :: (splitAtOpening rest).1) with
        | none => rfl
        | some construct =>
            have later := opening?_append found (splitAtOpening rest).2
            rw [List.cons_append, splitAtOpening_append] at later
            rw [later] at notHere
            exact absurd rfl notHere

/-- A run of text reaches to the next opening delimiter, if it has none and does not end with what
could begin one. -/
theorem splitAtOpening_append_eq {run rest : List Char} (noOpening : HasNoOpening run)
    (noBrace : run.getLast? ≠ some '{') (opens : rest = [] ∨ (opening? rest).isSome = true) :
    splitAtOpening (run ++ rest) = (run, rest) := by
  induction run with
  | nil =>
      cases rest with
      | nil => rfl
      | cons c tail =>
          have here : (opening? (c :: tail)).isSome = true := opens.resolve_left (by simp)
          rw [List.nil_append, splitAtOpening, if_pos here]
  | cons c run ih =>
      obtain ⟨notHere, notLater⟩ := hasNoOpening_cons_iff.mp noOpening
      have goesOn : opening? (c :: (run ++ rest)) = none := by
        cases run with
        | nil =>
            have other : c ≠ '{' := by simpa using noBrace
            simp [opening?, other]
        | cons next run =>
            rw [List.cons_append, opening?_cons_cons c next (run ++ rest) run]
            exact notHere
      have noBraceLater : run.getLast? ≠ some '{' := by
        cases run with
        | nil => simp
        | cons next run => rwa [List.getLast?_cons_cons] at noBrace
      rw [List.cons_append, splitAtOpening, goesOn, ih notLater noBraceLater]
      rfl

/-! ## What a piece shows -/

/-- The line on which a text goes on behind the characters `before`. -/
def lineBehind (before : List Char) : Nat :=
  1 + lineBreaks before

/-- The segments that a piece shows behind the characters `before`.  A construct begins on the line
of its opening delimiter, and the text of a raw section on the line on which its raw tag ends. -/
inductive Piece.Shows (before : List Char) : Piece → List Segment → Prop
  | text {run : List Char} (filled : run ≠ []) (noOpening : HasNoOpening run) :
      Shows before (.text run) [.text run (lineBehind before)]
  | output {inner body : List Char} (isBody : IsBodyOf inner body) :
      Shows before (.output inner) [.output body (lineBehind before)]
  | tag {inner body : List Char} (isBody : IsBodyOf inner body) (notRaw : body ≠ "raw".toList) :
      Shows before (.tag inner) [.tag body (lineBehind before)]
  | comment {inner body : List Char} (isBody : IsBodyOf inner body) :
      Shows before (.comment inner) [.comment body (lineBehind before)]
  | raw {inner run ending : List Char} (isBody : IsBodyOf inner "raw".toList) (filled : run ≠ [])
      (isEnd : IsEndRaw ending) : Shows before (.raw inner run ending)
        [.text run (lineBehind (before ++ (Piece.tag inner).source))]
  | emptyRaw {inner ending : List Char} (isBody : IsBodyOf inner "raw".toList)
      (isEnd : IsEndRaw ending) : Shows before (.raw inner [] ending) []

/-- The segments that consecutive pieces show behind the characters `before`. -/
inductive Spans : List Char → List Piece → List Segment → Prop
  | nil (before : List Char) : Spans before [] []
  | cons {before : List Char} {piece : Piece} {shown segments : List Segment}
      {pieces : List Piece} (first : piece.Shows before shown)
      (rest : Spans (before ++ piece.source) pieces segments) :
      Spans before (piece :: pieces) (shown ++ segments)

theorem lineBehind_append (before text : List Char) :
    lineBehind (before ++ text) = lineBehind before + lineBreaks text := by
  rw [lineBehind, lineBehind, lineBreaks_append, Nat.add_assoc]

theorem lineBreaks_tag (inner : List Char) :
    lineBreaks (Piece.tag inner).source = lineBreaks inner := by
  simp [Piece.source, lineBreaks]

/-- The first piece of a text is what it is taken for. -/
theorem shows_first {before text rest : List Char} {piece : Piece} (filled : text ≠ [])
    (found : Piece.first text = .ok (piece, rest)) :
    piece.Shows before (piece.segment? (lineBehind before)).toList := by
  cases first_eq_ok_iff.mp found with
  | text noOpening =>
      exact .text (splitAtOpening_fst_ne_nil noOpening filled) (hasNoOpening_splitAtOpening text)
  | output _ => exact .output (isBodyOf_bodyOf _)
  | tag _ notRaw => exact .tag (isBodyOf_bodyOf _) notRaw
  | comment _ => exact .comment (isBodyOf_bodyOf _)
  | @raw _ inner _ run _ _ _ isRaw _ isEnd =>
      have isBody := isBodyOf_bodyOf inner
      rw [isRaw] at isBody
      have isEnd := isEndRaw_of_ending isEnd
      cases run with
      | nil => exact .emptyRaw isBody isEnd
      | cons c run =>
          have line : lineBehind before + lineBreaks inner =
              lineBehind (before ++ (Piece.tag inner).source) := by
            rw [lineBehind_append, lineBreaks_tag]
          simp only [Piece.segment?, List.isEmpty_cons, Bool.false_eq_true, if_false, line]
          exact .raw isBody (List.cons_ne_nil c run) isEnd

/-! ## All pieces -/

theorem spans_ofPieces {before text : List Char} {pieces : List Piece}
    (found : Piece.all (lineBehind before) text = .ok pieces) :
    Spans before pieces (Segment.ofPieces (lineBehind before) pieces) := by
  induction pieces generalizing before text with
  | nil => exact .nil before
  | cons piece pieces ih =>
      obtain ⟨filled, rest, first, others⟩ := all_eq_ok_cons_iff.mp found
      rw [← lineBehind_append] at others
      have shown := ih others
      rw [lineBehind_append] at shown
      exact .cons (shows_first filled first) shown

/-- The pieces of a template that can be cut cover it without a gap, and each segment is what its
piece shows behind all that stands in front of it. -/
theorem Segment.ofTemplate_spans {template : List Char} {segments : List Segment}
    (cut : Segment.ofTemplate template = .ok segments) :
    ∃ pieces, pieces.flatMap Piece.source = template ∧ Spans [] pieces segments := by
  obtain ⟨pieces, found, rfl⟩ := Segment.ofTemplate_eq_ok_iff.mp cut
  have start : lineBehind [] = 1 := rfl
  rw [← start] at found ⊢
  exact ⟨pieces, pieces_source found, spans_ofPieces found⟩

/-- A raw section whose text would else be an output, an empty one, and signs that are dropped. -/
theorem Segment.ofTemplate_spans_raw_section :
    let template := ("a\n\x7b%- raw\n%\x7d" ++ Sample.output "x" ++ "\x7b%+ endraw -%\x7d" ++
      "\x7b\x7b--y\n-\x7d\x7d" ++ Sample.tag "raw" ++ Sample.tag "endraw" ++ "\x7b").toList
    let segments := [.text "a\n".toList 1, .text (Sample.output "x").toList 3,
      .output "-y".toList 3, .text "\x7b".toList 4]
    Segment.ofTemplate template = .ok segments ∧
      ∃ pieces, pieces.flatMap Piece.source = template ∧ Spans [] pieces segments := by
  intro template segments
  have cut : Segment.ofTemplate template = .ok segments := by decide +kernel
  exact ⟨cut, Segment.ofTemplate_spans cut⟩

end Lineage.Template
