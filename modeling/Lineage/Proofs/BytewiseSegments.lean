import Lineage.Bytewise.Segment
import Lineage.Proofs.Spans

/-!
# Cutting a template by positions

The reading of a template by positions never breaks off in its delimiters, and its segments are the
segments of the template (`segmentsFrom_eq`).  The position always stands between two characters:
what is in front of it is a list of characters whose bytes it counts.
-/

namespace Lineage.Bytewise

open Lineage.Text Lineage.Template

/-! ## Line breaks -/

theorem newlines_eq (text : List Char) : newlines text = lineBreaks text := by
  induction text with
  | nil => rfl
  | cons c rest ih =>
      have here : (String.utf8EncodeChar c).count '\n'.toUInt8 = if c = '\n' then 1 else 0 := by
        split
        · rename_i isBreak
          subst isBreak
          decide
        · rename_i noBreak
          rw [List.count_eq_zero]
          intro member
          exact noBreak ((eq_toUInt8_iff (by decide) member).mp rfl)
      rw [newlines, bytes_cons, List.count_append, here]
      change _ + newlines rest = _
      rw [ih, lineBreaks, lineBreaks, List.count_cons]
      simp only [beq_iff_eq]
      omega

/-! ## Opening delimiters -/

theorem findOpening_of_ne {source : List UInt8} {position : Nat} {byte : UInt8}
    (here : source[position]? = some byte) (noBrace : byte ≠ '{'.toUInt8) :
    findOpening source position = findOpening source (position + 1) := by
  have inside : position < source.length := (List.getElem?_eq_some_iff.mp here).1
  conv => lhs; rw [findOpening]
  split
  · rw [here]
    simp only [Option.bind_eq_bind, Option.bind_some, noBrace, if_false]
  · rw [findOpening, if_neg (by omega)]

/-- No opening delimiter begins inside the bytes of a character other than a brace. -/
theorem findOpening_behind (before : List Char) {c : Char} (rest : List Char) (noBrace : c ≠ '{') :
    findOpening (bytes (before ++ c :: rest)) (byteLength before) =
      findOpening (bytes (before ++ c :: rest)) (byteLength (before ++ [c])) := by
  have steps : ∀ offset ≤ c.utf8Size,
      findOpening (bytes (before ++ c :: rest)) (byteLength before) =
        findOpening (bytes (before ++ c :: rest)) (byteLength before + offset) := by
    intro offset
    induction offset with
    | zero => exact fun _ => rfl
    | succ offset ih =>
        intro inside
        obtain ⟨byte, member, here⟩ := exists_getElem?_bytes before rest inside
        rw [ih (by omega), ← Nat.add_assoc]
        apply findOpening_of_ne here
        rw [Ne, eq_toUInt8_iff (by decide) member]
        exact noBrace
  rw [steps c.utf8Size (Nat.le_refl _), byteLength_append, byteLength, byteLength, Nat.add_zero]

/-- A brace opens a construct if the next character says so. -/
theorem opening?_brace (next : Char) (rest : List Char) {byte : UInt8}
    (member : byte ∈ String.utf8EncodeChar next) :
    opening? ('{' :: next :: rest) = construct? byte := by
  have ascii : ∀ c ∈ ['{', '%', '#'], c.toNat < 128 := by simp
  have same : ∀ c ∈ ['{', '%', '#'], (byte = c.toUInt8 ↔ next = c) := fun c isMarker =>
    eq_toUInt8_iff (ascii c isMarker) member
  simp only [List.forall_mem_cons] at same
  simp only [construct?, same]
  split
  · rename_i isOutput
    subst isOutput
    rfl
  · split
    · rename_i isTag
      subst isTag
      rfl
    · split
      · rename_i isComment
        subst isComment
        rfl
      · rename_i noOutput noTag noComment
        simp [opening?, noOutput, noTag, noComment]

theorem findOpening_brace (before : List Char) (next : Char) (rest : List Char) :
    findOpening (bytes (before ++ '{' :: next :: rest)) (byteLength before) =
      match opening? ('{' :: next :: rest) with
      | some construct => some (some (byteLength before, construct))
      | none => findOpening (bytes (before ++ '{' :: next :: rest)) (byteLength before + 1) := by
  have zero : 0 < '{'.utf8Size := by decide
  obtain ⟨first, isFirst, here⟩ := exists_getElem?_bytes before (next :: rest) zero
  obtain ⟨second, isSecond, there⟩ := exists_getElem?_bytes (before ++ ['{']) rest
    next.utf8Size_pos
  rw [List.append_assoc, List.singleton_append, byteLength_append, Nat.add_zero] at there
  change (bytes (before ++ '{' :: next :: rest))[byteLength before + 1]? = some second at there
  have inside : byteLength before + 1 < (bytes (before ++ '{' :: next :: rest)).length :=
    (List.getElem?_eq_some_iff.mp there).1
  rw [eq_toUInt8_iff (by decide) isFirst |>.mpr rfl, Nat.add_zero] at here
  conv => lhs; rw [findOpening, if_pos (by omega)]
  rw [here, there, opening?_brace next rest isSecond]
  simp only [Option.bind_eq_bind, Option.bind_some, if_true]
  cases construct? second <;> rfl

/-- The first opening delimiter that is found by positions is where the text before it ends. -/
theorem findOpening_eq (before rest : List Char) :
    findOpening (bytes (before ++ rest)) (byteLength before) =
      some ((opening? (splitAtOpening rest).2).map
        (byteLength before + byteLength (splitAtOpening rest).1, ·)) := by
  induction rest generalizing before with
  | nil =>
      rw [findOpening, if_neg]
      · rfl
      · rw [List.append_nil, length_bytes]
        omega
  | cons c rest ih =>
      have later := ih (before ++ [c])
      rw [List.append_assoc, List.singleton_append, byteLength_append] at later
      rw [splitAtOpening]
      cases opens : opening? (c :: rest) with
      | some construct =>
          have brace : c = '{' := by
            unfold opening? at opens
            split at opens <;> simp_all
          subst brace
          cases rest with
          | nil => cases opens
          | cons next rest =>
              rw [findOpening_brace, opens]
              simp only [Option.isSome_some, if_true, opens, byteLength, Nat.add_zero,
                Option.map_some]
      | none =>
          have goesOn : findOpening (bytes (before ++ c :: rest)) (byteLength before) =
              findOpening (bytes (before ++ c :: rest)) (byteLength before + byteLength [c]) := by
            by_cases brace : c = '{'
            · subst brace
              cases rest with
              | nil =>
                  rw [findOpening, if_neg, findOpening, if_neg]
                  · rw [length_bytes, byteLength_append]
                    omega
                  · rw [length_bytes, byteLength_append]
                    simp only [byteLength]
                    have size : '{'.utf8Size = 1 := by decide
                    omega
              | cons next rest =>
                  rw [findOpening_brace, opens]
                  rfl
            · rw [findOpening_behind before rest brace, byteLength_append]
          rw [goesOn, later]
          simp only [Option.isSome_none, Bool.false_eq_true, if_false, push_fst, push_snd,
            byteLength]
          simp only [Nat.add_zero, Nat.add_assoc]

/-! ## Closing delimiters -/

/-- What is known in front of a character of a body. -/
def cursorOf (quote : Option Char) (escaped : Bool) (braces : Nat) : Cursor :=
  match quote with
  | none => ⟨.plain, braces⟩
  | some mark => if escaped then ⟨.escaped mark, braces⟩ else ⟨.quoted mark, braces⟩

/-- The search for a closing delimiter that has been found behind the text `before`, or has come to
the end of the source. -/
def closed (before : List Char) :
    Except Cursor (List Char × List Char) → Checked Template.Cause (Option Nat)
  | .ok (inner, _) => pure (some (byteLength before + byteLength inner))
  | .error cursor => if cursor.quoting = .plain then pure none else throw .unterminatedString

theorem closed_map_push (before : List Char) (c : Char)
    (cut : Except Cursor (List Char × List Char)) :
    closed before (cut.map (push c)) = closed (before ++ [c]) cut := by
  cases cut with
  | error cursor => rfl
  | ok split =>
      obtain ⟨inner, rest⟩ := split
      simp only [closed, Except.map, push, byteLength_append, byteLength, Nat.add_zero,
        Nat.add_assoc]

theorem isPrefixOf_closing {closer c : Char} {rest : List Char} :
    [closer, '}'].isPrefixOf (c :: rest) = true ↔ c = closer ∧ rest.head? = some '}' := by
  cases rest with
  | nil => simp [List.isPrefixOf]
  | cons d rest => simp [List.isPrefixOf, @eq_comm _ c, @eq_comm _ d]

theorem closes_plain {braces : Nat} {closer c : Char} {rest : List Char} :
    Cursor.closes ⟨.plain, braces⟩ closer c rest = true ↔
      ¬ (0 < braces ∧ c = '}') ∧ c = closer ∧ rest.head? = some '}' := by
  simp only [Cursor.closes, Bool.and_eq_true, Bool.not_eq_true', Bool.and_eq_false_iff, beq_iff_eq,
    beq_self_eq_true, decide_eq_false_iff_not, beq_eq_false_iff_ne, true_and, and_assoc,
    Decidable.not_and_iff_or_not, ne_eq]

/-- The search for the end of a body by positions cuts where the body ends. -/
theorem findClosing_eq {closer : Char} (noQuote : closer ≠ '"' ∧ closer ≠ '\'')
    {quote : Option Char} {escaped : Bool} (unescaped : quote = none → escaped = false)
    (braces : Nat) (before text : List Char) :
    findClosing (before ++ text) [closer, '}'] quote escaped braces (byteLength before) text =
      closed before (splitAtClosing closer (cursorOf quote escaped braces) text) := by
  induction text generalizing before quote escaped braces with
  | nil =>
      cases quote with
      | none => rfl
      | some mark => cases escaped <;> rfl
  | cons c rest ih =>
      have step : ∀ {quote : Option Char} {escaped : Bool} (braces : Nat),
          (quote = none → escaped = false) →
          findClosing (before ++ c :: rest) [closer, '}'] quote escaped braces
            (byteLength before + c.utf8Size) rest =
          closed before
            ((splitAtClosing closer (cursorOf quote escaped braces) rest).map (push c)) := by
        intro quote escaped braces unescaped
        have later := ih unescaped braces (before ++ [c])
        rwa [List.append_assoc, List.singleton_append, byteLength_append, byteLength, byteLength,
          Nat.add_zero, ← closed_map_push] at later
      cases quote with
      | some mark =>
          have goesOn : (cursorOf (some mark) escaped braces).closes closer c rest = false := by
            cases escaped <;> rfl
          rw [splitAtClosing, goesOn, if_neg Bool.false_ne_true, findClosing]
          cases escaped with
          | true => exact step braces fun _ => rfl
          | false =>
              simp only [Bool.false_eq_true, if_false, cursorOf, Cursor.advance]
              split
              · exact step braces fun absent => absurd absent (Option.some_ne_none _)
              · split
                · exact step braces fun _ => rfl
                · exact step braces fun absent => absurd absent (Option.some_ne_none _)
      | none =>
          rw [unescaped rfl, splitAtClosing, findClosing]
          simp only [cursorOf, closes_plain, Cursor.advance]
          by_cases isQuote : c = '"' ∨ c = '\''
          · have noCloser : c ≠ closer := by
              rintro rfl
              exact isQuote.elim noQuote.1 noQuote.2
            simp only [isQuote, if_true, noCloser, false_and, and_false, if_false]
            exact step braces fun absent => absurd absent (Option.some_ne_none _)
          · by_cases claims : 0 < braces ∧ c = '}'
            · obtain ⟨positive, rfl⟩ := claims
              simp only [isQuote, if_false, positive, and_self, if_true, not_true, false_and,
                minus?_of_le positive, liftM_some, pure_bind]
              exact step (braces - 1) fun _ => rfl
            · simp only [isQuote, claims, if_false, not_false_eq_true, true_and, slice?_rest,
                liftM_some, pure_bind, isPrefixOf_closing]
              split
              · rfl
              · split
                · exact step (braces + 1) fun _ => rfl
                · split
                  · rename_i isBrace
                    have none : braces - 1 = braces := by
                      have unclaimed : ¬ 0 < braces := fun positive => claims ⟨positive, isBrace⟩
                      omega
                    rw [none]
                    exact step braces fun _ => rfl
                  · exact step braces fun _ => rfl

theorem findEnd_of_body {construct : Construct} {closer : Char} (isBody : construct ≠ .comment)
    (isCloser : closing construct = [closer, '}']) (before text : List Char) :
    findEnd (before ++ text) construct (byteLength before) =
      closed before (splitAtClosing closer .start text) := by
  have noQuote : closer ≠ '"' ∧ closer ≠ '\'' := by
    cases construct <;> cases isCloser <;> decide
  have unescaped : (none : Option Char) = none → false = false := fun _ => rfl
  have found := findClosing_eq noQuote unescaped 0 before text
  rw [findEnd, slice?_rest, liftM_some, pure_bind]
  cases construct with
  | comment => exact absurd rfl isBody
  | output => cases isCloser; exact found
  | tag => cases isCloser; exact found

theorem findEnd_of_comment (before text : List Char) :
    findEnd (before ++ text) .comment (byteLength before) =
      pure ((splitAtCommentEnd text).map fun (inner, _) =>
        byteLength before + byteLength inner) := by
  rw [findEnd, slice?_rest, liftM_some, pure_bind]

/-! ## Raw sections -/

theorem findEndRaw_eq (before rest : List Char) :
    findEndRaw (before ++ rest) (byteLength before) =
      some ((splitAtEndRaw rest).map fun (run, ending) =>
        (byteLength (before ++ run), byteLength (before ++ run) +
          byteLength (ending.take (ending.length - ((afterEndRaw? ending).getD []).length)))) := by
  rw [findEndRaw, splitAtByte?_append]
  simp only [Option.bind_eq_bind, Option.bind_some]
  cases found : splitAtEndRaw rest with
  | none => rfl
  | some split =>
      obtain ⟨run, ending⟩ := split
      obtain ⟨_, ends⟩ := splitAtEndRaw_append found
      obtain ⟨remaining, isRemaining⟩ := Option.isSome_iff_exists.mp ends
      have whole := congrArg byteLength (take_append_of_suffix (afterEndRaw?_suffix isRemaining))
      rw [byteLength_append] at whole
      simp only [isRemaining, Option.getD_some, Option.map_some]
      rw [minus?_of_le (by omega), Option.bind_some, byteLength_append, ← whole,
        Nat.add_sub_cancel]
      rfl

/-! ## Constructs -/

/-- What is known behind a construct that has been cut off: its segments, the position and the
line. -/
def passed (before : List Char) (line : Nat) (piece : Piece) : List Segment × Nat × Nat :=
  ((piece.segment? line).toList, byteLength (before ++ piece.source),
    line + lineBreaks piece.source)

theorem byteLength_opening (construct : Construct) : byteLength construct.opening = 2 := by
  cases construct <;> rfl

theorem byteLength_closing (construct : Construct) : byteLength (closing construct) = 2 := by
  cases construct <;> rfl

section Constructs

variable (before inner rest : List Char) (construct : Construct) (line : Nat)

/-- The two slices of a construct: its inside, and the whole of it. -/
theorem slices_construct :
    slice? (before ++ (construct.opening ++ (inner ++ (closing construct ++ rest))))
        (byteLength before + 2) (byteLength before + 2 + byteLength inner) = some inner ∧
      slice? (before ++ (construct.opening ++ (inner ++ (closing construct ++ rest))))
        (byteLength before) (byteLength before + 2 + byteLength inner + 2) =
        some (construct.opening ++ (inner ++ closing construct)) := by
  have opens := byteLength_opening construct
  have closes := byteLength_closing construct
  constructor
  · refine slice?_eq_some_iff.mpr
      ⟨before ++ construct.opening, closing construct ++ rest, ?_, ?_, rfl⟩
    · simp only [List.append_assoc]
    · rw [byteLength_append, opens]
  · refine slice?_eq_some_iff.mpr ⟨before, rest, ?_, rfl, ?_⟩
    · simp only [List.append_assoc]
    · simp only [byteLength_append]
      omega

/-- The position behind a construct. -/
theorem position_behind : byteLength before + 2 + byteLength inner + 2 =
    byteLength (before ++ (construct.opening ++ (inner ++ closing construct))) := by
  have opens := byteLength_opening construct
  have closes := byteLength_closing construct
  simp only [byteLength_append]
  omega

theorem constructBetween_tag :
    constructBetween (before ++ (Construct.opening .tag ++ (inner ++ (closing .tag ++ rest)))) .tag
        (byteLength before) (byteLength before + 2 + byteLength inner) line =
      match Piece.ofTag inner rest with
      | .error cause => throw ⟨line, cause⟩
      | .ok (piece, _) => pure (passed before line piece) := by
  obtain ⟨isInner, isWhole⟩ := slices_construct before inner rest .tag
  rw [constructBetween, isInner, isWhole]
  simp only [liftM_some, pure_bind, newlines_eq]
  rw [position_behind before inner .tag, Piece.ofTag]
  split
  · have source : before ++ (Construct.opening .tag ++ (inner ++ (closing .tag ++ rest))) =
        (before ++ (Construct.opening .tag ++ (inner ++ closing .tag))) ++ rest := by
      simp only [List.append_assoc]
    rw [source, findEndRaw_eq]
    simp only [liftM_some, pure_bind]
    cases found : splitAtEndRaw rest with
    | none => rfl
    | some split =>
        obtain ⟨run, ending⟩ := split
        obtain ⟨rfl, ends⟩ := splitAtEndRaw_append found
        obtain ⟨remaining, isRemaining⟩ := Option.isSome_iff_exists.mp ends
        have whole := take_append_of_suffix (afterEndRaw?_suffix isRemaining)
        simp only [isRemaining, Option.getD_some, Option.map_some]
        generalize ending.take (ending.length - remaining.length) = tag at whole ⊢
        subst whole
        generalize isFront : before ++ (Construct.opening .tag ++ (inner ++ closing .tag)) = front
        have isRun := slice?_append front run (tag ++ remaining)
        have isPassed := slice?_append front (run ++ tag) remaining
        rw [← byteLength_append] at isRun
        rw [byteLength_append, ← Nat.add_assoc, ← byteLength_append, List.append_assoc] at isPassed
        rw [isRun, isPassed]
        simp only [liftM_some, pure_bind]
        have breaks : lineBreaks (Construct.opening .tag ++ (inner ++ closing .tag)) =
            lineBreaks inner := lineBreaks_tag inner
        have source : (Piece.raw inner run tag).source =
            (Construct.opening .tag ++ (inner ++ closing .tag)) ++ (run ++ tag) := by
          rw [← List.append_assoc]
          rfl
        rw [breaks, passed, source, lineBreaks_append (_ ++ _) (run ++ tag), breaks, Piece.segment?,
          ← List.append_assoc, isFront, ← List.append_assoc front, byteLength_append (front ++ run),
          Nat.add_assoc line]
        cases run <;> rfl
  · rfl

theorem constructBetween_output :
    constructBetween (before ++ (Construct.opening .output ++ (inner ++ (closing .output ++ rest))))
        .output (byteLength before) (byteLength before + 2 + byteLength inner) line =
      pure (passed before line (.output inner)) := by
  obtain ⟨isInner, isWhole⟩ := slices_construct before inner rest .output
  rw [constructBetween, isInner, isWhole]
  simp only [liftM_some, pure_bind, newlines_eq]
  rw [position_behind before inner .output]
  rfl

theorem constructBetween_comment :
    constructBetween
        (before ++ (Construct.opening .comment ++ (inner ++ (closing .comment ++ rest))))
        .comment (byteLength before) (byteLength before + 2 + byteLength inner) line =
      pure (passed before line (.comment inner)) := by
  obtain ⟨isInner, isWhole⟩ := slices_construct before inner rest .comment
  rw [constructBetween, isInner, isWhole]
  simp only [liftM_some, pure_bind, newlines_eq]
  rw [position_behind before inner .comment]
  rfl

/-- A construct that is cut off by positions is the piece that it is. -/
theorem constructAt_eq (text : List Char) :
    constructAt (before ++ (construct.opening ++ text)) construct (byteLength before) line =
      match Piece.ofConstruct construct text with
      | .error cause => throw ⟨line, cause⟩
      | .ok (piece, _) => pure (passed before line piece) := by
  have source : before ++ (construct.opening ++ text) = (before ++ construct.opening) ++ text :=
    (List.append_assoc _ _ _).symm
  have position : byteLength before + 2 = byteLength (before ++ construct.opening) := by
    rw [byteLength_append, byteLength_opening]
  rw [constructAt, position, source]
  cases construct with
  | comment =>
      rw [findEnd_of_comment, Piece.ofConstruct]
      cases found : splitAtCommentEnd text with
      | none => rfl
      | some split =>
          obtain ⟨inner, rest⟩ := split
          rw [splitAtCommentEnd_append found, List.append_assoc, ← position]
          exact constructBetween_comment before inner rest line
  | output =>
      rw [findEnd_of_body (by decide) rfl, Piece.ofConstruct]
      cases found : splitAtClosing '}' .start text with
      | error cursor => cases isState : cursor.quoting <;> simp [closed, Cursor.cause, isState]
      | ok split =>
          obtain ⟨inner, rest⟩ := split
          rw [splitAtClosing_append found, List.append_assoc, closed, ← position]
          exact constructBetween_output before inner rest line
  | tag =>
      rw [findEnd_of_body (by decide) rfl, Piece.ofConstruct]
      cases found : splitAtClosing '%' .start text with
      | error cursor => cases isState : cursor.quoting <;> simp [closed, Cursor.cause, isState]
      | ok split =>
          obtain ⟨inner, rest⟩ := split
          rw [splitAtClosing_append found, List.append_assoc, closed, ← position]
          exact constructBetween_tag before inner rest line

end Constructs

/-! ## Segments -/

/-- What is behind a run of text begins with an opening delimiter, unless nothing is behind it. -/
theorem splitAtOpening_snd (text : List Char) :
    (splitAtOpening text).2 = [] ∨ (opening? (splitAtOpening text).2).isSome := by
  induction text with
  | nil => exact .inl rfl
  | cons c rest ih =>
      rw [splitAtOpening]
      split
      · exact .inr ‹_›
      · exact ih

/-- The segments from a construct on, if those behind it are known. -/
theorem segmentsFrom_construct (before text : List Char) (construct : Construct) (line : Nat)
    {position : Nat} (isBehind : position ≤ byteLength before)
    (later : ∀ (before rest : List Char) (line : Nat),
      rest.length < (construct.opening ++ text).length →
      segmentsFrom (before ++ rest) (byteLength before) line =
        settled ((Piece.all line rest).map (Segment.ofPieces line))) :
    (do
      let (here, next, behind) ←
        constructAt (before ++ (construct.opening ++ text)) construct (byteLength before) line
      let ⟨_⟩ ← isBelow? position next
      let others ← segmentsFrom (before ++ (construct.opening ++ text)) next behind
      return here ++ others) =
      settled ((Piece.all line (construct.opening ++ text)).map (Segment.ofPieces line)) := by
  obtain ⟨c, tail, isCons⟩ : ∃ c tail, construct.opening ++ text = c :: tail := by
    cases construct <;> exact ⟨_, _, rfl⟩
  have first : Piece.first (c :: tail) = Piece.ofConstruct construct text := by
    rw [← isCons, Piece.first, opening?_append_opening]
    cases construct <;> rfl
  rw [constructAt_eq, isCons, all_cons, first]
  cases found : Piece.ofConstruct construct text with
  | error cause => rfl
  | ok split =>
      obtain ⟨piece, rest⟩ := split
      have whole := first_source (first.trans found)
      have shorter := first_length_lt (first.trans found)
      rw [← isCons] at whole shorter ⊢
      have moves : position < byteLength (before ++ piece.source) := by
        have filled := first_source_ne_nil (List.cons_ne_nil c tail) (first.trans found)
        have positive := byteLength_pos filled
        rw [byteLength_append]
        omega
      simp only [passed, pure_bind, isBelow?_of_lt moves, liftM_some]
      rw [← whole, ← List.append_assoc, later _ _ _ shorter]
      cases Piece.all (line + lineBreaks piece.source) rest <;> rfl

/-- A text in front of the first opening delimiter is a piece. -/
theorem all_of_run (line : Nat) {text : List Char} (runs : (splitAtOpening text).1 ≠ []) :
    Piece.all line text =
      (Piece.all (line + lineBreaks (splitAtOpening text).1) (splitAtOpening text).2).map
        (.text (splitAtOpening text).1 :: ·) := by
  have cut : splitAtOpening text = ((splitAtOpening text).1, (splitAtOpening text).2) := rfl
  have first := first_eq_text cut runs
  cases text with
  | nil => contradiction
  | cons c tail =>
      rw [all_cons, first]
      rfl

/-- The segments of a template by positions, from any place between two pieces on. -/
theorem segmentsFrom_eq (before rest : List Char) (line : Nat) :
    segmentsFrom (before ++ rest) (byteLength before) line =
      settled ((Piece.all line rest).map (Segment.ofPieces line)) := by
  induction length : rest.length using Nat.strongRecOn generalizing before rest line with
  | ind size ih =>
      subst length
      have later : ∀ (before' rest' : List Char) (line' : Nat), rest'.length < rest.length →
          segmentsFrom (before' ++ rest') (byteLength before') line' =
            settled ((Piece.all line' rest').map (Segment.ofPieces line')) :=
        fun before' rest' line' shorter => ih rest'.length shorter before' rest' line' rfl
      rw [segmentsFrom]
      by_cases filled : rest = []
      · subst filled
        rw [List.append_nil, if_neg (Nat.lt_irrefl _), Piece.all]
        rfl
      have size := byteLength_pos filled
      rw [if_pos (by rw [byteLength_append]; omega), findOpening_eq]
      have whole := splitAtOpening_append rest
      have ends := splitAtOpening_snd rest
      have single := @all_of_run line rest
      revert whole ends single
      generalize (splitAtOpening rest).1 = run
      generalize (splitAtOpening rest).2 = behind
      rintro whole ends single
      cases opens : opening? behind with
      | none =>
          have atEnd : behind = [] := ends.resolve_right (by simp [opens])
          subst atEnd
          rw [List.append_nil] at whole
          subst whole
          simp only [Option.map_none, liftM_some, pure_bind]
          rw [slice?_rest, single filled, Piece.all]
          rfl
      | some construct =>
          simp only [Option.map_some, liftM_some, pure_bind]
          obtain ⟨text, rfl⟩ : ∃ text, behind = construct.opening ++ text :=
            ⟨_, (opening?_eq_some opens).symm⟩
          by_cases runs : run = []
          · subst runs
            rw [List.nil_append] at whole
            subst whole
            rw [if_neg (by simp [byteLength])]
            exact segmentsFrom_construct before text construct line (Nat.le_refl _) later
          · have positive := byteLength_pos runs
            have isRun := slice?_append before run (construct.opening ++ text)
            rw [if_pos (by omega), ← whole, isRun]
            rw [← whole] at single later
            rw [single runs]
            have shorter : (construct.opening ++ text).length <
                (run ++ (construct.opening ++ text)).length := by
              have := List.length_pos_iff.mpr runs
              simp only [List.length_append]
              omega
            have isBehind : byteLength before ≤ byteLength (before ++ run) := by
              rw [byteLength_append]
              exact Nat.le_add_right _ _
            have behindRun := segmentsFrom_construct (before ++ run) text construct
              (line + lineBreaks run) isBehind fun before' rest' line' less =>
                later before' rest' line' (Nat.lt_trans less shorter)
            rw [List.append_assoc, byteLength_append] at behindRun
            have all := congrArg (· >>= fun found => pure (.text run line :: found)) behindRun
            simp only [bind_assoc, pure_bind, settled_map] at all
            simp only [liftM_some, pure_bind, newlines_eq]
            rw [all]
            cases Piece.all (line + lineBreaks run) (construct.opening ++ text) <;> rfl

end Lineage.Bytewise
