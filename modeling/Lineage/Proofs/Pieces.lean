import Lineage.Proofs.Outcomes
import Lineage.Template.Segment

/-!
# The pieces of a text that goes on

What ends a piece stays its end when the text goes on: the closing delimiter of a body, the end of a
comment and the end tag of a raw section are found where they were.  Only a run of text at the very
end may go on.  So the pieces of two texts written one after another are those of the first and then
those of the second (`Piece.all_append`), if a run at the end of the first text ends where the
second text begins.

An end tag of a raw section has one open brace only, the one with which it begins.  That is why no
end tag can begin before the first one and reach beyond the end of the text.
-/

namespace Lineage.Template

open Lineage.Text

/-! ## The end tag of a raw section -/

/-- At most one sign. -/
def IsSign (sign : List Char) : Prop :=
  sign = [] ∨ sign = ['-'] ∨ sign = ['+']

/-- An end tag of a raw section: the word, with blanks and at most one sign on either side. -/
def IsEndRaw (tag : List Char) : Prop :=
  ∃ opening before after closing, IsSign opening ∧ IsSign closing ∧
    (∀ c ∈ before, isBlank c = true) ∧ (∀ c ∈ after, isBlank c = true) ∧
    tag = ['{', '%'] ++ opening ++ before ++ "endraw".toList ++ after ++ closing ++ ['%', '}']

theorem exists_sign_append (text : List Char) :
    ∃ sign, IsSign sign ∧ text = sign ++ dropSign text := by
  cases text with
  | nil => exact ⟨[], Or.inl rfl, rfl⟩
  | cons c rest =>
      rw [dropSign]
      split
      · rename_i sign
        rcases sign with rfl | rfl
        · exact ⟨['-'], Or.inr (Or.inl rfl), rfl⟩
        · exact ⟨['+'], Or.inr (Or.inr rfl), rfl⟩
      · exact ⟨[], Or.inl rfl, rfl⟩

theorem dropSign_append {sign : List Char} (isSign : IsSign sign) {text : List Char}
    (noSign : ∀ c ∈ text.head?, c ≠ '-' ∧ c ≠ '+') : dropSign (sign ++ text) = text := by
  rcases isSign with rfl | rfl | rfl
  · cases text with
    | nil => rfl
    | cons c rest =>
        have different := noSign c rfl
        simp [dropSign, different]
  · rfl
  · rfl

theorem exists_blanks_append (text : List Char) :
    ∃ blanks, (∀ c ∈ blanks, isBlank c = true) ∧ text = blanks ++ text.dropWhile isBlank :=
  ⟨text.takeWhile isBlank, List.all_eq_true.mp List.all_takeWhile,
    List.takeWhile_append_dropWhile.symm⟩

theorem dropWhile_blanks_append {blanks : List Char} (areBlank : ∀ c ∈ blanks, isBlank c = true)
    {text : List Char} (noBlank : ∀ c ∈ text.head?, isBlank c = false) :
    (blanks ++ text).dropWhile isBlank = text := by
  rw [List.dropWhile_append_of_pos areBlank]
  cases text with
  | nil => rfl
  | cons c rest => rw [List.dropWhile_cons_of_neg (by simp [noBlank c rfl])]

theorem noSign_blanks_append {blanks : List Char} (areBlank : ∀ c ∈ blanks, isBlank c = true)
    {text : List Char} (noSign : ∀ c ∈ text.head?, c ≠ '-' ∧ c ≠ '+') :
    ∀ c ∈ (blanks ++ text).head?, c ≠ '-' ∧ c ≠ '+' := by
  cases blanks with
  | nil => exact noSign
  | cons blank rest =>
      rintro _ ⟨⟩
      have blankHead := areBlank blank List.mem_cons_self
      constructor
      · rintro rfl
        revert blankHead
        decide
      · rintro rfl
        revert blankHead
        decide

theorem noBlank_sign_append {sign : List Char} (isSign : IsSign sign) {text : List Char}
    (noBlank : ∀ c ∈ text.head?, isBlank c = false) :
    ∀ c ∈ (sign ++ text).head?, isBlank c = false := by
  rcases isSign with rfl | rfl | rfl
  · exact noBlank
  · rintro _ ⟨⟩
    decide
  · rintro _ ⟨⟩
    decide

/-- A text begins with an end tag exactly if what follows it is found. -/
theorem afterEndRaw?_eq_some_iff {text rest : List Char} :
    afterEndRaw? text = some rest ↔ ∃ tag, IsEndRaw tag ∧ text = tag ++ rest := by
  constructor
  · intro found
    simp only [afterEndRaw?, Option.bind_eq_bind, Option.bind_eq_some_iff, after?_eq_some_iff]
      at found
    obtain ⟨inner, rfl, closing, word, ending⟩ := found
    obtain ⟨first, isFirst, innerSplit⟩ := exists_sign_append inner
    obtain ⟨before, areBefore, wordSplit⟩ := exists_blanks_append (dropSign inner)
    obtain ⟨after, areAfter, closingSplit⟩ := exists_blanks_append closing
    obtain ⟨last, isLast, endingSplit⟩ := exists_sign_append (closing.dropWhile isBlank)
    refine ⟨_, ⟨first, before, after, last, isFirst, isLast, areBefore, areAfter, rfl⟩, ?_⟩
    rw [innerSplit, wordSplit, word, closingSplit, endingSplit, ending]
    simp only [List.append_assoc]
  · rintro ⟨_, ⟨opening, before, after, closing, isOpening, isClosing, areBefore, areAfter, rfl⟩,
      rfl⟩
    simp only [afterEndRaw?, Option.bind_eq_bind, Option.bind_eq_some_iff, after?_eq_some_iff,
      List.append_assoc]
    refine ⟨_, rfl, after ++ (closing ++ (['%', '}'] ++ rest)), ?_, ?_⟩
    · rw [dropSign_append isOpening, dropWhile_blanks_append areBefore]
      · rintro _ ⟨⟩
        rfl
      · apply noSign_blanks_append areBefore
        rintro _ ⟨⟩
        decide
    · rw [dropWhile_blanks_append areAfter, dropSign_append isClosing]
      · rintro _ ⟨⟩
        decide
      · apply noBlank_sign_append isClosing
        rintro _ ⟨⟩
        rfl

/-- The whole of an end tag of a raw section. -/
theorem isEndRaw_of_ending {ending more : List Char}
    (found : afterEndRaw? (ending ++ more) = some more) : IsEndRaw ending := by
  obtain ⟨tag, isEnd, whole⟩ := afterEndRaw?_eq_some_iff.mp found
  rwa [List.append_cancel_right whole]

/-- An end tag has no open brace but the one with which it begins. -/
theorem IsEndRaw.eq_cons {tag : List Char} (isEnd : IsEndRaw tag) :
    ∃ body, tag = '{' :: body ∧ '{' ∉ body := by
  obtain ⟨opening, before, after, closing, isOpening, isClosing, areBefore, areAfter, rfl⟩ := isEnd
  refine ⟨_, rfl, ?_⟩
  have noBrace : ∀ sign, IsSign sign → '{' ∉ sign := by
    rintro sign (rfl | rfl | rfl)
    all_goals decide
  have inBefore : '{' ∉ before := fun member => absurd (areBefore _ member) (by decide)
  have inAfter : '{' ∉ after := fun member => absurd (areAfter _ member) (by decide)
  simp [noBrace opening isOpening, noBrace closing isClosing, inBefore, inAfter]

theorem afterEndRaw?_append {text rest : List Char} (found : afterEndRaw? text = some rest)
    (more : List Char) : afterEndRaw? (text ++ more) = some (rest ++ more) := by
  obtain ⟨tag, isEnd, rfl⟩ := afterEndRaw?_eq_some_iff.mp found
  exact afterEndRaw?_eq_some_iff.mpr ⟨tag, isEnd, List.append_assoc _ _ _⟩

/-- An end tag that reaches beyond a text holds no later open brace of it. -/
theorem afterEndRaw?_isSome_of_append {text more : List Char} (brace : '{' ∈ text.tail)
    (found : (afterEndRaw? (text ++ more)).isSome = true) :
    (afterEndRaw? text).isSome = true := by
  obtain ⟨rest, isRest⟩ := Option.isSome_iff_exists.mp found
  obtain ⟨tag, isEnd, whole⟩ := afterEndRaw?_eq_some_iff.mp isRest
  rcases List.append_eq_append_iff.mp whole with ⟨beyond, isTag, _⟩ | ⟨within, isText, _⟩
  · obtain ⟨body, isBody, noBrace⟩ := isEnd.eq_cons
    rw [isTag] at isBody
    cases text with
    | nil => cases brace
    | cons c tail =>
        rw [List.cons_append, List.cons.injEq] at isBody
        rw [← isBody.2] at noBrace
        exact absurd (List.mem_append_left _ brace) noBrace
  · rw [afterEndRaw?_eq_some_iff.mpr ⟨tag, isEnd, isText⟩]
    rfl

/-- The first end tag stays the first when the text goes on. -/
theorem splitAtEndRaw_more {text run ending : List Char}
    (found : splitAtEndRaw text = some (run, ending)) (more : List Char) :
    splitAtEndRaw (text ++ more) = some (run, ending ++ more) := by
  induction text generalizing run with
  | nil => cases found
  | cons c tail ih =>
      rw [List.cons_append, splitAtEndRaw]
      rw [splitAtEndRaw] at found
      split at found
      · rename_i here
        obtain ⟨rest, isRest⟩ := Option.isSome_iff_exists.mp here
        rw [← List.cons_append, afterEndRaw?_append isRest more]
        cases found
        rfl
      · rename_i notHere
        obtain ⟨⟨before, behind⟩, later, isSplit⟩ := Option.map_eq_some_iff.mp found
        cases isSplit
        obtain ⟨whole, ends⟩ := splitAtEndRaw_append later
        have brace : '{' ∈ (c :: tail).tail := by
          obtain ⟨rest, isRest⟩ := Option.isSome_iff_exists.mp ends
          obtain ⟨tag, isEnd, isBehind⟩ := afterEndRaw?_eq_some_iff.mp isRest
          obtain ⟨body, isTag, _⟩ := isEnd.eq_cons
          rw [List.tail_cons, whole, isBehind, isTag]
          simp
        have notYet : ¬ (afterEndRaw? (c :: (tail ++ more))).isSome = true := fun here =>
          notHere (afterEndRaw?_isSome_of_append brace here)
        rw [if_neg notYet, ih later]
        rfl

/-! ## The ends of bodies and comments -/

theorem splitAtClosing_more {closer : Char} {cursor : Cursor} {text inner rest : List Char}
    (found : splitAtClosing closer cursor text = .ok (inner, rest)) (more : List Char) :
    splitAtClosing closer cursor (text ++ more) = .ok (inner, rest ++ more) := by
  induction text generalizing cursor inner with
  | nil => cases found
  | cons c tail ih =>
      cases tail with
      | nil => simp [splitAtClosing, Cursor.closes, Except.map] at found
      | cons next tail =>
          have closes : cursor.closes closer c (next :: tail ++ more) =
              cursor.closes closer c (next :: tail) := rfl
          rw [List.cons_append, splitAtClosing, closes]
          rw [splitAtClosing] at found
          split at found
          · rename_i ends
            rw [if_pos ends]
            cases found
            rfl
          · rename_i goesOn
            rw [if_neg goesOn]
            obtain ⟨⟨before, behind⟩, later, isSplit⟩ := map_eq_ok_iff.mp found
            cases isSplit
            rw [ih later]
            rfl

theorem splitAtCommentEnd_more {text inner rest : List Char}
    (found : splitAtCommentEnd text = some (inner, rest)) (more : List Char) :
    splitAtCommentEnd (text ++ more) = some (inner, rest ++ more) := by
  induction text generalizing inner with
  | nil => cases found
  | cons c tail ih =>
      cases tail with
      | nil => simp [splitAtCommentEnd] at found
      | cons next tail =>
          rw [List.cons_append, splitAtCommentEnd]
          rw [splitAtCommentEnd] at found
          split at found
          · rename_i ends
            have still : c = '#' ∧ (next :: tail ++ more).head? = some '}' := ends
            rw [if_pos still]
            cases found
            rfl
          · rename_i goesOn
            have still : ¬ (c = '#' ∧ (next :: tail ++ more).head? = some '}') := goesOn
            obtain ⟨⟨before, behind⟩, later, isSplit⟩ := Option.map_eq_some_iff.mp found
            cases isSplit
            rw [if_neg still, ih later]
            rfl

/-! ## The first piece -/

theorem opening?_append {text : List Char} {construct : Construct}
    (found : opening? text = some construct) (more : List Char) :
    opening? (text ++ more) = some construct := by
  rw [← opening?_eq_some found]
  cases construct <;> rfl

/-- An opening delimiter is told from two characters. -/
theorem opening?_cons_cons (first second : Char) (text more : List Char) :
    opening? (first :: second :: text) = opening? (first :: second :: more) := by
  by_cases brace : first = '{'
  · subst brace
    by_cases output : second = '{'
    · subst output
      rfl
    · by_cases tag : second = '%'
      · subst tag
        rfl
      · by_cases comment : second = '#'
        · subst comment
          rfl
        · simp [opening?, output, tag, comment]
  · simp [opening?, brace]

/-- A run of text that ends before the end of the text ends there when the text goes on. -/
theorem splitAtOpening_more {text run rest : List Char} (found : splitAtOpening text = (run, rest))
    (ends : rest ≠ []) (more : List Char) :
    splitAtOpening (text ++ more) = (run, rest ++ more) := by
  induction text generalizing run with
  | nil =>
      cases found
      contradiction
  | cons c tail ih =>
      rw [splitAtOpening] at found
      rw [List.cons_append, splitAtOpening]
      split at found
      · rename_i opens
        obtain ⟨construct, isConstruct⟩ := Option.isSome_iff_exists.mp opens
        rw [← List.cons_append, opening?_append isConstruct more]
        cases found
        rfl
      · rename_i runs
        cases tail with
        | nil =>
            cases found
            contradiction
        | cons next tail =>
            rw [List.cons_append, opening?_cons_cons c next (tail ++ more) tail, if_neg runs,
              ← List.cons_append]
            cases found
            rw [ih rfl]
            rfl

theorem first_eq_text {text run rest : List Char} (split : splitAtOpening text = (run, rest))
    (runs : run ≠ []) : Piece.first text = .ok (.text run, rest) := by
  have noOpening : opening? text = none := by
    cases text with
    | nil => rfl
    | cons c tail =>
        rw [splitAtOpening] at split
        split at split
        · cases split
          contradiction
        · rename_i notOpening
          simpa using notOpening
  rw [Piece.first, noOpening, split]

/-- The first piece of a text stays the first when the text goes on.  A run of text at the very end
has to end where the text goes on. -/
theorem first_more {c : Char} {tail rest more : List Char} {piece : Piece}
    (found : Piece.first (c :: tail) = .ok (piece, rest))
    (seam : ∀ run, piece = .text run → rest = [] → splitAtOpening (run ++ more) = (run, more)) :
    Piece.first (c :: tail ++ more) = .ok (piece, rest ++ more) := by
  rw [first_eq_ok_iff]
  cases first_eq_ok_iff.mp found with
  | output cut => exact .output (splitAtClosing_more cut more)
  | tag cut notRaw => exact .tag (splitAtClosing_more cut more) notRaw
  | comment cut => exact .comment (splitAtCommentEnd_more cut more)
  | raw cut isRaw split isEnd =>
      have split := splitAtEndRaw_more split more
      have isEnd := afterEndRaw?_append isEnd more
      rw [List.append_assoc] at split isEnd
      exact .raw (splitAtClosing_more cut more) isRaw split isEnd
  | text noOpening =>
      have runs := splitAtOpening_fst_ne_nil noOpening (List.cons_ne_nil c tail)
      refine first_eq_ok_iff.mp (first_eq_text ?_ runs)
      by_cases atEnd : (splitAtOpening (c :: tail)).2 = []
      · have whole := splitAtOpening_append (c :: tail)
        rw [atEnd, List.append_nil] at whole
        have ends := seam _ rfl atEnd
        rw [atEnd, List.nil_append]
        rwa [whole] at ends ⊢
      · exact splitAtOpening_more rfl atEnd more

/-! ## All pieces -/

theorem all_cons (line : Nat) (c : Char) (tail : List Char) :
    Piece.all line (c :: tail) =
      match Piece.first (c :: tail) with
      | .error cause => .error ⟨line, cause⟩
      | .ok (piece, rest) =>
        (Piece.all (line + lineBreaks piece.source) rest).map (piece :: ·) := by
  rw [Piece.all]
  split
  · rename_i found
    simp only [found]
  · rename_i found
    simp only [found]

theorem all_eq_ok_nil_iff {line : Nat} {text : List Char} :
    Piece.all line text = .ok [] ↔ text = [] := by
  cases text with
  | nil => simp [Piece.all]
  | cons c tail =>
      rw [all_cons]
      cases Piece.first (c :: tail) with
      | error cause => simp
      | ok cut => simp [map_eq_ok_iff]

theorem all_eq_ok_cons_iff {line : Nat} {text : List Char} {piece : Piece} {pieces : List Piece} :
    Piece.all line text = .ok (piece :: pieces) ↔ text ≠ [] ∧ ∃ rest,
      Piece.first text = .ok (piece, rest) ∧
        Piece.all (line + lineBreaks piece.source) rest = .ok pieces := by
  cases text with
  | nil => simp [Piece.all]
  | cons c tail =>
      rw [all_cons]
      cases Piece.first (c :: tail) with
      | error cause => simp
      | ok cut =>
          obtain ⟨found, behind⟩ := cut
          simp only [map_eq_ok_iff, List.cons.injEq, Except.ok.injEq, Prod.mk.injEq]
          constructor
          · rintro ⟨others, isOthers, rfl, rfl⟩
            exact ⟨List.cons_ne_nil _ _, behind, ⟨rfl, rfl⟩, isOthers⟩
          · rintro ⟨_, rest, ⟨rfl, rfl⟩, isOthers⟩
            exact ⟨pieces, isOthers, rfl, rfl⟩

/-- The line at which a text begins has no part in how it is cut. -/
theorem all_of_line {line : Nat} {text : List Char} {pieces : List Piece}
    (found : Piece.all line text = .ok pieces) (other : Nat) :
    Piece.all other text = .ok pieces := by
  induction pieces generalizing line other text with
  | nil =>
      rw [all_eq_ok_nil_iff] at found ⊢
      exact found
  | cons piece pieces ih =>
      obtain ⟨filled, rest, first, others⟩ := all_eq_ok_cons_iff.mp found
      exact all_eq_ok_cons_iff.mpr ⟨filled, rest, first, ih others _⟩

/-- The pieces of a text that goes on are the pieces of the text and then those of what follows. -/
theorem all_append {line : Nat} {text more : List Char} {pieces : List Piece}
    (found : Piece.all line text = .ok pieces)
    (seam : ∀ run, pieces.getLast? = some (.text run) →
      splitAtOpening (run ++ more) = (run, more)) :
    Piece.all line (text ++ more) =
      (Piece.all (line + lineBreaks text) more).map (pieces ++ ·) := by
  induction pieces generalizing line text with
  | nil =>
      obtain rfl := all_eq_ok_nil_iff.mp found
      rw [List.nil_append, lineBreaks_nil, Nat.add_zero]
      cases Piece.all line more <;> rfl
  | cons piece pieces ih =>
      obtain ⟨filled, rest, first, others⟩ := all_eq_ok_cons_iff.mp found
      obtain ⟨c, tail, rfl⟩ := List.exists_cons_of_ne_nil filled
      have seamFirst : ∀ run, piece = .text run → rest = [] →
          splitAtOpening (run ++ more) = (run, more) := by
        rintro run rfl rfl
        rw [Piece.all] at others
        cases others
        exact seam run rfl
      have seamOthers : ∀ run, pieces.getLast? = some (.text run) →
          splitAtOpening (run ++ more) = (run, more) := by
        intro run isLast
        apply seam run
        rw [List.getLast?_cons, isLast]
        rfl
      have breaks : line + lineBreaks piece.source + lineBreaks rest =
          line + lineBreaks (c :: tail) := by
        rw [← first_source first, lineBreaks_append, Nat.add_assoc]
      rw [List.cons_append, all_cons, ← List.cons_append, first_more first seamFirst]
      dsimp only
      rw [ih others seamOthers, breaks]
      cases Piece.all (line + lineBreaks (c :: tail)) more <;> rfl

/-! ## Segments -/

theorem Segment.ofTemplate_eq_ok_iff {text : List Char} {segments : List Segment} :
    Segment.ofTemplate text = .ok segments ↔
      ∃ pieces, Piece.all 1 text = .ok pieces ∧ Segment.ofPieces 1 pieces = segments :=
  map_eq_ok_iff

/-- The segment some line breaks further down. -/
def Segment.later (breaks : Nat) : Segment → Segment
  | .text run line => .text run (line + breaks)
  | .output body line => .output body (line + breaks)
  | .tag body line => .tag body (line + breaks)
  | .comment body line => .comment body (line + breaks)

theorem segment?_add (line breaks : Nat) (piece : Piece) :
    piece.segment? (line + breaks) = (piece.segment? line).map (Segment.later breaks) := by
  cases piece with
  | raw inner run ending =>
      simp only [Piece.segment?]
      split
      · rfl
      · rw [Nat.add_right_comm]
        rfl
  | _ => rfl

theorem ofPieces_add (line breaks : Nat) (pieces : List Piece) :
    Segment.ofPieces (line + breaks) pieces =
      (Segment.ofPieces line pieces).map (Segment.later breaks) := by
  induction pieces generalizing line with
  | nil => rfl
  | cons piece pieces ih =>
      rw [Segment.ofPieces, Segment.ofPieces, List.map_append, segment?_add, Nat.add_right_comm, ih]
      cases piece.segment? line <;> rfl

theorem ofPieces_append (line : Nat) (first second : List Piece) :
    Segment.ofPieces line (first ++ second) = Segment.ofPieces line first ++
      Segment.ofPieces (line + lineBreaks (first.flatMap Piece.source)) second := by
  induction first generalizing line with
  | nil => rfl
  | cons piece first ih =>
      rw [List.cons_append, Segment.ofPieces, Segment.ofPieces, ih, List.append_assoc,
        List.flatMap_cons, lineBreaks_append, Nat.add_assoc]

/-- The segments of a text that goes on are the segments of the text and then those of what follows,
further down by the line breaks of the text. -/
theorem Segment.ofTemplate_append {text more : List Char} {pieces : List Piece}
    {parts : List Segment} (found : Piece.all 1 text = .ok pieces)
    (seam : ∀ run, pieces.getLast? = some (.text run) →
      splitAtOpening (run ++ more) = (run, more))
    (following : Segment.ofTemplate more = .ok parts) :
    Segment.ofTemplate (text ++ more) =
      .ok (Segment.ofPieces 1 pieces ++ parts.map (Segment.later (lineBreaks text))) := by
  obtain ⟨behind, others, rfl⟩ := Segment.ofTemplate_eq_ok_iff.mp following
  refine Segment.ofTemplate_eq_ok_iff.mpr ⟨pieces ++ behind, ?_, ?_⟩
  · rw [all_append found seam, all_of_line others]
    rfl
  · rw [ofPieces_append, pieces_source found, ofPieces_add]

end Lineage.Template
