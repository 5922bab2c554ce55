import Lineage.Template.Fault
import Lineage.Text.Blank

/-!
# Pieces and segments

A template is cut at its delimiters into pieces.  A piece keeps every character that it consumed, so
the pieces of a template, written one after another, give the template back (`pieces_source`).  A
segment is what the rest of the program sees of a piece: the run of a text, or the trimmed body of a
construct, with the line at which it begins.

The body of an output or a tag ends at the first closing delimiter outside quotes.  An open brace in
the body claims the next closing brace for itself, so that a literal such as `\x7b'a': 1\x7d` may
stand in it.  A comment ends at the first closing delimiter, whatever stands before it.
-/

namespace Lineage.Template

open Lineage.Text

/-- Puts a character in front of the first of two texts. -/
def push (c : Char) (split : List Char × List Char) : List Char × List Char :=
  (c :: split.1, split.2)

/-- The construct whose opening delimiter stands at the start of the text. -/
def opening? : List Char → Option Construct
  | '{' :: '{' :: _ => some .output
  | '{' :: '%' :: _ => some .tag
  | '{' :: '#' :: _ => some .comment
  | _ => none

/-- The text before its first opening delimiter, and the text from there. -/
def splitAtOpening : List Char → List Char × List Char
  | [] => ([], [])
  | c :: rest =>
    if (opening? (c :: rest)).isSome then ([], c :: rest) else push c (splitAtOpening rest)

/-! ## Bodies of outputs and tags -/

/-- Whether a position lies in quotes, and if so in which. -/
inductive Quoting where
  | plain
  | quoted (mark : Char)
  | escaped (mark : Char)
deriving DecidableEq, Repr

/-- What has to be known of the characters read so far to find the end of a body. -/
structure Cursor where
  quoting : Quoting
  braces : Nat
deriving DecidableEq, Repr

/-- The state in which every body begins. -/
def Cursor.start : Cursor :=
  ⟨.plain, 0⟩

/-- The state after one more character of the body. -/
def Cursor.advance (cursor : Cursor) (c : Char) : Cursor :=
  match cursor.quoting with
  | .escaped mark => ⟨.quoted mark, cursor.braces⟩
  | .quoted mark =>
    if c = '\\' then ⟨.escaped mark, cursor.braces⟩
    else if c = mark then ⟨.plain, cursor.braces⟩
    else cursor
  | .plain =>
    if c = '"' ∨ c = '\'' then ⟨.quoted c, cursor.braces⟩
    else if c = '{' then ⟨.plain, cursor.braces + 1⟩
    else if c = '}' then ⟨.plain, cursor.braces - 1⟩
    else cursor

/-- Whether the body ends before the character `c`, which the text `rest` follows.  The closing
delimiter is `closer` and a closing brace. -/
def Cursor.closes (cursor : Cursor) (closer c : Char) (rest : List Char) : Bool :=
  cursor.quoting == .plain && !(0 < cursor.braces && c == '}') && c == closer &&
    rest.head? == some '}'

/-- Cuts the text at the closing delimiter of a body.  Without one the result is the state at the
end of the text. -/
def splitAtClosing (closer : Char) (cursor : Cursor) :
    List Char → Except Cursor (List Char × List Char)
  | [] => .error cursor
  | c :: rest =>
    if cursor.closes closer c rest then .ok ([], rest.tail)
    else (splitAtClosing closer (cursor.advance c) rest).map (push c)

/-- Cuts the text at its first hash and closing brace. -/
def splitAtCommentEnd : List Char → Option (List Char × List Char)
  | [] => none
  | c :: rest =>
    if c = '#' ∧ rest.head? = some '}' then some ([], rest.tail)
    else (splitAtCommentEnd rest).map (push c)

/-! ## Raw sections -/

/-- The text without one minus or plus sign at its start. -/
def dropSign : List Char → List Char
  | c :: rest => if c = '-' ∨ c = '+' then rest else c :: rest
  | [] => []

/-- The text after the tag `endraw`, if it begins with one. -/
def afterEndRaw? (text : List Char) : Option (List Char) := do
  let inner ← after? ['{', '%'] text
  let closing ← after? "endraw".toList ((dropSign inner).dropWhile isBlank)
  after? ['%', '}'] (dropSign (closing.dropWhile isBlank))

/-- Cuts the text at its first `endraw` tag, which goes with the second part. -/
def splitAtEndRaw : List Char → Option (List Char × List Char)
  | [] => none
  | c :: rest =>
    if (afterEndRaw? (c :: rest)).isSome then some ([], c :: rest)
    else (splitAtEndRaw rest).map (push c)

/-! ## Pieces -/

/-- A part of a template with every character that belongs to it. -/
inductive Piece where
  | text (run : List Char)
  | output (inner : List Char)
  | tag (inner : List Char)
  | comment (inner : List Char)
  /-- The inside of the raw tag, the text of the section, and the whole end tag. -/
  | raw (inner run ending : List Char)
deriving DecidableEq, Repr

/-- The characters of a piece. -/
def Piece.source : Piece → List Char
  | .text run => run
  | .output inner => '{' :: '{' :: inner ++ ['}', '}']
  | .tag inner => '{' :: '%' :: inner ++ ['%', '}']
  | .comment inner => '{' :: '#' :: inner ++ ['#', '}']
  | .raw inner run ending => '{' :: '%' :: inner ++ ['%', '}'] ++ run ++ ending

/-- The inside of a construct without at most one sign at either end, then trimmed. -/
def bodyOf (inner : List Char) : List Char :=
  trim ((dropSign (dropSign inner).reverse).reverse)

/-- Why the text ends in a body whose closing delimiter is missing. -/
def Cursor.cause (cursor : Cursor) (construct : Construct) : Cause :=
  match cursor.quoting with
  | .plain => .unterminated construct
  | _ => .unterminatedString

/-- The tag whose inside is `inner`, with the section behind it if it is the raw tag. -/
def Piece.ofTag (inner rest : List Char) : Except Cause (Piece × List Char) :=
  if bodyOf inner = "raw".toList then
    match splitAtEndRaw rest with
    | none => .error .unclosedRaw
    | some (run, ending) =>
      let remaining := (afterEndRaw? ending).getD []
      .ok (.raw inner run (ending.take (ending.length - remaining.length)), remaining)
  else
    .ok (.tag inner, rest)

/-- The construct whose opening delimiter stands just before the text. -/
def Piece.ofConstruct (construct : Construct) (text : List Char) :
    Except Cause (Piece × List Char) :=
  match construct with
  | .comment =>
    match splitAtCommentEnd text with
    | none => .error (.unterminated .comment)
    | some (inner, rest) => .ok (.comment inner, rest)
  | .output =>
    match splitAtClosing '}' .start text with
    | .error cursor => .error (cursor.cause .output)
    | .ok (inner, rest) => .ok (.output inner, rest)
  | .tag =>
    match splitAtClosing '%' .start text with
    | .error cursor => .error (cursor.cause .tag)
    | .ok (inner, rest) => Piece.ofTag inner rest

/-- The first piece of a text, and the text after it. -/
def Piece.first (text : List Char) : Except Cause (Piece × List Char) :=
  match opening? text with
  | some construct => Piece.ofConstruct construct (text.drop 2)
  | none => .ok (.text (splitAtOpening text).1, (splitAtOpening text).2)

/-! ## The parts of a split are the whole text -/

@[simp]
theorem push_fst (c : Char) (split : List Char × List Char) : (push c split).1 = c :: split.1 :=
  rfl

@[simp]
theorem push_snd (c : Char) (split : List Char × List Char) : (push c split).2 = split.2 :=
  rfl

theorem splitAtOpening_append (text : List Char) :
    (splitAtOpening text).1 ++ (splitAtOpening text).2 = text := by
  induction text with
  | nil => rfl
  | cons c rest ih =>
    unfold splitAtOpening
    split
    · rfl
    · simp [ih]

theorem splitAtClosing_append {closer : Char} {cursor : Cursor} {text inner rest : List Char}
    (h : splitAtClosing closer cursor text = .ok (inner, rest)) :
    text = inner ++ closer :: '}' :: rest := by
  induction text generalizing cursor inner with
  | nil => simp [splitAtClosing] at h
  | cons c tail ih =>
    unfold splitAtClosing at h
    split at h
    · rename_i closes
      simp only [Cursor.closes, Bool.and_eq_true, beq_iff_eq] at closes
      obtain ⟨⟨_, rfl⟩, head⟩ := closes
      obtain ⟨more, rfl⟩ := List.head?_eq_some_iff.1 head
      simp only [Except.ok.injEq, Prod.mk.injEq, List.tail_cons] at h
      simp [← h.1, ← h.2]
    · match found : splitAtClosing closer (cursor.advance c) tail with
      | .error _ => simp [found, Except.map] at h
      | .ok (inner', rest') =>
        simp only [found, Except.map, push, Except.ok.injEq, Prod.mk.injEq] at h
        rw [← h.1, ih (found.trans (by rw [h.2]))]
        simp

theorem splitAtCommentEnd_append {text inner rest : List Char}
    (h : splitAtCommentEnd text = some (inner, rest)) :
    text = inner ++ '#' :: '}' :: rest := by
  induction text generalizing inner with
  | nil => simp [splitAtCommentEnd] at h
  | cons c tail ih =>
    unfold splitAtCommentEnd at h
    split at h
    · rename_i ends
      obtain ⟨rfl, head⟩ := ends
      obtain ⟨more, rfl⟩ := List.head?_eq_some_iff.1 head
      simp only [Option.some.injEq, Prod.mk.injEq, List.tail_cons] at h
      simp [← h.1, ← h.2]
    · obtain ⟨⟨inner', rest'⟩, found, h⟩ := Option.map_eq_some_iff.1 h
      simp only [push, Prod.mk.injEq] at h
      rw [← h.1, ih (found.trans (by rw [h.2]))]
      simp

theorem splitAtEndRaw_append {text run ending : List Char}
    (h : splitAtEndRaw text = some (run, ending)) :
    text = run ++ ending ∧ (afterEndRaw? ending).isSome := by
  induction text generalizing run with
  | nil => simp [splitAtEndRaw] at h
  | cons c tail ih =>
    unfold splitAtEndRaw at h
    split at h
    · simp only [Option.some.injEq, Prod.mk.injEq] at h
      obtain ⟨rfl, rfl⟩ := h
      exact ⟨rfl, by assumption⟩
    · obtain ⟨⟨run', ending'⟩, found, h⟩ := Option.map_eq_some_iff.1 h
      simp only [push, Prod.mk.injEq] at h
      obtain ⟨rfl, rfl⟩ := h
      exact ⟨by rw [(ih found).1]; rfl, (ih found).2⟩

theorem dropSign_suffix (text : List Char) : dropSign text <:+ text := by
  unfold dropSign
  split
  · split
    · exact List.suffix_cons _ _
    · exact List.suffix_refl _
  · exact List.suffix_refl _

theorem after?_suffix {word text rest : List Char} (h : after? word text = some rest) :
    rest <:+ text := by
  unfold after? at h
  split at h
  · cases h
    exact List.drop_suffix _ _
  · cases h

/-- What follows an `endraw` tag is an end of the text. -/
theorem afterEndRaw?_suffix {text rest : List Char} (h : afterEndRaw? text = some rest) :
    rest <:+ text := by
  simp only [afterEndRaw?, Option.bind_eq_bind, Option.bind_eq_some_iff] at h
  obtain ⟨inner, hinner, closing, hclosing, hrest⟩ := h
  exact (after?_suffix hrest).trans <| (dropSign_suffix _).trans <|
    (List.dropWhile_suffix _).trans <| (after?_suffix hclosing).trans <|
    (List.dropWhile_suffix _).trans <| (dropSign_suffix _).trans (after?_suffix hinner)

theorem take_append_of_suffix {rest text : List Char} (h : rest <:+ text) :
    text.take (text.length - rest.length) ++ rest = text := by
  obtain ⟨front, rfl⟩ := h
  simp

/-! ## What the first piece is -/

/-- A text begins with a piece, and the rest of the text follows it. -/
inductive Piece.IsFirst : Piece → List Char → List Char → Prop
  | text {text : List Char} (noOpening : opening? text = none) :
      IsFirst (.text (splitAtOpening text).1) text (splitAtOpening text).2
  | output {text inner rest : List Char}
      (cut : splitAtClosing '}' .start text = .ok (inner, rest)) :
      IsFirst (.output inner) ('{' :: '{' :: text) rest
  | tag {text inner rest : List Char} (cut : splitAtClosing '%' .start text = .ok (inner, rest))
      (notRaw : bodyOf inner ≠ "raw".toList) : IsFirst (.tag inner) ('{' :: '%' :: text) rest
  | comment {text inner rest : List Char} (cut : splitAtCommentEnd text = some (inner, rest)) :
      IsFirst (.comment inner) ('{' :: '#' :: text) rest
  /-- The end tag stands between the section and the rest. -/
  | raw {text inner behind run ending rest : List Char}
      (cut : splitAtClosing '%' .start text = .ok (inner, behind))
      (isRaw : bodyOf inner = "raw".toList)
      (split : splitAtEndRaw behind = some (run, ending ++ rest))
      (isEnd : afterEndRaw? (ending ++ rest) = some rest) :
      IsFirst (.raw inner run ending) ('{' :: '%' :: text) rest

/-- What a tag is, alone or with the section behind it. -/
theorem ofTag_eq_ok_iff {inner text rest : List Char} {piece : Piece} :
    Piece.ofTag inner text = .ok (piece, rest) ↔
      (bodyOf inner ≠ "raw".toList ∧ piece = .tag inner ∧ rest = text) ∨
        (bodyOf inner = "raw".toList ∧ ∃ run ending, piece = .raw inner run ending ∧
          splitAtEndRaw text = some (run, ending ++ rest) ∧
            afterEndRaw? (ending ++ rest) = some rest) := by
  unfold Piece.ofTag
  split
  · rename_i isRaw
    cases found : splitAtEndRaw text with
    | none => simp [isRaw]
    | some split =>
      obtain ⟨run, behind⟩ := split
      obtain ⟨after, isAfter⟩ := Option.isSome_iff_exists.1 (splitAtEndRaw_append found).2
      have whole := take_append_of_suffix (afterEndRaw?_suffix isAfter)
      simp only [isAfter, Option.getD_some, Except.ok.injEq, Prod.mk.injEq, Option.some.injEq]
      constructor
      · rintro ⟨rfl, rfl⟩
        exact .inr ⟨isRaw, run, _, rfl, ⟨rfl, whole.symm⟩, by rw [whole, isAfter]⟩
      · rintro (⟨notRaw, _⟩ | ⟨_, run, ending, rfl, ⟨rfl, rfl⟩, isRest⟩)
        · exact absurd isRaw notRaw
        · cases isAfter.symm.trans isRest
          exact ⟨congrArg _ (List.append_cancel_right whole), rfl⟩
  · rename_i notRaw
    simp only [Except.ok.injEq, Prod.mk.injEq]
    constructor
    · rintro ⟨rfl, rfl⟩
      exact .inl ⟨notRaw, rfl, rfl⟩
    · rintro (⟨_, rfl, rfl⟩ | ⟨isRaw, _⟩)
      · exact ⟨rfl, rfl⟩
      · exact absurd isRaw notRaw

/-- The two characters of an opening delimiter. -/
def Construct.opening : Construct → List Char
  | .output => ['{', '{']
  | .tag => ['{', '%']
  | .comment => ['{', '#']

theorem opening?_eq_some {text : List Char} {construct : Construct}
    (h : opening? text = some construct) : construct.opening ++ text.drop 2 = text := by
  unfold opening? at h
  split at h <;> cases h <;> rfl

/-- What the first piece is, from its opening delimiter to its end. -/
theorem first_eq_ok_iff {text rest : List Char} {piece : Piece} :
    Piece.first text = .ok (piece, rest) ↔ piece.IsFirst text rest := by
  constructor
  · intro found
    unfold Piece.first at found
    split at found
    · rename_i construct opens
      rw [← opening?_eq_some opens]
      generalize text.drop 2 = behind at found
      cases construct with
      | output =>
        simp only [Piece.ofConstruct] at found
        split at found
        · cases found
        · rename_i cut
          cases found
          exact .output cut
      | tag =>
        simp only [Piece.ofConstruct] at found
        split at found
        · cases found
        · rename_i cut
          obtain ⟨notRaw, rfl, rfl⟩ | ⟨isRaw, run, ending, rfl, split, isEnd⟩ :=
            ofTag_eq_ok_iff.1 found
          · exact .tag cut notRaw
          · exact .raw cut isRaw split isEnd
      | comment =>
        simp only [Piece.ofConstruct] at found
        split at found
        · cases found
        · rename_i cut
          cases found
          exact .comment cut
    · rename_i noOpening
      cases found
      exact .text noOpening
  · intro isFirst
    cases isFirst with
    | text noOpening => simp only [Piece.first, noOpening]
    | output cut => simp [Piece.first, opening?, Piece.ofConstruct, cut]
    | tag cut notRaw =>
      simpa [Piece.first, opening?, Piece.ofConstruct, cut] using
        ofTag_eq_ok_iff.2 (.inl ⟨notRaw, rfl, rfl⟩)
    | comment cut => simp [Piece.first, opening?, Piece.ofConstruct, cut]
    | raw cut isRaw split isEnd =>
      simpa [Piece.first, opening?, Piece.ofConstruct, cut] using
        ofTag_eq_ok_iff.2 (.inr ⟨isRaw, _, _, rfl, split, isEnd⟩)

/-! ## The pieces give the text back -/

/-- The first piece and the text after it are the whole text. -/
theorem first_source {text rest : List Char} {piece : Piece}
    (h : Piece.first text = .ok (piece, rest)) : piece.source ++ rest = text := by
  cases first_eq_ok_iff.1 h with
  | text _ => exact splitAtOpening_append text
  | output cut => simp [Piece.source, splitAtClosing_append cut]
  | tag cut _ => simp [Piece.source, splitAtClosing_append cut]
  | comment cut => simp [Piece.source, splitAtCommentEnd_append cut]
  | raw cut _ split _ =>
    simp [Piece.source, splitAtClosing_append cut, (splitAtEndRaw_append split).1]

/-- A text that begins with no opening delimiter begins with a run of text. -/
theorem splitAtOpening_fst_ne_nil {text : List Char} (noOpening : opening? text = none)
    (filled : text ≠ []) : (splitAtOpening text).1 ≠ [] := by
  cases text with
  | nil => contradiction
  | cons c rest => simp [splitAtOpening, noOpening]

theorem first_source_ne_nil {text rest : List Char} {piece : Piece} (filled : text ≠ [])
    (h : Piece.first text = .ok (piece, rest)) : piece.source ≠ [] := by
  cases first_eq_ok_iff.1 h with
  | text noOpening => exact splitAtOpening_fst_ne_nil noOpening filled
  | _ => simp [Piece.source]

/-- The text after the first piece of a text that is not empty is shorter. -/
theorem first_length_lt {c : Char} {text rest : List Char} {piece : Piece}
    (h : Piece.first (c :: text) = .ok (piece, rest)) : rest.length < (c :: text).length := by
  have whole := congrArg List.length (first_source h)
  have filled := List.length_pos_iff.2 (first_source_ne_nil (List.cons_ne_nil c text) h)
  rw [List.length_append] at whole
  omega

/-- The pieces of a text that begins at the line `line`. -/
def Piece.all (line : Nat) : List Char → Except Fault (List Piece)
  | [] => .ok []
  | c :: tail =>
    match h : Piece.first (c :: tail) with
    | .error cause => .error ⟨line, cause⟩
    | .ok (piece, rest) =>
      have : rest.length < (c :: tail).length := first_length_lt h
      (Piece.all (line + lineBreaks piece.source) rest).map (piece :: ·)
termination_by chars => chars.length
decreasing_by exact this

/-- The pieces of a template, one after another, are the template. -/
theorem pieces_source {line : Nat} {text : List Char} {pieces : List Piece}
    (h : Piece.all line text = .ok pieces) : pieces.flatMap Piece.source = text := by
  fun_induction Piece.all line text generalizing pieces with
  | case1 => cases h; rfl
  | case2 => cases h
  | case3 line c tail piece rest found _ ih =>
    match more : Piece.all (line + lineBreaks piece.source) rest with
    | .error _ => simp [more, Except.map] at h
    | .ok others =>
      simp only [more, Except.map, Except.ok.injEq] at h
      rw [← h, List.flatMap_cons, ih more, first_source found]

/-! ## Segments -/

/-- What the rest of the program sees of a piece, with the line at which it begins. -/
inductive Segment where
  | text (run : List Char) (line : Nat)
  | output (body : List Char) (line : Nat)
  | tag (body : List Char) (line : Nat)
  | comment (body : List Char) (line : Nat)
deriving DecidableEq, Repr

/-- The segment of a piece that begins at the line `line`.  A raw section is the text between its
two tags, and nothing if there is none. -/
def Piece.segment? (line : Nat) : Piece → Option Segment
  | .text run => some (.text run line)
  | .output inner => some (.output (bodyOf inner) line)
  | .tag inner => some (.tag (bodyOf inner) line)
  | .comment inner => some (.comment (bodyOf inner) line)
  | .raw inner run _ => if run.isEmpty then none else some (.text run (line + lineBreaks inner))

/-- The segments of consecutive pieces, of which the first begins at the line `line`. -/
def Segment.ofPieces (line : Nat) : List Piece → List Segment
  | [] => []
  | piece :: pieces =>
    (piece.segment? line).toList ++ Segment.ofPieces (line + lineBreaks piece.source) pieces

/-- The segments of a template. -/
def Segment.ofTemplate (template : List Char) : Except Fault (List Segment) :=
  (Piece.all 1 template).map (Segment.ofPieces 1)

end Lineage.Template
