import Lineage.Bytewise.Token
import Lineage.Proofs.Identifiers

/-!
# Cutting an expression by positions

The tokens that are cut by positions are the tokens of the expression, each placed between the bytes
where it stands (`tokensFrom_eq`).  Every byte that the reading asks for is one of the ASCII range,
and such a byte stands for a whole character; behind a backslash the position may stand inside a
character, and then moves on to the end of it.
-/

namespace Lineage.Bytewise

open Lineage.Text Lineage.Template

/-! ## Tests of bytes -/

/-- A test of bytes that says of every byte of a character what a test of characters says of it. -/
def Agrees (test : UInt8 → Bool) (p : Char → Bool) : Prop :=
  ∀ c, ∀ byte ∈ String.utf8EncodeChar c, test byte = p c

section Agreement

variable {test test' : UInt8 → Bool} {p p' : Char → Bool}

theorem agrees_beq {d : Char} (ascii : d.toNat < 128) : Agrees (· == d.toUInt8) (· == d) := by
  intro c byte member
  rw [Bool.eq_iff_iff, beq_iff_eq, beq_iff_eq]
  exact eq_toUInt8_iff ascii member

theorem Agrees.or (first : Agrees test p) (second : Agrees test' p') :
    Agrees (fun byte => test byte || test' byte) (fun c => p c || p' c) :=
  fun c byte member => by
    simp only [first c byte member, second c byte member]

theorem agrees_separates : Agrees separates isSeparator :=
  ((((agrees_beq (by decide)).or (agrees_beq (by decide))).or (agrees_beq (by decide))).or
    (agrees_beq (by decide))).or (agrees_beq (by decide))

theorem agrees_isDigitByte : Agrees isDigitByte Char.isDigit := by
  intro c byte member
  have spelled : c.isDigit = (decide (48 ≤ c.toNat) && decide (c.toNat ≤ 57)) := by
    rw [Char.isDigit]
    simp only [UInt32.le_iff_toNat_le, ge_iff_le]
    rfl
  have bounds : isDigitByte byte = (decide (48 ≤ byte.toNat) && decide (byte.toNat ≤ 57)) := by
    simp only [isDigitByte, UInt8.le_iff_toNat_le]
    rfl
  rw [spelled, bounds]
  by_cases small : c.toNat < 128
  · rw [utf8EncodeChar_of_lt small, List.mem_singleton] at member
    rw [member, toNat_toUInt8 small]
  · have high := le_of_mem_utf8EncodeChar (Nat.le_of_not_lt small) member
    have beyond : decide (c.toNat ≤ 57) = false := by
      rw [decide_eq_false_iff_not]
      omega
    have byteBeyond : decide (byte.toNat ≤ 57) = false := by
      rw [decide_eq_false_iff_not]
      omega
    rw [beyond, byteBeyond, Bool.and_false, Bool.and_false]

/-- The bytes at the beginning of a text that satisfy a test are those of the characters there. -/
theorem Agrees.takeWhile (agrees : Agrees test p) (text : List Char) :
    (bytes text).takeWhile test = bytes (text.takeWhile p) := by
  induction text with
  | nil => rfl
  | cons c rest ih =>
      rw [bytes_cons, List.takeWhile_cons]
      cases holds : p c with
      | true =>
          rw [List.takeWhile_append_of_pos fun byte member => (agrees c byte member).trans holds,
            ih]
          simp only [if_true, bytes_cons]
      | false =>
          obtain ⟨byte, others, isCons⟩ := List.exists_cons_of_length_pos
            (Nat.lt_of_lt_of_eq c.utf8Size_pos (String.length_utf8EncodeChar c).symm)
          have first := agrees c byte (isCons ▸ List.mem_cons_self)
          rw [isCons, List.cons_append, List.takeWhile_cons, first.trans holds]
          rfl

/-- The byte behind a text is one of the character behind it. -/
theorem Agrees.any_head (agrees : Agrees test p) (before rest : List Char) :
    (bytes (before ++ rest))[byteLength before]?.any test = rest.head?.any p := by
  cases rest with
  | nil =>
      rw [List.append_nil, ← length_bytes, List.getElem?_eq_none (Nat.le_refl _)]
      rfl
  | cons c rest =>
      obtain ⟨byte, member, here⟩ := exists_getElem?_bytes before rest (c.utf8Size_pos)
      rw [Nat.add_zero] at here
      rw [here]
      exact agrees c byte member

end Agreement

/-- The position behind a character. -/
theorem byteLength_snoc (before : List Char) (c : Char) :
    byteLength (before ++ [c]) = byteLength before + c.utf8Size := by
  rw [byteLength_append]
  rfl

/-- The first byte of the character behind a text. -/
theorem exists_first_byte (before : List Char) (c : Char) (rest : List Char) :
    ∃ byte ∈ String.utf8EncodeChar c,
      (bytes (before ++ c :: rest))[byteLength before]? = some byte :=
  exists_getElem?_bytes before rest c.utf8Size_pos

theorem byteLength_lt_append (before : List Char) (c : Char) (rest : List Char) :
    byteLength before < byteLength (before ++ c :: rest) := by
  have positive := c.utf8Size_pos
  rw [byteLength_append, byteLength]
  omega

/-! ## Numbers -/

theorem toNat_lt_of_isDigit {c : Char} (digit : c.isDigit = true) : c.toNat < 128 := by
  simp only [Char.isDigit, Bool.and_eq_true, decide_eq_true_eq, UInt32.le_iff_toNat_le] at digit
  exact Nat.lt_of_le_of_lt digit.2 (by decide)

theorem utf8Size_of_isDigit {c : Char} (digit : c.isDigit = true) : c.utf8Size = 1 :=
  utf8Size_of_lt (toNat_lt_of_isDigit digit)

/-- The digits, underscores and points that are passed by positions are those of the number. -/
theorem digitsEnd_eq (before rest : List Char) :
    digitsEnd (bytes (before ++ rest)) (byteLength before) =
      some (byteLength before + byteLength (splitDigits rest).1) := by
  induction rest generalizing before with
  | nil =>
      rw [digitsEnd, List.append_nil, length_bytes, if_neg (Nat.lt_irrefl _)]
      rfl
  | cons c rest ih =>
      obtain ⟨byte, member, here⟩ := exists_first_byte before c rest
      rw [digitsEnd, length_bytes, if_pos (byteLength_lt_append before c rest), here]
      have isDigit := agrees_isDigitByte c byte member
      have isUnderscore := agrees_beq (d := '_') (by decide) c byte member
      have isPoint := agrees_beq (d := '.') (by decide) c byte member
      dsimp only at isUnderscore isPoint
      simp only [Option.bind_eq_bind, Option.bind_some, isDigit, isUnderscore, isPoint]
      have next : ∀ {size : Nat}, c.utf8Size = size →
          digitsEnd (bytes (before ++ c :: rest)) (byteLength before + size) =
            some (byteLength before + byteLength (c :: (splitDigits rest).1)) := by
        rintro _ rfl
        have later := ih (before ++ [c])
        rw [List.append_assoc, List.singleton_append, byteLength_snoc] at later
        rw [later, byteLength, Nat.add_assoc]
      rw [splitDigits, continuesNumber]
      by_cases digit : c.isDigit = true
      · have noPoint : (c == '.') = false := by
          rw [beq_eq_false_iff_ne]
          rintro rfl
          exact absurd digit (by decide)
        simp only [digit, noPoint, Bool.true_or, if_true, Bool.false_and, Bool.false_eq_true,
          if_false]
        exact next (utf8Size_of_isDigit digit)
      · by_cases underscore : c = '_'
        · subst underscore
          exact next rfl
        · by_cases point : c = '.'
          · subst point
            have follows := agrees_isDigitByte.any_head (before ++ ['.']) rest
            rw [List.append_assoc, List.singleton_append, byteLength_snoc] at follows
            change Option.any isDigitByte (bytes (before ++ '.' :: rest))[byteLength before + 1]? =
              _ at follows
            rw [follows]
            cases rest.head?.any Char.isDigit with
            | true => exact next rfl
            | false => rfl
          · simp [digit, underscore, point, byteLength]

theorem agrees_exponentDigit :
    Agrees (fun byte => isDigitByte byte || byte == '_'.toUInt8) (fun c => c.isDigit || c == '_') :=
  agrees_isDigitByte.or (agrees_beq (by decide))

theorem agrees_exponentLetter :
    Agrees (fun byte => byte == 'e'.toUInt8 || byte == 'E'.toUInt8)
      (fun c => c == 'e' || c == 'E') :=
  (agrees_beq (by decide)).or (agrees_beq (by decide))

theorem agrees_exponentSign :
    Agrees (fun byte => byte == '+'.toUInt8 || byte == '-'.toUInt8)
      (fun c => c == '+' || c == '-') :=
  (agrees_beq (by decide)).or (agrees_beq (by decide))

/-- The digits of an exponent behind its letter and sign, which are one byte each. -/
theorem exponentDigits_eq (front rest : List Char) :
    (do
      let behind ← part? (bytes (front ++ rest)) (byteLength front) (bytes (front ++ rest)).length
      let digits := behind.takeWhile fun byte => isDigitByte byte || byte == '_'.toUInt8
      return if (bytes (front ++ rest))[byteLength front]?.any isDigitByte
        then byteLength front + digits.length else 0) =
      some (((splitExponentDigits? rest).map fun (digits, _) =>
        byteLength front + byteLength digits).getD 0) := by
  have dropped : (bytes (front ++ rest)).drop (byteLength front) = bytes rest := by
    rw [bytes_append, ← length_bytes, List.drop_left]
  rw [agrees_isDigitByte.any_head, part?_drop, dropped]
  · simp only [Option.bind_eq_bind, Option.bind_some, Option.pure_def,
      agrees_exponentDigit.takeWhile, length_bytes]
    cases rest with
    | nil => rfl
    | cons c rest =>
        rw [splitExponentDigits?, List.head?_cons, Option.any_some]
        split
        · rename_i digit
          simp [digit]
        · rfl
  · rw [length_bytes, byteLength_append]
    omega

theorem utf8Size_of_or {a b c : Char} (isOne : (c == a || c == b) = true)
    (small : a.utf8Size = 1 ∧ b.utf8Size = 1) : c.utf8Size = 1 := by
  rcases Bool.or_eq_true_iff.mp isOne with same | same
  · rw [beq_iff_eq.mp same, small.1]
  · rw [beq_iff_eq.mp same, small.2]

/-- The length of an exponent is told from bytes. -/
theorem exponentLength_eq (text : List Char) :
    exponentLength (bytes text) =
      some (((splitExponent? text).map fun (exponent, _) => byteLength exponent).getD 0) := by
  have letter := agrees_exponentLetter.any_head [] text
  rw [List.nil_append, byteLength, ← List.head?_eq_getElem?] at letter
  rw [exponentLength, letter]
  cases text with
  | nil => rfl
  | cons c rest =>
      rw [List.head?_cons, Option.any_some]
      by_cases isLetter : (c == 'e' || c == 'E') = true
      · have size : byteLength [c] = 1 := utf8Size_of_or isLetter ⟨rfl, rfl⟩
        have sign := agrees_exponentSign.any_head [c] rest
        rw [List.singleton_append, size] at sign
        have unsigned := exponentDigits_eq [c] rest
        rw [List.singleton_append, size] at unsigned
        rw [if_pos isLetter, sign]
        cases rest with
        | nil => exact unsigned
        | cons d rest =>
            rw [List.head?_cons, Option.any_some, splitExponent?, if_pos isLetter]
            by_cases isSign : (d == '+' || d == '-') = true
            · have signSize : byteLength [c, d] = 2 := by
                have here : d.utf8Size = 1 := utf8Size_of_or isSign ⟨rfl, rfl⟩
                change byteLength [c] + (d.utf8Size + 0) = 2
                omega
              have signed := exponentDigits_eq [c, d] rest
              rw [signSize] at signed
              rw [if_pos isSign, if_pos isSign]
              refine signed.trans ?_
              cases splitExponentDigits? rest with
              | none => rfl
              | some split =>
                  simp only [Option.map_some, Option.getD_some, ← signSize, byteLength,
                    Nat.add_zero, Nat.add_assoc]
            · rw [if_neg isSign, if_neg isSign]
              refine unsigned.trans ?_
              cases splitExponentDigits? (d :: rest) with
              | none => rfl
              | some split =>
                  simp only [Option.map_some, Option.getD_some, ← size, byteLength, Nat.add_zero]
      · rw [if_neg isLetter]
        cases rest with
        | nil => rfl
        | cons d rest =>
            rw [splitExponent?, if_neg isLetter]
            rfl

/-! ## Literals -/

section Literals

variable {mark : Char} (ascii : mark.toNat < 128)
include ascii

/-- The search for the end of a literal passes a character that is neither a backslash nor the mark,
from any of its bytes on. -/
theorem literalEnd_behind (before : List Char) {c : Char} (rest : List Char) (noMark : c ≠ mark)
    (noEscape : c ≠ '\\') (offset : Nat) (inside : offset ≤ c.utf8Size) :
    literalEnd (bytes (before ++ c :: rest)) mark.toUInt8 (byteLength before + offset) =
      literalEnd (bytes (before ++ c :: rest)) mark.toUInt8 (byteLength (before ++ [c])) := by
  rw [byteLength_snoc]
  induction length : c.utf8Size - offset generalizing offset with
  | zero => rw [show offset = c.utf8Size by omega]
  | succ distance ih =>
      have fits : offset < c.utf8Size := by omega
      obtain ⟨byte, member, here⟩ := exists_getElem?_bytes before rest fits
      have position : byteLength before + offset < (bytes (before ++ c :: rest)).length :=
        (List.getElem?_eq_some_iff.mp here).1
      have noMarkByte := mt (eq_toUInt8_iff ascii member).mp noMark
      have noEscapeByte := mt (eq_toUInt8_iff (by decide) member).mp noEscape
      rw [literalEnd, if_pos position, here]
      simp only [Option.bind_eq_bind, Option.bind_some, noMarkByte, noEscapeByte, if_false]
      exact ih (offset + 1) (by omega) (by omega)

/-- A character in a literal is told from its first byte. -/
theorem literalEnd_at (before : List Char) (c : Char) (rest : List Char) :
    literalEnd (bytes (before ++ c :: rest)) mark.toUInt8 (byteLength before) =
      if c = '\\' then
        literalEnd (bytes (before ++ c :: rest)) mark.toUInt8 (byteLength before + 2)
      else if c = mark then some (some (byteLength before + 1))
      else literalEnd (bytes (before ++ c :: rest)) mark.toUInt8 (byteLength before + 1) := by
  obtain ⟨byte, member, here⟩ := exists_first_byte before c rest
  conv => lhs; rw [literalEnd, length_bytes, if_pos (byteLength_lt_append before c rest), here]
  simp only [Option.bind_eq_bind, Option.bind_some, eq_toUInt8_iff (show '\\'.toNat < 128 by decide)
    member, eq_toUInt8_iff ascii member, Option.pure_def]

/-- The search passes a backslash and what it escapes: the second byte that it passes is the first
one of the escaped character, and the others of that character are passed one by one. -/
theorem literalEnd_escape (before : List Char) (d : Char) (rest : List Char) :
    literalEnd (bytes (before ++ '\\' :: d :: rest)) mark.toUInt8 (byteLength before) =
      literalEnd (bytes (before ++ '\\' :: d :: rest)) mark.toUInt8
        (byteLength (before ++ ['\\', d])) := by
  have source : before ++ '\\' :: d :: rest = (before ++ ['\\']) ++ d :: rest := by
    rw [List.append_assoc, List.singleton_append]
  have escape : byteLength before + 1 = byteLength (before ++ ['\\']) :=
    (byteLength_snoc before '\\').symm
  rw [literalEnd_at ascii, if_pos rfl, List.append_cons before '\\' [d],
    show byteLength before + 2 = byteLength (before ++ ['\\']) + 1 by omega]
  by_cases small : d.toNat < 128
  · rw [byteLength_snoc _ d, utf8Size_of_lt small]
  · rw [source]
    apply literalEnd_behind ascii (before ++ ['\\']) rest _ _ 1 d.utf8Size_pos
    · rintro rfl
      exact small ascii
    · rintro rfl
      exact small (by decide)

/-- The end of a literal is told from bytes. -/
theorem literalEnd_eq (noEscape : mark ≠ '\\') (before rest : List Char) :
    literalEnd (bytes (before ++ rest)) mark.toUInt8 (byteLength before) =
      some ((splitLiteral? mark rest).map fun (inner, _) =>
        byteLength before + byteLength inner + 1) := by
  fun_induction splitLiteral? mark rest generalizing before with
  | case1 =>
      rw [literalEnd, List.append_nil, length_bytes, if_neg (Nat.lt_irrefl _)]
      rfl
  | case2 rest =>
      rw [literalEnd_at ascii, if_neg noEscape, if_pos rfl]
      rfl
  | case3 =>
      have size : '\\'.utf8Size = 1 := by decide
      rw [literalEnd_at ascii, if_pos rfl, literalEnd, length_bytes, byteLength_snoc, size,
        if_neg (by omega)]
      rfl
  | case4 d rest noMark ih =>
      have later := ih (before ++ ['\\', d])
      rw [List.append_assoc, List.cons_append, List.singleton_append] at later
      rw [literalEnd_escape ascii, later, Option.map_map]
      congr 2
      funext split
      simp only [Function.comp, byteLength_append, byteLength, Nat.add_assoc, Nat.add_zero]
  | case5 c rest noMark noEscape' ih =>
      have later := ih (before ++ [c])
      have behind := literalEnd_behind ascii before rest noMark noEscape' 0 (Nat.zero_le _)
      rw [List.append_assoc, List.singleton_append] at later
      rw [Nat.add_zero] at behind
      rw [behind, later, Option.map_map]
      congr 2
      funext split
      simp only [Function.comp, byteLength_snoc, byteLength, Nat.add_assoc]

end Literals

/-! ## Words and operators -/

/-- The first character that ends a word is where the word ends. -/
theorem offset?_takeWhile (p : Char → Bool) (text : List Char) :
    (offset? (!p ·) text).getD (byteLength text) = byteLength (text.takeWhile p) := by
  induction text with
  | nil => rfl
  | cons c rest ih =>
      rw [offset?, List.takeWhile_cons]
      cases p c with
      | false => rfl
      | true =>
          simp only [Bool.not_true, Bool.false_eq_true, if_false, if_true, byteLength, ← ih]
          cases offset? (!p ·) rest <;> rfl

theorem length_pairOperators : ∀ sign ∈ pairOperators, ∃ c d, sign.toList = [c, d] := by
  intro sign member
  simp only [pairOperators, List.mem_cons, List.not_mem_nil, or_false] at member
  rcases member with rfl | rfl | rfl | rfl | rfl | rfl <;> exact ⟨_, _, rfl⟩

/-- An operator of two characters begins the text if it is its first two characters. -/
theorem find?_pairOperators (c : Char) (rest : List Char) :
    pairOperators.find? (fun sign => sign.toList.isPrefixOf (c :: rest)) =
      pairOperator? c rest := by
  cases rest with
  | nil =>
      rw [pairOperator?, List.find?_eq_none]
      intro sign member
      obtain ⟨d, e, isPair⟩ := length_pairOperators sign member
      simp [isPair, List.isPrefixOf]
  | cons d rest =>
      have same : ∀ sign ∈ pairOperators,
          sign.toList.isPrefixOf (c :: d :: rest) = (sign == String.ofList [c, d]) := by
        intro sign member
        obtain ⟨e, f, isPair⟩ := length_pairOperators sign member
        rw [Bool.eq_iff_iff, beq_iff_eq, ← String.toList_inj, String.toList_ofList, isPair]
        simp [List.isPrefixOf]
      rw [pairOperator?]
      split
      · rename_i isPair
        rw [List.contains_iff_mem] at isPair
        cases found : pairOperators.find?
            (fun sign => sign.toList.isPrefixOf (c :: d :: rest)) with
        | none =>
            have none := List.find?_eq_none.mp found _ isPair
            rw [same _ isPair, beq_self_eq_true] at none
            contradiction
        | some sign =>
            have holds := List.find?_some found
            rw [same sign (List.mem_of_find?_eq_some found), beq_iff_eq] at holds
            rw [holds]
      · rename_i noPair
        rw [List.contains_iff_mem] at noPair
        rw [List.find?_eq_none]
        intro sign member
        rw [same sign member, beq_iff_eq]
        rintro rfl
        exact noPair member

theorem singleOperators_ascii : ∀ d ∈ singleOperators, d.toNat < 128 := by
  have all : singleOperators.all (fun d => decide (d.toNat < 128)) = true := by decide
  exact fun d isOperator => of_decide_eq_true (List.all_eq_true.mp all d isOperator)

/-- An operator of one character is told from its byte. -/
theorem contains_singleOperators {c : Char} {byte : UInt8}
    (member : byte ∈ String.utf8EncodeChar c) :
    (bytes singleOperators).contains byte = singleOperators.contains c := by
  rw [Bool.eq_iff_iff, List.contains_iff_mem, List.contains_iff_mem, bytes, List.mem_flatMap]
  constructor
  · rintro ⟨d, isOperator, same⟩
    rw [utf8EncodeChar_of_lt (singleOperators_ascii d isOperator), List.mem_singleton] at same
    rwa [(eq_toUInt8_iff (singleOperators_ascii d isOperator) member).mp same]
  · intro isOperator
    exact ⟨c, isOperator, member⟩

/-! ## Lexemes -/

/-- The class of a lexeme. -/
def kindOf : Lexeme → Kind
  | .word _ => .word
  | .literal _ _ => .literal
  | .number _ => .number
  | .operator _ => .operator

/-- The number that begins at a position. -/
theorem number_eq (before text : List Char) :
    (do
      let stop ← digitsEnd (bytes (before ++ text)) (byteLength before)
      let behind ← part? (bytes (before ++ text)) stop (bytes (before ++ text)).length
      let exponent ← exponentLength behind
      return (.number, stop + exponent) : Checked Template.Cause (Kind × Nat)) =
      pure (.number, byteLength before + byteLength (splitNumber text).1) := by
  have whole := splitDigits_append text
  have source : before ++ text = (before ++ (splitDigits text).1) ++ (splitDigits text).2 := by
    rw [List.append_assoc, whole]
  have inside : byteLength (before ++ (splitDigits text).1) ≤ (bytes (before ++ text)).length := by
    rw [source, length_bytes, byteLength_append _ (splitDigits text).2]
    omega
  have behind : (bytes (before ++ text)).drop (byteLength (before ++ (splitDigits text).1)) =
      bytes (splitDigits text).2 := by
    rw [source, bytes_append _ (splitDigits text).2, ← length_bytes, List.drop_left]
  simp only [digitsEnd_eq, ← byteLength_append, part?_drop inside, behind, exponentLength_eq,
    liftM_some, pure_bind]
  rw [splitNumber]
  cases splitExponent? (splitDigits text).2 with
  | none => rfl
  | some split =>
      simp only [Option.map_some, Option.getD_some, byteLength_append, Nat.add_assoc]

/-- The lexeme that begins at a position is the one that is read there. -/
theorem lexemeAt_eq (before : List Char) {c : Char} {byte : UInt8} (rest : List Char)
    (member : byte ∈ String.utf8EncodeChar c) :
    lexemeAt (before ++ c :: rest) byte (byteLength before) =
      match Lexeme.read c rest with
      | .error cause => throw cause
      | .ok (lexeme, _) => pure (kindOf lexeme, byteLength before + byteLength lexeme.source) := by
  have isDigit := agrees_isDigitByte c byte member
  have isQuote : (byte = '"'.toUInt8 ∨ byte = '\''.toUInt8) ↔ (c = '"' ∨ c = '\'') :=
    or_congr (eq_toUInt8_iff (by decide) member) (eq_toUInt8_iff (by decide) member)
  rw [lexemeAt, slice?_rest]
  simp only [liftM_some, pure_bind, List.head?_cons, Option.getD_some, isDigit, isQuote,
    find?_pairOperators, contains_singleOperators member]
  unfold Lexeme.read
  split
  · rename_i starts
    have continues := continuesWord_of_startsWord starts
    have length : minus? (byteLength (before ++ c :: rest)) (byteLength before) =
        some (byteLength (c :: rest)) := by
      rw [byteLength_append, minus?_of_le (Nat.le_add_right _ _), Nat.add_sub_cancel_left]
    simp only [length, liftM_some, pure_bind, offset?_takeWhile, List.takeWhile_cons, continues,
      if_true, Lexeme.source, String.toList_ofList, kindOf]
  · split
    · exact number_eq before (c :: rest)
    · split
      · rename_i quote
        have ascii : c.toNat < 128 := by
          rcases quote with rfl | rfl <;> decide
        have noEscape : c ≠ '\\' := by
          rcases quote with rfl | rfl <;> decide
        have isByte : byte = c.toUInt8 := (eq_toUInt8_iff ascii member).mpr rfl
        have ends := literalEnd_eq ascii noEscape (before ++ [c]) rest
        rw [List.append_assoc, List.singleton_append, byteLength_snoc, utf8Size_of_lt ascii] at ends
        rw [isByte, ends]
        cases splitLiteral? c rest with
        | none => rfl
        | some split =>
            obtain ⟨inner, after⟩ := split
            simp only [Option.map_some, liftM_some, pure_bind, kindOf, Lexeme.source,
              List.cons_append, byteLength, byteLength_append, utf8Size_of_lt ascii]
            congr 2
            omega
      · cases pairOperator? c rest with
        | some sign => rfl
        | none =>
            dsimp only
            split
            · rename_i isOperator
              rw [List.contains_iff_mem] at isOperator
              simp only [kindOf, Lexeme.source, String.toList_singleton, byteLength,
                utf8Size_of_lt (singleOperators_ascii c isOperator)]
            · rfl

/-! ## Tokens -/

/-- The token as it is found by positions in the expression that it stands in. -/
def place (source : List Char) (token : Token) : PlacedToken where
  kind := kindOf token.lexeme
  text := token.lexeme.source
  start := byteLength (source.take token.start)
  stop := byteLength (source.take token.stop)

theorem utf8Size_of_isSeparator {c : Char} (separates : isSeparator c = true) :
    c.utf8Size = 1 := by
  simp only [isSeparator, Bool.or_eq_true, beq_iff_eq] at separates
  rcases separates with (((rfl | rfl) | rfl) | rfl) | rfl <;> rfl

theorem all_of_not_isSeparator {start : Nat} {c : Char} {rest : List Char}
    (filled : ¬ isSeparator c = true) :
    Token.all start (c :: rest) =
      match Lexeme.read c rest with
      | .error cause => .error cause
      | .ok (lexeme, after) =>
        (Token.all (start + lexeme.source.length) after).map (⟨lexeme, start⟩ :: ·) := by
  rw [Token.all, if_neg filled]
  split
  · rename_i refused
    simp only [refused]
  · rename_i found
    simp only [found]

theorem source_ne_nil {c : Char} {rest after : List Char} {lexeme : Lexeme}
    (read : Lexeme.read c rest = .ok (lexeme, after)) : lexeme.source ≠ [] := by
  intro isEmpty
  have whole := read_source read
  have shorter := read_length_lt read
  rw [← whole, isEmpty, List.nil_append] at shorter
  exact Nat.lt_irrefl _ shorter

/-- The tokens by positions, from any place between two lexemes on. -/
theorem tokensFrom_eq (before rest : List Char) :
    tokensFrom (before ++ rest) (byteLength before) =
      settled ((Token.all before.length rest).map (List.map (place (before ++ rest)))) := by
  induction length : rest.length using Nat.strongRecOn generalizing before rest with
  | ind size ih =>
      subst length
      cases rest with
      | nil =>
          rw [tokensFrom, List.append_nil, if_neg (Nat.lt_irrefl _), Token.all]
          rfl
      | cons c rest =>
          obtain ⟨byte, member, here⟩ := exists_first_byte before c rest
          rw [tokensFrom, if_pos (byteLength_lt_append before c rest), here]
          simp only [liftM_some, pure_bind, agrees_separates c byte member]
          by_cases separates : isSeparator c = true
          · have later := ih rest.length (Nat.lt_succ_self _) (before ++ [c]) rest rfl
            rw [List.append_assoc, List.singleton_append, byteLength_snoc, List.length_append,
              utf8Size_of_isSeparator separates] at later
            rw [if_pos separates, later, Token.all, if_pos separates]
            rfl
          · rw [if_neg separates, lexemeAt_eq before rest member,
              all_of_not_isSeparator separates]
            cases read : Lexeme.read c rest with
            | error cause => rfl
            | ok split =>
                obtain ⟨lexeme, after⟩ := split
                have whole := read_source read
                have later :=
                  ih after.length (read_length_lt read) (before ++ lexeme.source) after rfl
                have isText := slice?_append before lexeme.source after
                rw [List.append_assoc, whole, byteLength_append, List.length_append] at later
                rw [whole] at isText
                have inside : byteLength before + byteLength lexeme.source ≤
                    byteLength (before ++ c :: rest) := by
                  rw [← whole, ← List.append_assoc, byteLength_append, byteLength_append]
                  omega
                have moves : byteLength before < byteLength before + byteLength lexeme.source :=
                  Nat.lt_add_of_pos_right (byteLength_pos (source_ne_nil read))
                have here : place (before ++ c :: rest) ⟨lexeme, before.length⟩ =
                    ⟨kindOf lexeme, lexeme.source, byteLength before,
                      byteLength before + byteLength lexeme.source⟩ := by
                  have front : (before ++ c :: rest).take (before.length + lexeme.source.length) =
                      before ++ lexeme.source := by
                    rw [← whole, ← List.append_assoc, ← List.length_append, List.take_left]
                  rw [place, Token.stop, front, List.take_left, byteLength_append]
                simp only [pure_bind, Nat.min_eq_left inside, isText, liftM_some,
                  isBelow?_of_lt moves, later]
                rw [← here]
                cases Token.all (before.length + lexeme.source.length) after <;> rfl

end Lineage.Bytewise
