import Lineage.Proofs.Excerpts
import Lineage.Proofs.Outcomes
import Lineage.Proofs.Rendering
import Mathlib.Data.List.TakeWhile

/-!
# Expressions between delimiters

An expression closes its string literals, and its brackets pair up, so that its text may stand in an
output: the end of the output is not found inside it (`Expression.isOutputText`).
-/

namespace Lineage.Template

open Lineage.Text

/-! ## Lexemes in an output -/

/-- A character that neither quotes nor stands for a brace. -/
def IsInert (c : Char) : Prop :=
  ¬ IsQuote c ∧ c ≠ '{' ∧ c ≠ '}'

instance decidableIsInert (c : Char) : Decidable (IsInert c) :=
  inferInstanceAs (Decidable (_ ∧ _))

/-- What is true of a character, but neither of a quote nor of a brace, is true of an inert one. -/
theorem isInert_of {p : Char → Bool} {c : Char} (holds : p c = true)
    (others : ['"', '\'', '{', '}'].all (!p ·) = true) : IsInert c := by
  have notOther : c ∉ ['"', '\'', '{', '}'] := by
    intro member
    have notHere := List.all_eq_true.mp others c member
    rw [holds] at notHere
    cases notHere
  simp only [List.mem_cons, List.not_mem_nil, or_false, not_or] at notOther
  exact ⟨not_or.mpr ⟨notOther.1, notOther.2.1⟩, notOther.2.2⟩

theorem IsOutputText.inert_append {front rest : List Char} (inert : ∀ c ∈ front, IsInert c)
    (others : IsOutputText rest) : IsOutputText (front ++ rest) := by
  induction front with
  | nil => exact others
  | cons c front ih =>
      obtain ⟨noQuote, noOpening, noClosing⟩ := inert c List.mem_cons_self
      exact .cons noQuote noOpening noClosing
        (ih fun d member => inert d (List.mem_cons_of_mem c member))

section Numbers

theorem isInert_digit {c : Char} (digit : (c.isDigit || c == '_') = true) : IsInert c :=
  isInert_of (p := fun c => c.isDigit || c == '_') digit (by decide)

theorem splitDigits_inert (text : List Char) : ∀ c ∈ (splitDigits text).1, IsInert c := by
  induction text with
  | nil => exact List.forall_mem_nil _
  | cons c text ih =>
      rw [splitDigits]
      split
      · rename_i continues
        apply List.forall_mem_cons.mpr ⟨?_, ih⟩
        exact isInert_of (p := (continuesNumber · text)) continues rfl
      · exact List.forall_mem_nil _

theorem splitExponentDigits?_inert {text digits rest : List Char}
    (found : splitExponentDigits? text = some (digits, rest)) : ∀ c ∈ digits, IsInert c := by
  cases text with
  | nil => cases found
  | cons c text =>
      rw [splitExponentDigits?] at found
      split at found
      · rename_i digit
        cases found
        intro d member
        rcases List.mem_cons.mp member with rfl | later
        · exact isInert_digit (by simp [digit])
        · exact isInert_digit (List.mem_takeWhile_imp (p := fun c => c.isDigit || c == '_') later)
      · cases found

theorem splitExponent?_inert {text exponent rest : List Char}
    (found : splitExponent? text = some (exponent, rest)) : ∀ c ∈ exponent, IsInert c := by
  match text with
  | [] | [_] => cases found
  | letter :: sign :: text =>
      rw [splitExponent?] at found
      split at found
      · rename_i isLetter
        have inertLetter : IsInert letter :=
          isInert_of (p := fun c => c == 'e' || c == 'E') isLetter (by decide)
        split at found
        · rename_i isSign
          obtain ⟨⟨digits, after⟩, isDigits, same⟩ := Option.map_eq_some_iff.mp found
          cases same
          refine List.forall_mem_cons.mpr ⟨inertLetter, List.forall_mem_cons.mpr ⟨?_,
            splitExponentDigits?_inert isDigits⟩⟩
          exact isInert_of (p := fun c => c == '+' || c == '-') isSign (by decide)
        · obtain ⟨⟨digits, after⟩, isDigits, same⟩ := Option.map_eq_some_iff.mp found
          cases same
          exact List.forall_mem_cons.mpr ⟨inertLetter, splitExponentDigits?_inert isDigits⟩
      · cases found

theorem splitNumber_inert (text : List Char) : ∀ c ∈ (splitNumber text).1, IsInert c := by
  rw [splitNumber]
  split
  · rename_i found
    exact List.forall_mem_append.mpr ⟨splitDigits_inert text, splitExponent?_inert found⟩
  · exact splitDigits_inert text

end Numbers

/-- What stands between the marks of a literal. -/
theorem isQuoted_of_splitLiteral? {mark : Char} {text inner after : List Char}
    (found : splitLiteral? mark text = some (inner, after)) : IsQuoted mark inner := by
  fun_induction splitLiteral? mark text generalizing inner after with
  | case1 => cases found
  | case2 =>
      cases found
      exact .nil
  | case3 => cases found
  | case4 d rest _ ih =>
      obtain ⟨⟨inner', after'⟩, found, same⟩ := Option.map_eq_some_iff.mp found
      cases same
      exact .escape (ih found)
  | case5 c rest noMark noEscape ih =>
      obtain ⟨⟨inner', after'⟩, found, same⟩ := Option.map_eq_some_iff.mp found
      cases same
      exact .cons noMark noEscape (ih found)

theorem mem_of_pairOperator? {c : Char} {rest : List Char} {sign : String}
    (found : pairOperator? c rest = some sign) : sign ∈ pairOperators := by
  cases rest with
  | nil => cases found
  | cons d rest =>
      rw [pairOperator?] at found
      split at found
      · rename_i isPair
        cases found
        exact List.contains_iff_mem.mp isPair
      · cases found

/-- A lexeme is a brace or a literal, or has no quotes and no braces. -/
theorem read_inert {c : Char} {rest after : List Char} {lexeme : Lexeme}
    (read : Lexeme.read c rest = .ok (lexeme, after)) :
    (∀ d ∈ lexeme.source, IsInert d) ∨
      (∃ mark inner, lexeme = .literal mark inner ∧ IsQuote mark ∧ IsQuoted mark inner) ∨
      lexeme = .operator "\x7b" ∨ lexeme = .operator "\x7d" := by
  cases read_eq_ok_iff.mp read with
  | word starts =>
      left
      rw [Lexeme.source, String.toList_ofList]
      refine List.forall_mem_cons.mpr ⟨isInert_of starts (by decide), ?_⟩
      exact fun d member => isInert_of (List.mem_takeWhile_imp member) (by decide)
  | number _ _ => exact Or.inl (splitNumber_inert (c :: rest))
  | literal _ _ isQuote found =>
      exact Or.inr (Or.inl ⟨_, _, rfl, isQuote, isQuoted_of_splitLiteral? found⟩)
  | @pair sign _ found =>
      have inert : pairOperators.all (·.toList.all (decide <| IsInert ·)) = true := by decide
      have here := List.all_eq_true.mp inert sign (mem_of_pairOperator? found)
      exact Or.inl fun d member => of_decide_eq_true (List.all_eq_true.mp here d member)
  | single _ _ isSingle =>
      have kinds : singleOperators.all
          (fun d => decide (IsInert d ∨ d = '{' ∨ d = '}')) = true := by decide
      have here := List.all_eq_true.mp kinds c isSingle
      rcases of_decide_eq_true here with inert | rfl | rfl
      · left
        rw [Lexeme.source, String.toList_singleton]
        exact List.forall_mem_singleton.mpr inert
      · exact Or.inr (Or.inr (Or.inl rfl))
      · exact Or.inr (Or.inr (Or.inr rfl))

/-! ## Braces that close -/

/-- A text in which so many braces are closed that were open before it. -/
inductive ClosesBraces : Nat → List Char → Prop
  | zero {text : List Char} (isText : IsOutputText text) : ClosesBraces 0 text
  | succ {depth : Nat} {inner rest : List Char} (isText : IsOutputText inner)
      (others : ClosesBraces depth rest) : ClosesBraces (depth + 1) (inner ++ '}' :: rest)

namespace ClosesBraces

variable {depth : Nat} {text : List Char}

theorem prepend {front : List Char} (closes : ClosesBraces depth text)
    (extends_ : ∀ rest, IsOutputText rest → IsOutputText (front ++ rest)) :
    ClosesBraces depth (front ++ text) := by
  cases closes with
  | zero isText => exact .zero (extends_ _ isText)
  | succ isText others =>
      rw [← List.append_assoc]
      exact .succ (extends_ _ isText) others

/-- A brace that opens claims the first one that closes. -/
theorem opening (closes : ClosesBraces (depth + 1) text) : ClosesBraces depth ('{' :: text) := by
  cases closes with
  | @succ _ inner rest isText others =>
      have claimed : ClosesBraces depth (('{' :: inner ++ ['}']) ++ rest) := by
        apply others.prepend
        intro more isMore
        rw [List.append_assoc]
        exact .braces isText isMore
      simpa using claimed

theorem closing (closes : ClosesBraces depth text) : ClosesBraces (depth + 1) ('}' :: text) :=
  .succ .nil closes

end ClosesBraces

theorem lexeme_of_opens? {token : Token} (opens : token.opens? = some .curly) :
    token.lexeme = .operator "\x7b" := by
  rw [Token.opens?] at opens
  have isSign := List.find?_some opens
  rwa [Token.isSign, beq_iff_eq] at isSign

theorem lexeme_of_closes? {token : Token} (closes : token.closes? = some .curly) :
    token.lexeme = .operator "\x7d" := by
  rw [Token.closes?] at closes
  have isSign := List.find?_some closes
  rwa [Token.isSign, beq_iff_eq] at isSign

/-- As many braces are open behind a token that is no brace as before it. -/
theorem count_curly_of_pairBrackets {pending : List Bracket} {token : Token} {rest : List Token}
    (noOpening : token.lexeme ≠ .operator "\x7b") (noClosing : token.lexeme ≠ .operator "\x7d")
    (pairs : pairBrackets pending (token :: rest) = .ok ()) :
    ∃ behind, pairBrackets behind rest = .ok () ∧ behind.count .curly = pending.count .curly := by
  rw [pairBrackets] at pairs
  split at pairs
  · rename_i _ _ bracket opens
    refine ⟨bracket :: pending, pairs, List.count_cons_of_ne ?_⟩
    rintro rfl
    exact noOpening (lexeme_of_opens? opens)
  · rename_i _ _ bracket _ closes
    split at pairs
    · rename_i isInnermost
      obtain ⟨outer, rfl⟩ := List.head?_eq_some_iff.mp isInnermost
      refine ⟨outer, pairs, (List.count_cons_of_ne ?_).symm⟩
      rintro rfl
      exact noClosing (lexeme_of_closes? closes)
    · cases pairs
  · exact ⟨pending, pairs, rfl⟩

theorem pairBrackets_opening {pending : List Bracket} {start : Nat} {rest : List Token} :
    pairBrackets pending (⟨.operator "\x7b", start⟩ :: rest) =
      pairBrackets (.curly :: pending) rest := by
  have opens : Token.opens? ⟨.operator "\x7b", start⟩ = some .curly := by
    simp [Token.opens?, Token.isSign, Bracket.opening]
  rw [pairBrackets, opens]

theorem pairBrackets_closing {pending : List Bracket} {start : Nat} {rest : List Token}
    (pairs : pairBrackets pending (⟨.operator "\x7d", start⟩ :: rest) = .ok ()) :
    ∃ outer, pending = .curly :: outer ∧ pairBrackets outer rest = .ok () := by
  have noOpening : Token.opens? ⟨.operator "\x7d", start⟩ = none := by
    simp [Token.opens?, Token.isSign, Bracket.opening]
  have closes : Token.closes? ⟨.operator "\x7d", start⟩ = some .curly := by
    simp [Token.closes?, Token.isSign, Bracket.closing]
  rw [pairBrackets, noOpening, closes] at pairs
  dsimp only at pairs
  split at pairs
  · rename_i isInnermost
    obtain ⟨outer, rfl⟩ := List.head?_eq_some_iff.mp isInnermost
    exact ⟨outer, rfl, pairs⟩
  · cases pairs

/-- The text of an expression closes the braces that are open before it. -/
theorem closesBraces_of_reads {start : Nat} {text : List Char} {tokens : List Token}
    {pending : List Bracket} (reads : Token.Reads start text tokens)
    (pairs : pairBrackets pending tokens = .ok ()) :
    ClosesBraces (pending.count .curly) text := by
  induction reads generalizing pending with
  | nil =>
      cases pending with
      | nil => exact .zero .nil
      | cons bracket pending => cases pairs
  | @separator start c rest tokens separates _ ih =>
      have inert : ∀ d ∈ [c], IsInert d :=
        List.forall_mem_singleton.mpr (isInert_of separates (by decide))
      exact (ih pairs).prepend fun more isMore => isMore.inert_append inert
  | @lexeme start c rest after lexeme tokens _ read _ ih =>
      rw [← read_source read]
      rcases read_inert read with inert | ⟨mark, inner, rfl, isQuote, quoted⟩ | rfl | rfl
      · have noOpening : lexeme ≠ .operator "\x7b" := by
          rintro rfl
          exact (inert '{' (by decide)).2.1 rfl
        have noClosing : lexeme ≠ .operator "\x7d" := by
          rintro rfl
          exact (inert '}' (by decide)).2.2 rfl
        obtain ⟨behind, pairsBehind, same⟩ :=
          count_curly_of_pairBrackets noOpening noClosing pairs
        rw [← same]
        exact (ih pairsBehind).prepend fun more isMore => isMore.inert_append inert
      · obtain ⟨behind, pairsBehind, same⟩ :=
          count_curly_of_pairBrackets (by simp) (by simp) pairs
        rw [← same]
        apply (ih pairsBehind).prepend
        intro more isMore
        have literal := IsOutputText.literal isQuote quoted isMore
        simpa [Lexeme.source] using literal
      · rw [pairBrackets_opening] at pairs
        have closes := ih pairs
        rw [List.count_cons_self] at closes
        exact closes.opening
      · obtain ⟨outer, rfl, pairsOuter⟩ := pairBrackets_closing pairs
        rw [List.count_cons_self]
        exact (ih pairsOuter).closing

theorem Expression.ofText_eq_ok_iff {text : List Char} {expression : Expression} :
    Expression.ofText text = .ok expression ↔ expression.source = text ∧
      Token.Reads 0 text expression.tokens ∧ pairBrackets [] expression.tokens = .ok () := by
  rw [Expression.ofText, bind_eq_ok_iff]
  constructor
  · rintro ⟨tokens, cut, done⟩
    obtain ⟨_, pairs, done⟩ := bind_eq_ok_iff.mp done
    cases done
    exact ⟨rfl, Token.all_eq_ok_iff.mp cut, pairs⟩
  · rintro ⟨rfl, reads, pairs⟩
    exact ⟨expression.tokens, Token.all_eq_ok_iff.mpr reads, bind_eq_ok_iff.mpr ⟨(), pairs, rfl⟩⟩

/-- What is read as an expression may stand in an output. -/
theorem Expression.isOutputText {text : List Char} {expression : Expression}
    (read : Expression.ofText text = .ok expression) : IsOutputText text := by
  obtain ⟨_, reads, pairs⟩ := Expression.ofText_eq_ok_iff.mp read
  have closes := closesBraces_of_reads reads pairs
  cases closes with
  | zero isText => exact isText

end Lineage.Template
