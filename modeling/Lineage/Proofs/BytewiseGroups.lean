import Lineage.Bytewise.Brackets
import Lineage.Proofs.BalancedParts
import Lineage.Proofs.BytewiseTokens

/-!
# Groups and parts by positions

A token that is placed between bytes is the same word, sign or bracket as before, so that a list of
placed tokens has its groups, its commas and its tokens outside brackets at the same positions.  The
parts between the commas are slices that lie inside the list (`cutAtCommas_eq`).
-/

namespace Lineage.Bytewise

open Lineage.Text Lineage.Template

/-! ## Placed tokens -/

section Tests

variable (source : List Char) (token : Token)

@[simp]
theorem isSign_place (sign : String) : (place source token).isSign sign = token.isSign sign := by
  rw [Bool.eq_iff_iff, PlacedToken.isSign, Token.isSign, Bool.and_eq_true, beq_iff_eq, beq_iff_eq,
    beq_iff_eq]
  rcases token with ⟨lexeme, start⟩
  cases lexeme with
  | operator other => simp [place, kindOf, Lexeme.source, String.toList_inj]
  | _ => simp [place, kindOf]

@[simp]
theorem isWord_place (name : String) : (place source token).isWord name = token.isWord name := by
  rw [Bool.eq_iff_iff, PlacedToken.isWord, Token.isWord, Bool.and_eq_true, beq_iff_eq, beq_iff_eq,
    beq_iff_eq]
  rcases token with ⟨lexeme, start⟩
  cases lexeme with
  | word other => simp [place, kindOf, Lexeme.source, String.toList_inj]
  | _ => simp [place, kindOf]

@[simp]
theorem word?_place : (place source token).word? = token.word? := by
  rcases token with ⟨lexeme, start⟩
  cases lexeme <;> simp [PlacedToken.word?, Token.word?, place, kindOf, Lexeme.source]

@[simp]
theorem opens?_place : (place source token).opens? = token.opens? := by
  simp [PlacedToken.opens?, Token.opens?]

@[simp]
theorem closes?_place : (place source token).closes? = token.closes? := by
  simp [PlacedToken.closes?, Token.closes?]

@[simp]
theorem depthAfter_place (depth : Nat) :
    (place source token).depthAfter depth = token.depthAfter depth := by
  simp [PlacedToken.depthAfter, Token.depthAfter]

end Tests

section Lists

variable (source : List Char)

theorem checkBalanced_eq (pending : List Bracket) (tokens : List Token) :
    checkBalanced pending (tokens.map (place source)) = pairBrackets pending tokens := by
  induction tokens generalizing pending with
  | nil => rfl
  | cons token rest ih =>
      rw [List.map_cons, checkBalanced, pairBrackets, opens?_place, closes?_place]
      cases token.opens? with
      | some bracket => exact ih _
      | none =>
          cases token.closes? with
          | some bracket => simp only [ih]
          | none => exact ih _

/-! ## Groups -/

theorem groupEnd?_eq (depth index : Nat) (tokens : List Token) :
    (groupEnd? depth index (tokens.map (place source))).getD (index + tokens.length) =
      index + groupSize depth tokens := by
  induction tokens generalizing depth index with
  | nil => rfl
  | cons token rest ih =>
      rw [List.map_cons, groupEnd?, groupSize, closes?_place, depthAfter_place]
      split
      · rfl
      · have later := ih (token.depthAfter depth) (index + 1)
        rw [List.length_cons]
        rw [Nat.add_right_comm, Nat.add_assoc] at later
        rw [later]
        omega

/-- A group ends behind as many tokens as it has. -/
theorem groupEnd_eq {tokens : List Token} {opening : Nat} (inside : opening ≤ tokens.length) :
    groupEnd (tokens.map (place source)) opening =
      opening + groupSize 0 (tokens.drop opening) := by
  have found := groupEnd?_eq source 0 opening (tokens.drop opening)
  rwa [List.length_drop, Nat.add_sub_cancel' inside, List.map_drop,
    ← List.length_map (place source)] at found

/-! ## Parts -/

/-- A part of a list of placed tokens between what is before it and what is behind it. -/
theorem part?_place (front held rest : List Token) :
    part? ((front ++ (held ++ rest)).map (place source)) front.length (front ++ held).length =
      some (held.map (place source)) := by
  rw [part?_of_le]
  · rw [← List.map_drop, List.drop_left, List.length_append, Nat.add_sub_cancel_left,
      ← List.map_take, List.take_left]
  · rw [List.length_append]
    omega
  · simp only [List.length_map, List.length_append]
    omega

/-- The parts of a list that is read from its middle on: the part that is being read began with
`held`. -/
theorem cutFrom_eq (separates : PlacedToken → Bool) {p : Token → Bool}
    (same : ∀ token, separates (place source token) = p token) (depth : Nat)
    (front held rest : List Token) :
    cutFrom ((front ++ (held ++ rest)).map (place source)) separates depth front.length
        (front ++ held).length (rest.map (place source)) =
      some (((splitTopLevel p depth rest).modifyHead (held ++ ·)).map
        (List.map (place source))) := by
  induction rest generalizing front held depth with
  | nil =>
      have part := part?_place source front held []
      rw [List.map_nil, cutFrom, List.length_map, ← List.append_assoc, List.append_nil]
      rw [← List.append_assoc, List.append_nil] at part
      rw [part]
      simp [splitTopLevel]
  | cons token rest ih =>
      rw [List.map_cons, cutFrom, depthAfter_place, same, splitTopLevel]
      split
      · rename_i cuts
        have outside : token.depthAfter depth = 0 := by
          simp only [Bool.and_eq_true, beq_iff_eq] at cuts
          exact cuts.1
        have others := ih 0 (front ++ (held ++ [token])) []
        rw [outside, part?_place]
        simp only [List.append_assoc, List.nil_append, List.append_nil, List.singleton_append,
          List.length_append, List.length_singleton, Nat.add_assoc] at others ⊢
        rw [Option.bind_eq_bind, Option.bind_some, others]
        cases splitTopLevel p 0 rest <;> simp
      · have later := ih (token.depthAfter depth) front (held ++ [token])
        simp only [List.append_assoc, List.singleton_append, List.length_append,
          List.length_singleton, Nat.add_assoc] at later ⊢
        rw [later]
        cases cut : splitTopLevel p (token.depthAfter depth) rest with
        | nil => exact absurd cut (splitTopLevel_ne_nil _ _ _)
        | cons part parts => simp

/-- The parts between commas are those of the list. -/
theorem cutAtCommas_eq (tokens : List Token) :
    cutAtCommas (tokens.map (place source)) =
      some ((commaParts tokens).map (List.map (place source))) := by
  have cut := cutFrom_eq source (·.isSign ",") (fun token => isSign_place source token ",") 0 [] []
    tokens
  rw [cutAtCommas, commaParts]
  refine cut.trans ?_
  cases splitTopLevel (fun token => token.isSign ",") 0 tokens <;> rfl

/-! ## Tokens outside brackets -/

theorem findFrom?_eq {p : PlacedToken → Bool} {q : Token → Bool}
    (same : ∀ token, p (place source token) = q token) (depth index : Nat) (tokens : List Token) :
    findFrom? p depth index (tokens.map (place source)) =
      (findTopLevel? q depth tokens).map (· + index) := by
  induction tokens generalizing depth index with
  | nil => rfl
  | cons token rest ih =>
      rw [List.map_cons, findFrom?, findTopLevel?, same, depthAfter_place, ih]
      split
      · simp
      · rw [Option.map_map]
        congr 1
        funext position
        simp only [Function.comp]
        omega

/-- The tokens of an expression by positions. -/
theorem tokensOf_eq : tokensOf source =
    settled ((Expression.ofText source).map fun expression =>
      expression.tokens.map (place source)) := by
  have cut := tokensFrom_eq [] source
  rw [List.nil_append, byteLength, List.length_nil] at cut
  rw [tokensOf, cut, Expression.ofText]
  cases Token.all 0 source with
  | error cause => rfl
  | ok tokens =>
      simp only [Except.map, settled_ok, pure_bind, checkBalanced_eq]
      change (settled (pairBrackets [] tokens) >>= fun _ => pure (tokens.map (place source))) =
        settled ((pairBrackets [] tokens >>= fun _ => pure ⟨source, tokens⟩ :
          Except Template.Cause Expression).map
            fun expression => expression.tokens.map (place source))
      cases pairBrackets [] tokens <;> rfl

end Lists

end Lineage.Bytewise
