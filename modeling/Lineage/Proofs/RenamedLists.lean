import Lineage.Proofs.Modifiers
import Lineage.Template.Effect
import Mathlib.Data.List.TakeDrop

/-!
# Lists in which an attribute has another name

The token list of a tag is cut at brackets, separators and keywords, names are read from its parts,
and modifiers are dropped at its end.  In a renaming of the list the same cuts are made at the same
places, and their parts are renamings of each other.  Where an attribute is called like a modifier it
is dropped with it, and then only its point is left (`LeftAlike`).
-/

namespace Lineage.Template

/-- What stands between the two brackets of a list. -/
theorem withinRound?_cons (first : Token) (rest : List Token) :
    withinRound? (first :: rest) =
      if first.isSign "(" && rest.getLast?.any (·.isSign ")") then some rest.dropLast else none := by
  rw [withinRound?]
  cases rest.getLast? with
  | none => rw [Option.any_none, Bool.and_false]; rfl
  | some last => rfl

theorem withinRound?_eq_some_iff {tokens inner : List Token} :
    withinRound? tokens = some inner ↔ ∃ first last, tokens = first :: (inner ++ [last]) ∧
      first.isSign "(" = true ∧ last.isSign ")" = true := by
  cases tokens with
  | nil => simp [withinRound?]
  | cons first rest =>
      rw [withinRound?_cons]
      rcases List.eq_nil_or_concat' rest with rfl | ⟨others, last, rfl⟩
      · simp
      · simp only [List.getLast?_concat, Option.any_some, List.dropLast_concat,
          Option.ite_none_right_eq_some, Bool.and_eq_true, Option.some.injEq]
        constructor
        · rintro ⟨⟨opens, closes⟩, rfl⟩
          exact ⟨first, last, rfl, opens, closes⟩
        · rintro ⟨_, _, whole, opens, closes⟩
          obtain ⟨rfl, same⟩ := List.cons.inj whole
          obtain ⟨rfl, isLast⟩ := List.append_inj' same rfl
          cases isLast
          exact ⟨⟨opens, closes⟩, rfl⟩

/-- What is read of one part after another, if each pair of parts gives the same. -/
theorem mapM_eq_of_forall₂ {α β γ : Type} {related : α → β → Prop}
    {f : α → Option γ} {f' : β → Option γ} {first : List α} {second : List β}
    (pairs : List.Forall₂ related first second)
    (same : ∀ {value value'}, related value value' → f value = f' value') :
    first.mapM f = second.mapM f' := by
  induction pairs with
  | nil => rfl
  | cons head _ ih => rw [List.mapM_cons, List.mapM_cons, same head, ih]

namespace Renames

variable {apart : Prop} {old new : String} {dotted : Bool} {tokens renamed : List Token}

/-! ## Cuts at separators -/

theorem isEmpty_eq (renames : Renames apart old new dotted tokens renamed) :
    tokens.isEmpty = renamed.isEmpty := by
  cases renames <;> rfl

theorem findTopLevel?_eq (renames : Renames apart old new dotted tokens renamed) {p : Token → Bool}
    (kept : ∀ {token token' : Token}, Token.Alike old new token token' → p token = p token')
    (depth : Nat) : findTopLevel? p depth tokens = findTopLevel? p depth renamed := by
  have alike := renames.alike
  clear renames
  induction alike generalizing depth with
  | nil => rfl
  | cons first _ ih => rw [findTopLevel?, findTopLevel?, kept first, first.depthAfter_eq, ih]

/-- Behind a token that is no point, the rest is a renaming by itself. -/
theorem drop_findTopLevel? {p : Token → Bool} {depth position : Nat}
    (renames : Renames apart old new dotted tokens renamed)
    (noPoint : ∀ token : Token, p token = true → token.isSign "." = false)
    (found : findTopLevel? p depth tokens = some position) :
    Renames apart old new false (tokens.drop (position + 1)) (renamed.drop (position + 1)) := by
  induction tokens generalizing dotted renamed depth position with
  | nil => cases found
  | cons first rest ih =>
      rcases renames.exists_cons with ⟨first', rest', rfl⟩
      have others := renames.behind
      rw [findTopLevel?] at found
      split at found
      · rename_i here
        cases found
        rw [noPoint first (Bool.and_eq_true_iff.mp here).2] at others
        exact others
      · obtain ⟨further, isFurther, rfl⟩ := Option.map_eq_some_iff.mp found
        exact ih others isFurther

/-- In front of the first point nothing is renamed, so that a word there stays the first. -/
theorem findTopLevel?_of_noPoint {p : Token → Bool} {depth position : Nat}
    (renames : Renames apart old new false tokens renamed)
    (kept : ∀ {token token' : Token}, token.lexeme = token'.lexeme → p token = p token')
    (found : findTopLevel? p depth tokens = some position)
    (noPoint : ∀ token ∈ tokens.take position, token.isSign "." = false) :
    findTopLevel? p depth renamed = some position := by
  induction tokens generalizing renamed depth position with
  | nil => cases found
  | cons first rest ih =>
      rcases renames.exists_cons with ⟨first', rest', rfl⟩
      have others := renames.behind
      rw [findTopLevel?] at found ⊢
      rw [← kept renames.first_lexeme, ← renames.first_alike.depthAfter_eq]
      split at found
      · rename_i here
        rw [if_pos here]
        exact found
      · rename_i further
        rw [if_neg further]
        obtain ⟨position, isFurther, rfl⟩ := Option.map_eq_some_iff.mp found
        rw [List.take_succ_cons] at noPoint
        rw [noPoint first List.mem_cons_self] at others
        rw [ih others isFurther fun token member =>
          noPoint token (List.mem_cons_of_mem first member)]
        rfl

theorem all_of_noPoint {p : Token → Bool} (renames : Renames apart old new false tokens renamed)
    (kept : ∀ {token token' : Token}, token.lexeme = token'.lexeme → p token = p token')
    (noPoint : ∀ token : Token, p token = true → token.isSign "." = false)
    (each : tokens.all p = true) : renamed.all p = true := by
  induction tokens generalizing renamed with
  | nil => rw [renames.eq_nil, List.all_nil]
  | cons first rest ih =>
      rcases renames.exists_cons with ⟨first', rest', rfl⟩
      have others := renames.behind
      rw [List.all_cons, Bool.and_eq_true] at each
      rw [noPoint first each.1] at others
      rw [List.all_cons, ← kept renames.first_lexeme, each.1, ih others each.2, Bool.and_true]

theorem takeWhile (renames : Renames apart old new dotted tokens renamed) {p : Token → Bool}
    (kept : ∀ {token token' : Token}, Token.Alike old new token token' → p token = p token') :
    Renames apart old new dotted (tokens.takeWhile p) (renamed.takeWhile p) := by
  induction tokens generalizing dotted renamed with
  | nil =>
      rw [renames.eq_nil]
      exact .nil _
  | cons first rest ih =>
      rcases renames.exists_cons with ⟨first', rest', rfl⟩
      rw [List.takeWhile_cons, List.takeWhile_cons, ← kept renames.first_alike]
      split
      · exact renames.prepend (List.takeWhile_prefix p) (ih renames.behind)
      · exact .nil _

/-- From a token that is no word, the rest is a renaming by itself. -/
theorem dropWhile (renames : Renames apart old new dotted tokens renamed) {p : Token → Bool}
    (kept : ∀ {token token' : Token}, Token.Alike old new token token' → p token = p token')
    (noWord : ∀ token : Token, p token = false → token.word? = none) :
    Renames apart old new false (tokens.dropWhile p) (renamed.dropWhile p) := by
  induction tokens generalizing dotted renamed with
  | nil =>
      rw [renames.eq_nil]
      exact .nil _
  | cons first rest ih =>
      rcases renames.exists_cons with ⟨first', rest', rfl⟩
      rw [List.dropWhile_cons, List.dropWhile_cons, ← kept renames.first_alike]
      split
      · exact ih renames.behind
      · rename_i ends
        rw [Bool.not_eq_true] at ends
        cases renames with
        | same lexeme _ others =>
            refine .same lexeme ?_ others
            rw [noWord first ends]
            exact fun _ _ => nofun
        | changed isOld _ _ _ _ => cases (noWord first ends).symm.trans isOld

/-- The parts between separators are renamings of each other. -/
theorem splitTopLevel {separates : Token → Bool}
    (renames : Renames apart old new dotted tokens renamed)
    (kept : ∀ {token token' : Token}, Token.Alike old new token token' →
      separates token = separates token')
    (noPoint : ∀ token : Token, separates token = true → token.isSign "." = false) (depth : Nat) :
    ∃ part part' parts parts', splitTopLevel separates depth tokens = part :: parts ∧
      Template.splitTopLevel separates depth renamed = part' :: parts' ∧ part <+: tokens ∧
      Renames apart old new dotted part part' ∧
      List.Forall₂ (Renames apart old new false) parts parts' := by
  induction tokens generalizing dotted renamed depth with
  | nil =>
      rw [renames.eq_nil]
      exact ⟨[], [], [], [], rfl, rfl, List.prefix_refl _, .nil _, .nil⟩
  | cons first rest ih =>
      rcases renames.exists_cons with ⟨first', rest', rfl⟩
      have others := renames.behind
      have alike := renames.first_alike
      rw [Template.splitTopLevel, Template.splitTopLevel, ← alike.depthAfter_eq, ← kept alike]
      split
      · rename_i here
        rw [noPoint first (Bool.and_eq_true_iff.mp here).2] at others
        rcases ih others 0 with ⟨part, part', parts, parts', isSplit, isSplit', _, first, more⟩
        refine ⟨[], [], _, _, rfl, rfl, List.nil_prefix, .nil _, ?_⟩
        rw [isSplit, isSplit']
        exact .cons first more
      · rcases ih others (first.depthAfter depth) with
          ⟨part, part', parts, parts', isSplit, isSplit', isPrefix, isPart, more⟩
        rw [isSplit, isSplit']
        exact ⟨_, _, _, _, rfl, rfl, List.prefix_cons_inj first |>.mpr isPrefix,
          renames.prepend isPrefix isPart, more⟩

theorem commaParts (renames : Renames apart old new false tokens renamed) :
    List.Forall₂ (Renames apart old new false) (commaParts tokens)
      (Template.commaParts renamed) := by
  have noPoint (token : Token) (isComma : token.isSign "," = true) : token.isSign "." = false :=
    Token.isSign_eq_false isComma (by decide)
  rcases renames.splitTopLevel (fun alike => alike.isSign_eq ",") noPoint 0 with
    ⟨part, part', parts, parts', isSplit, isSplit', _, first, more⟩
  rw [Template.commaParts, Template.commaParts, isSplit, isSplit']
  exact .cons first more

theorem getLast?_any_eq (renames : Renames apart old new dotted tokens renamed) {p : Token → Bool}
    (kept : ∀ {token token' : Token}, Token.Alike old new token token' → p token = p token') :
    tokens.getLast?.any p = renamed.getLast?.any p := by
  have alike := List.forall₂_reverse_iff.mpr renames.alike
  rw [← List.head?_reverse, ← List.head?_reverse]
  generalize tokens.reverse = before at alike
  generalize renamed.reverse = before' at alike
  cases alike with
  | nil => rfl
  | cons first _ => exact kept first

theorem any_eq (renames : Renames apart old new dotted tokens renamed) {p : Token → Bool}
    (kept : ∀ {token token' : Token}, Token.Alike old new token token' → p token = p token') :
    tokens.any p = renamed.any p := by
  have alike := renames.alike
  clear renames
  induction alike with
  | nil => rfl
  | cons first _ ih => rw [List.any_cons, List.any_cons, kept first, ih]

/-! ## Lists of names -/

theorem withinRound? (renames : Renames apart old new false tokens renamed) :
    Option.Rel (Renames apart old new false) (withinRound? tokens)
      (Template.withinRound? renamed) := by
  cases tokens with
  | nil =>
      rw [renames.eq_nil]
      exact .none
  | cons first rest =>
      rcases renames.exists_cons with ⟨first', rest', rfl⟩
      have others := renames.behind
      rw [withinRound?_cons, withinRound?_cons, ← renames.first_alike.isSign_eq,
        ← others.getLast?_any_eq fun alike => alike.isSign_eq ")"]
      split
      · rename_i isRound
        rw [Token.isSign_eq_false (Bool.and_eq_true_iff.mp isRound).1 (by decide)] at others
        exact .some others.dropLast
      · exact .none

theorem onlyWord?_eq (renames : Renames apart old new false tokens renamed) :
    onlyWord? tokens = onlyWord? renamed := by
  match tokens with
  | [] => rw [renames.eq_nil]
  | [token] =>
      rcases renames.exists_cons with ⟨token', rest', rfl⟩
      cases renames.behind.eq_nil
      exact Token.word?_eq_of_lexeme renames.first_lexeme
  | first :: second :: rest =>
      rcases renames.exists_cons with ⟨first', _, rfl⟩
      rcases renames.behind.exists_cons with ⟨second', rest', rfl⟩
      rfl

theorem targetNames?_eq (renames : Renames apart old new false tokens renamed) :
    targetNames? tokens = targetNames? renamed := by
  rw [targetNames?, targetNames?]
  have within := renames.withinRound?
  revert within
  generalize Template.withinRound? tokens = inner
  generalize Template.withinRound? renamed = inner'
  intro within
  cases within with
  | none => exact mapM_eq_of_forall₂ renames.commaParts onlyWord?_eq
  | some inside => exact mapM_eq_of_forall₂ inside.commaParts onlyWord?_eq

theorem importedName?_eq (renames : Renames apart old new false tokens renamed) :
    importedName? tokens = importedName? renamed := by
  match tokens with
  | [] => rw [renames.eq_nil]
  | [name] =>
      rcases renames.exists_cons with ⟨name', rest', rfl⟩
      cases renames.behind.eq_nil
      exact Token.word?_eq_of_lexeme renames.first_lexeme
  | [name, word] =>
      rcases renames.exists_cons with ⟨name', _, rfl⟩
      rcases renames.behind.exists_cons with ⟨word', rest', rfl⟩
      cases renames.behind.behind.eq_nil
      rfl
  | [name, word, alias_] =>
      rcases renames.exists_cons with ⟨name', _, rfl⟩
      rcases renames.behind.exists_cons with ⟨word', _, rfl⟩
      rcases renames.behind.behind.exists_cons with ⟨alias', rest', rfl⟩
      cases renames.behind.behind.behind.eq_nil
      have others := renames.behind
      rw [importedName?, importedName?, ← renames.first_alike.isSome_word?_eq]
      cases isWord : name.word? with
      | none => rfl
      | some _ =>
          rw [Token.isSign_of_word? isWord] at others
          rw [Token.isWord, Token.isWord, ← others.first_lexeme]
          by_cases isAs : word.lexeme = .word "as"
          · have behind := others.behind
            rw [Token.isSign_of_word? (Token.word?_eq_some_iff.mpr isAs)] at behind
            rw [Token.word?_eq_of_lexeme behind.first_lexeme]
          · rw [beq_eq_false_iff_ne.mpr isAs, Bool.and_false]
            rfl
  | first :: second :: third :: fourth :: rest =>
      rcases renames.exists_cons with ⟨first', _, rfl⟩
      rcases renames.behind.exists_cons with ⟨second', _, rfl⟩
      rcases renames.behind.behind.exists_cons with ⟨third', _, rfl⟩
      rcases renames.behind.behind.behind.exists_cons with ⟨fourth', rest', rfl⟩
      rfl

end Renames

/-! ## Lists without points -/

theorem exists_of_findTopLevel? {p : Token → Bool} {depth position : Nat} {tokens : List Token}
    (found : findTopLevel? p depth tokens = some position) :
    ∃ token, tokens[position]? = some token ∧ p token = true := by
  induction tokens generalizing depth position with
  | nil => cases found
  | cons first rest ih =>
      rw [findTopLevel?] at found
      split at found
      · rename_i here
        cases found
        exact ⟨first, rfl, (Bool.and_eq_true_iff.mp here).2⟩
      · obtain ⟨further, isFurther, rfl⟩ := Option.map_eq_some_iff.mp found
        exact ih isFurther

theorem mem_splitTopLevel (separates : Token → Bool) {token : Token} {tokens : List Token}
    (member : token ∈ tokens) (depth : Nat) :
    separates token = true ∨ ∃ part ∈ splitTopLevel separates depth tokens, token ∈ part := by
  induction tokens generalizing depth with
  | nil => cases member
  | cons first rest ih =>
      rw [splitTopLevel]
      split
      · rename_i ends
        rcases List.mem_cons.mp member with rfl | later
        · exact Or.inl (Bool.and_eq_true_iff.mp ends).2
        · rcases ih later 0 with separator | ⟨part, isPart, inPart⟩
          · exact Or.inl separator
          · exact Or.inr ⟨part, List.mem_cons_of_mem _ isPart, inPart⟩
      · split
        · rename_i none
          rcases List.mem_cons.mp member with rfl | later
          · exact Or.inr ⟨_, List.mem_singleton_self _, List.mem_singleton_self _⟩
          · rcases ih later (first.depthAfter depth) with separator | ⟨part, isPart, _⟩
            · exact Or.inl separator
            · rw [none] at isPart
              cases isPart
        · rename_i head others isSplit
          rcases List.mem_cons.mp member with rfl | later
          · exact Or.inr ⟨_, List.mem_cons_self, List.mem_cons_self⟩
          · rcases ih later (first.depthAfter depth) with separator | ⟨part, isPart, inPart⟩
            · exact Or.inl separator
            · rw [isSplit] at isPart
              rcases List.mem_cons.mp isPart with rfl | further
              · exact Or.inr ⟨_, List.mem_cons_self, List.mem_cons_of_mem _ inPart⟩
              · exact Or.inr ⟨part, List.mem_cons_of_mem _ further, inPart⟩

/-- What the commas have and the tokens of each item, every token of the list has. -/
theorem forall_mem_of_commaParts {α : Type} {item? : List Token → Option α} {tokens : List Token}
    {items : List α} {property : Token → Prop} (found : (commaParts tokens).mapM item? = some items)
    (commas : ∀ token, token.isSign "," = true → property token)
    (itemTokens : ∀ part item, item? part = some item → ∀ token ∈ part, property token) :
    ∀ token ∈ tokens, property token := by
  intro token member
  have cut : token.isSign "," = true ∨ ∃ part ∈ commaParts tokens, token ∈ part :=
    mem_splitTopLevel (·.isSign ",") member 0
  rcases cut with isComma | ⟨part, isPart, inPart⟩
  · exact commas token isComma
  · have each : ∀ parts : List (List Token), ∀ items, parts.mapM item? = some items →
        ∀ part ∈ parts, ∃ item, item? part = some item := by
      intro parts
      induction parts with
      | nil => exact fun _ _ => List.forall_mem_nil _
      | cons first rest ih =>
          intro items found
          simp only [List.mapM_cons, Option.bind_eq_bind, Option.bind_eq_some_iff] at found
          rcases found with ⟨item, isItem, others, areOthers, _⟩
          exact List.forall_mem_cons.mpr ⟨⟨item, isItem⟩, ih others areOthers⟩
    rcases each _ items found part isPart with ⟨item, isItem⟩
    exact itemTokens part item isItem token inPart

/-- A list between whose commas stand names has no point. -/
theorem noPoint_of_commaParts {α : Type} {item? : List Token → Option α} {tokens : List Token}
    {items : List α} (found : (commaParts tokens).mapM item? = some items)
    (named : ∀ part item, item? part = some item → ∀ token ∈ part, token.isSign "." = false) :
    ∀ token ∈ tokens, token.isSign "." = false :=
  forall_mem_of_commaParts found (fun _ isComma => Token.isSign_eq_false isComma (by decide)) named

theorem noPoint_of_onlyWord? {part : List Token} {name : String}
    (found : onlyWord? part = some name) : ∀ token ∈ part, token.isSign "." = false := by
  match part with
  | [] => cases found
  | [token] => exact List.forall_mem_singleton.mpr (Token.isSign_of_word? found ".")
  | _ :: _ :: _ => cases found

theorem noPoint_of_targetNames? {tokens : List Token} {names : List String}
    (found : targetNames? tokens = some names) : ∀ token ∈ tokens, token.isSign "." = false := by
  rw [targetNames?] at found
  have inside := noPoint_of_commaParts found fun part name => noPoint_of_onlyWord?
  cases round : withinRound? tokens with
  | none =>
      rwa [round, Option.getD_none] at inside
  | some inner =>
      rw [round, Option.getD_some] at inside
      rcases withinRound?_eq_some_iff.mp round with ⟨first, last, rfl, opens, closes⟩
      rw [List.forall_mem_cons, List.forall_mem_append, List.forall_mem_singleton]
      exact ⟨Token.isSign_eq_false opens (by decide), inside,
        Token.isSign_eq_false closes (by decide)⟩

theorem noPoint_of_importedName? {part : List Token} {name : String}
    (found : importedName? part = some name) : ∀ token ∈ part, token.isSign "." = false := by
  match part with
  | [] => cases found
  | [token] => exact List.forall_mem_singleton.mpr (Token.isSign_of_word? found ".")
  | [_, _] => cases found
  | [first, word, last] =>
      rw [importedName?] at found
      split at found
      · rename_i isAlias
        rw [Bool.and_eq_true] at isAlias
        obtain ⟨_, isWord⟩ := Option.isSome_iff_exists.mp isAlias.1
        have isAs := isAlias.2
        rw [Token.isWord, beq_iff_eq, ← Token.word?_eq_some_iff] at isAs
        rw [List.forall_mem_cons, List.forall_mem_cons, List.forall_mem_singleton]
        exact ⟨Token.isSign_of_word? isWord ".", Token.isSign_of_word? isAs ".",
          Token.isSign_of_word? found "."⟩
      · cases found
  | _ :: _ :: _ :: _ :: _ => cases found

/-! ## Modifiers -/

section Modifiers

variable {apart : Prop} {old new : String}

/-- Whether a point stands directly in front of what follows the tokens. -/
def dottedBehind (dotted : Bool) (tokens : List Token) : Bool :=
  tokens.foldl (fun _ token => token.isSign ".") dotted

theorem exists_point_of_dottedBehind {tokens : List Token} (isDotted : dottedBehind false tokens = true) :
    ∃ front point, tokens = front ++ [point] ∧ point.isSign "." = true := by
  rcases List.eq_nil_or_concat' tokens with rfl | ⟨front, point, rfl⟩
  · cases isDotted
  · rw [dottedBehind, List.foldl_concat] at isDotted
    exact ⟨front, point, rfl, isDotted⟩

theorem Renames.exists_append {dotted : Bool} {first second renamed : List Token}
    (renames : Renames apart old new dotted (first ++ second) renamed) :
    ∃ first' second', renamed = first' ++ second' ∧ Renames apart old new dotted first first' ∧
      Renames apart old new (dottedBehind dotted first) second second' := by
  refine ⟨renamed.take first.length, renamed.drop first.length, ?_, ?_, ?_⟩
  · exact (List.take_append_drop _ _).symm
  · have front := renames.take first.length
    rwa [List.take_left] at front
  · induction first generalizing dotted renamed with
    | nil => exact renames
    | cons token first ih =>
        rcases renames.exists_cons with ⟨token', renamed', rfl⟩
        exact ih renames.behind

/-- An attribute at the end of a list stands behind a point, in both lists. -/
theorem Renames.exists_point {front renamed : List Token}
    (renames : Renames apart old new false front renamed) (isDotted : dottedBehind false front = true) :
    ∃ first first' point point', front = first ++ [point] ∧ renamed = first' ++ [point'] ∧
      point.isSign "." = true ∧ point'.isSign "." = true := by
  rcases exists_point_of_dottedBehind isDotted with ⟨first, point, rfl, isPoint⟩
  rcases renames.exists_append with ⟨first', last', rfl, _, behind⟩
  rcases behind.exists_cons with ⟨point', rest', rfl⟩
  cases behind.behind.eq_nil
  refine ⟨first, first', point, point', rfl, rfl, isPoint, ?_⟩
  rwa [← behind.first_alike.isSign_eq]

/-- What a loop reads: the list without `recursive` at its end. -/
def loopRange (rest : List Token) : List Token :=
  if rest.getLast?.any (·.isWord "recursive") then rest.dropLast else rest

theorem loopRange_concat (front : List Token) (last : Token) :
    loopRange (front ++ [last]) =
      if last.isWord "recursive" then front else front ++ [last] := by
  rw [loopRange, List.getLast?_concat, Option.any_some, List.dropLast_concat]

theorem Renames.loopRange {rest renamed : List Token}
    (renames : Renames apart old new false rest renamed) :
    ∃ whole whole', IsLeft whole (loopRange rest) ∧ IsLeft whole' (Template.loopRange renamed) ∧
      Renames apart old new false whole whole' := by
  rcases List.eq_nil_or_concat' rest with rfl | ⟨front, last, rfl⟩
  · rw [renames.eq_nil]
    exact ⟨[], [], Or.inl rfl, Or.inl rfl, .nil _⟩
  · rcases renames.exists_append with ⟨front', _, rfl, fronts, behind⟩
    rcases behind.exists_cons with ⟨last', rest', rfl⟩
    cases behind.behind.eq_nil
    rw [loopRange_concat, loopRange_concat]
    generalize isDotted : dottedBehind false front = dotted at behind
    cases behind with
    | same lexeme _ _ =>
        rw [Token.isWord, Token.isWord, ← lexeme]
        split
        · exact ⟨front, front', Or.inl rfl, Or.inl rfl, fronts⟩
        · exact ⟨_, _, Or.inl rfl, Or.inl rfl, renames⟩
    | changed isOld isNew _ _ _ =>
        -- The attribute is dropped where it is called like the modifier, and its point is left.
        rcases fronts.exists_point isDotted with
          ⟨first, first', point, point', rfl, rfl, isPoint, isPoint'⟩
        have left {first : List Token} {point last : Token} {name : String}
            (isPoint : point.isSign "." = true) (isName : last.word? = some name) :
            IsLeft (first ++ [point] ++ [last])
              (if last.isWord "recursive" then first ++ [point] else first ++ [point] ++ [last]) := by
          split
          · rename_i isModifier
            rw [Token.isWord_of_word? isName, beq_iff_eq] at isModifier
            rw [List.append_assoc]
            apply IsLeft.cut first isPoint
            intro token member
            cases List.mem_singleton.mp member
            exact ⟨"recursive", by decide, isName.trans (congrArg some isModifier)⟩
          · exact Or.inl rfl
        exact ⟨_, _, left isPoint isOld, left isPoint' isNew, renames⟩

/-- Whether two words at the end of a list are modifiers of an inclusion or an import. -/
def areModifiers (first second : Token) : Bool :=
  ((first.isWord "with" || first.isWord "without") && second.isWord "context") ||
    (first.isWord "ignore" && second.isWord "missing")

theorem withoutModifiers_pair (front : List Token) (first second : Token) :
    withoutModifiers (front ++ [first, second]) =
      if areModifiers first second then withoutModifiers front else front ++ [first, second] := by
  have reversed : (front ++ [first, second]).reverse = second :: first :: front.reverse := by
    simp
  rw [withoutModifiers, reversed, dropModifiers, ← areModifiers]
  split
  · rfl
  · rw [← reversed, List.reverse_reverse]

theorem withoutModifiers_short {tokens : List Token} (short : tokens.length ≤ 1) :
    withoutModifiers tokens = tokens := by
  match tokens with
  | [] => rfl
  | [_] => rfl
  | _ :: _ :: _ => simp at short

theorem areModifiers_words {first second : Token} (are : areModifiers first second = true) :
    ∀ token ∈ [first, second], ∃ word ∈ modifierWords, token.word? = some word := by
  have word {token : Token} {name : String} (isName : token.isWord name = true) :
      token.word? = some name := by
    rwa [Token.isWord, beq_iff_eq, ← Token.word?_eq_some_iff] at isName
  rw [areModifiers, Bool.or_eq_true, Bool.and_eq_true, Bool.and_eq_true, Bool.or_eq_true] at are
  rw [List.forall_mem_cons, List.forall_mem_singleton]
  rcases are with ⟨isWith | isWithout, isContext⟩ | ⟨isIgnore, isMissing⟩
  · exact ⟨⟨_, by decide, word isWith⟩, _, by decide, word isContext⟩
  · exact ⟨⟨_, by decide, word isWithout⟩, _, by decide, word isContext⟩
  · exact ⟨⟨_, by decide, word isIgnore⟩, _, by decide, word isMissing⟩

/-- Words behind a point are no modifiers if the second of them is an attribute. -/
theorem areModifiers_of_point {first : Token} (isPoint : first.isSign "." = true) (second : Token) :
    areModifiers first second = false := by
  simp [areModifiers, Token.isWord_of_isSign isPoint]

/-- A list that ends in a point has no modifiers. -/
theorem withoutModifiers_of_point (front : List Token) {point : Token}
    (isPoint : point.isSign "." = true) :
    withoutModifiers (front ++ [point]) = front ++ [point] := by
  rcases List.eq_nil_or_concat' front with rfl | ⟨front, first, rfl⟩
  · rfl
  · rw [List.append_assoc, List.singleton_append, withoutModifiers_pair, if_neg]
    simp [areModifiers, Token.isWord_of_isSign isPoint]

/-- What is left of a list that ends in an attribute and the second word of a modifier: the whole
list, or what ends in the point of the attribute. -/
structure EndsInAttribute (name : String) (front : List Token) (point first second : Token)
    (left : List Token) : Prop where
  isPoint : point.isSign "." = true
  isName : first.word? = some name
  isModifier : ∃ word ∈ modifierWords, second.word? = some word
  left : left = front ++ [point, first, second] ∨
    (name ∈ modifierWords ∧ left = front ++ [point])

theorem EndsInAttribute.isLeft {name : String} {front left : List Token}
    {point first second : Token} (ends : EndsInAttribute name front point first second left) :
    IsLeft (front ++ [point, first, second]) left := by
  rcases ends.left with rfl | ⟨isModifier, rfl⟩
  · exact Or.inl rfl
  · apply IsLeft.cut front ends.isPoint
    rw [List.forall_mem_cons, List.forall_mem_singleton]
    exact ⟨⟨name, isModifier, ends.isName⟩, ends.isModifier⟩

theorem endsInAttribute_withoutModifiers {name : String} (front : List Token)
    {point first second : Token} (isPoint : point.isSign "." = true)
    (isName : first.word? = some name)
    (isModifier : ∃ word ∈ modifierWords, second.word? = some word) :
    EndsInAttribute name front point first second
      (withoutModifiers (front ++ [point] ++ [first, second])) where
  isPoint := isPoint
  isName := isName
  isModifier := isModifier
  left := by
    rw [withoutModifiers_pair]
    split
    · rename_i are
      rcases areModifiers_words are first List.mem_cons_self with ⟨word, isWord, sameName⟩
      cases isName.symm.trans sameName
      exact Or.inr ⟨isWord, withoutModifiers_of_point front isPoint⟩
    · left
      rw [List.append_assoc]
      rfl

/-- What is left of two lists without their modifiers. -/
inductive LeftAlike (apart : Prop) (old new : String) : List Token → List Token → Prop
  | renames {left left' : List Token} (renames : Renames apart old new false left left') :
      LeftAlike apart old new left left'
  | endsInAttribute {front front' left left' : List Token}
      {point point' first first' second second' : Token}
      (renames : Renames apart old new false (front ++ [point, first, second])
        (front' ++ [point', first', second']))
      (ends : EndsInAttribute old front point first second left)
      (ends' : EndsInAttribute new front' point' first' second' left') :
      LeftAlike apart old new left left'

theorem LeftAlike.exists_whole {left left' : List Token}
    (alike : LeftAlike apart old new left left') :
    ∃ whole whole', IsLeft whole left ∧ IsLeft whole' left' ∧
      Renames apart old new false whole whole' := by
  cases alike with
  | renames renames => exact ⟨left, left', Or.inl rfl, Or.inl rfl, renames⟩
  | endsInAttribute renames ends ends' => exact ⟨_, _, ends.isLeft, ends'.isLeft, renames⟩

theorem exists_concat_pair {tokens : List Token} (long : 1 < tokens.length) :
    ∃ front first second, tokens = front ++ [first, second] := by
  rcases List.eq_nil_or_concat' tokens with rfl | ⟨initial, second, rfl⟩
  · exact absurd long (Nat.not_lt_zero 1)
  · rcases List.eq_nil_or_concat' initial with rfl | ⟨front, first, rfl⟩
    · exact absurd long (Nat.lt_irrefl 1)
    · exact ⟨front, first, second, List.append_assoc front [first] [second]⟩

/-- Modifiers are dropped alike, except where the first word of one is the attribute. -/
theorem Renames.withoutModifiers {tokens renamed : List Token}
    (renames : Renames apart old new false tokens renamed) :
    LeftAlike apart old new (withoutModifiers tokens) (Template.withoutModifiers renamed) := by
  induction isLength : tokens.length using Nat.strongRecOn generalizing tokens renamed with
  | ind length ih =>
    by_cases short : tokens.length ≤ 1
    · have short' := short
      rw [renames.alike.length_eq] at short'
      rw [withoutModifiers_short short, withoutModifiers_short short']
      exact .renames renames
    · rcases exists_concat_pair (Nat.lt_of_not_le short) with ⟨front, first, second, rfl⟩
      rcases renames.exists_append with ⟨front', _, rfl, fronts, behind⟩
      rcases behind.exists_cons with ⟨first', _, rfl⟩
      rcases behind.behind.exists_cons with ⟨second', rest', rfl⟩
      cases behind.behind.behind.eq_nil
      generalize isDotted : dottedBehind false front = dotted at behind
      cases behind with
      | same lexeme _ last =>
          generalize isPoint : first.isSign "." = dotted at last
          cases last with
          | same lexemeLast _ _ =>
              have sameWord (word : String) : first'.isWord word = first.isWord word ∧
                  second'.isWord word = second.isWord word := by
                rw [Token.isWord, Token.isWord, Token.isWord, Token.isWord, lexeme, lexemeLast]
                exact ⟨rfl, rfl⟩
              have are : areModifiers first' second' = areModifiers first second := by
                simp only [areModifiers, sameWord]
              rw [withoutModifiers_pair, withoutModifiers_pair, are]
              split
              · apply ih front.length _ fronts rfl
                rw [← isLength, List.length_append]
                exact Nat.lt_add_of_pos_right (Nat.succ_pos 1)
              · exact .renames renames
          | changed _ _ _ _ _ =>
              have isPoint' := isPoint
              rw [Token.isSign, lexeme] at isPoint'
              rw [withoutModifiers_pair, withoutModifiers_pair, areModifiers_of_point isPoint,
                areModifiers_of_point isPoint']
              exact .renames renames
      | changed isOld isNew _ _ last =>
          rcases fronts.exists_point isDotted with
            ⟨start, start', point, point', rfl, rfl, isPoint, isPoint'⟩
          have sameWord := Token.word?_eq_of_lexeme last.first_lexeme
          by_cases isModifier : ∃ word ∈ modifierWords, second.word? = some word
          · have isModifier' := isModifier
            rw [sameWord] at isModifier'
            rw [List.append_assoc, List.append_assoc] at renames
            exact .endsInAttribute renames
              (endsInAttribute_withoutModifiers start isPoint isOld isModifier)
              (endsInAttribute_withoutModifiers start' isPoint' isNew isModifier')
          · have none {first other : Token} (sameWord : other.word? = second.word?) :
                areModifiers first other = false := by
              rw [← Bool.not_eq_true]
              intro are
              have isWord := areModifiers_words are other (by simp)
              rw [sameWord] at isWord
              exact isModifier isWord
            rw [withoutModifiers_pair, withoutModifiers_pair, none rfl, none sameWord.symm]
            exact .renames renames

end Modifiers

end Lineage.Template
