import Lineage.Proofs.BytewiseSteps
import Lineage.Proofs.ScannedParts

/-!
# The parts of tags by positions

Targets, bindings, parameters, modifiers and the parts of a loop are slices of a list of tokens.  No
such slice is out of range: its ends are positions in the list, of the tokens that separate the
parts.
-/

namespace Lineage.Bytewise

open Lineage.Text Lineage.Template

variable {source : List Char}

/-! ## Slices -/

theorem part?_front {tokens : List Token} {stop : Nat} (inside : stop ≤ tokens.length) :
    part? (tokens.map (place source)) 0 stop = some ((tokens.take stop).map (place source)) := by
  rw [part?_take (by rwa [List.length_map]), List.map_take]

theorem part?_back {tokens : List Token} {start : Nat} (inside : start ≤ tokens.length) :
    part? (tokens.map (place source)) start (tokens.map (place source)).length =
      some ((tokens.drop start).map (place source)) := by
  rw [part?_drop (by rwa [List.length_map]), List.map_drop]

theorem findFrom?_place {p : PlacedToken → Bool} {q : Token → Bool}
    (same : ∀ token, p (place source token) = q token) (tokens : List Token) :
    findFrom? p 0 0 (tokens.map (place source)) = findTopLevel? q 0 tokens := by
  rw [findFrom?_eq source same]
  exact Option.map_id'

theorem lt_of_findTopLevel? {p : Token → Bool} {depth position : Nat} {tokens : List Token}
    (found : findTopLevel? p depth tokens = some position) : position < tokens.length := by
  obtain ⟨token, whole, _, _⟩ := findTopLevel?_eq_some found
  have length := congrArg List.length whole
  rw [List.length_append, List.length_take, List.length_cons, List.length_drop] at length
  omega

/-- The first bar of a list is behind the tokens that are none. -/
theorem findIdx?_place (sign : String) (tokens : List Token) :
    ((tokens.map (place source)).findIdx? (·.isSign sign)).getD (tokens.map (place source)).length =
      (tokens.takeWhile (!·.isSign sign)).length := by
  induction tokens with
  | nil => rfl
  | cons token rest ih =>
      rw [List.map_cons, List.findIdx?_cons, List.takeWhile_cons, isSign_place]
      cases token.isSign sign with
      | true => rfl
      | false =>
          simp only [Bool.not_false, if_true, List.length_cons, Bool.false_eq_true, if_false, ← ih]
          cases (rest.map (place source)).findIdx? (·.isSign sign) <;> rfl

/-! ## Names -/

@[simp]
theorem onlyWord?_place (tokens : List Token) :
    onlyWord? (tokens.map (place source)) = Template.onlyWord? tokens :=
  match tokens with
  | [] => rfl
  | [token] => word?_place source token
  | _ :: _ :: _ => rfl

@[simp]
theorem withinRound?_place (tokens : List Token) :
    withinRound? (tokens.map (place source)) =
      (Template.withinRound? tokens).map (List.map (place source)) := by
  cases tokens with
  | nil => rfl
  | cons first rest =>
      rw [List.map_cons, withinRound?, Template.withinRound?, List.getLast?_map]
      cases rest.getLast? with
      | none => rfl
      | some last =>
          simp only [Option.map_some, isSign_place]
          split
          · rw [Option.map_some, List.map_dropLast]
          · rfl

theorem targetNames_place (tokens : List Token) :
    targetNames (tokens.map (place source)) = some (targetNames? tokens) := by
  have within : (withinRound? (tokens.map (place source))).getD (tokens.map (place source)) =
      ((Template.withinRound? tokens).getD tokens).map (place source) := by
    rw [withinRound?_place, Option.getD_map]
  rw [targetNames, within, cutAtCommas_eq, targetNames?, Option.bind_eq_bind, Option.bind_some,
    List.mapM_map]
  simp only [Function.comp_def, onlyWord?_place]
  rfl

@[simp]
theorem importedName?_place (part : List Token) :
    importedName? (part.map (place source)) = Template.importedName? part :=
  match part with
  | [] => rfl
  | [name] => word?_place source name
  | [_, _, _] => by
      simp only [List.map_cons, List.map_nil, importedName?, Template.importedName?, word?_place,
        isWord_place]
  | [_, _] => rfl
  | _ :: _ :: _ :: _ :: _ => rfl

/-- A list with a part has a name if its parts have names. -/
theorem exists_cons_of_mapM {item? : List Token → Option String} {tokens : List Token}
    {names : List String} (areNames : (commaParts tokens).mapM item? = some names) :
    ∃ first rest, names = first :: rest := by
  cases parts : commaParts tokens with
  | nil => exact absurd parts (splitTopLevel_ne_nil _ _ _)
  | cons part parts =>
      rw [parts, List.mapM_cons] at areNames
      obtain ⟨first, _, others⟩ := Option.bind_eq_some_iff.mp areNames
      obtain ⟨rest, _, same⟩ := Option.bind_eq_some_iff.mp others
      exact ⟨first, rest, (Option.some.inj same).symm⟩

/-! ## Bindings -/

/-- A binding with the positions of the tokens of its value. -/
def placeBinding (source : List Char) (bound : Binding) : PlacedBinding where
  name := bound.name
  value := bound.value.map (place source)

@[simp]
theorem binding?_place (part : List Token) :
    binding? (part.map (place source)) =
      (Template.binding? part).map (placeBinding source) := by
  match part with
  | [] => rfl
  | [_] => rfl
  | name :: equals :: value =>
      simp only [List.map_cons, binding?, Template.binding?, isSign_place, List.isEmpty_map,
        word?_place]
      split
      · rw [Option.map_map]
        rfl
      · rfl

theorem binding_place (part : List Token) :
    (binding? (part.map (place source))).map ([·]) =
      ((Template.binding? part).map ([·])).map (List.map (placeBinding source)) := by
  rw [binding?_place, Option.map_map, Option.map_map]
  rfl

theorem parameter?_place (part : List Token) :
    parameter? (part.map (place source)) =
      (Template.parameter? part).map (List.map (placeBinding source)) := by
  match part with
  | [] => rfl
  | [name] =>
      rw [List.map_singleton, parameter?, Template.parameter?, word?_place, Option.map_map]
      rfl
  | first :: second :: rest => exact binding_place (first :: second :: rest)

/-! ## Modifiers -/

/-- The modifiers at the end of a list are looked for from its end on. -/
theorem modifiersStart_eq {tokens : List Token} {stop : Nat} (inside : stop ≤ tokens.length) :
    modifiersStart (tokens.map (place source)) stop =
      some (dropModifiers (tokens.take stop).reverse).length := by
  induction stop using Nat.strongRecOn with
  | ind stop ih =>
      have size : (tokens.take stop).reverse.length = stop := by
        rw [List.length_reverse, List.length_take, Nat.min_eq_left inside]
      rw [modifiersStart, part?_front inside, Option.bind_eq_bind, Option.bind_some,
        ← List.map_reverse]
      rcases isReversed : (tokens.take stop).reverse with _ | ⟨second, _ | ⟨first, rest⟩⟩
      · rw [isReversed] at size
        rw [← size]
        rfl
      · rw [isReversed] at size
        rw [← size]
        rfl
      · rw [isReversed] at size
        have shorter : rest.length + 2 = stop := size
        rw [dropModifiers]
        simp only [List.map_cons, isWord_place]
        split
        · -- What is left is the list up to two positions in front.
          have fewer : minus? stop 2 = some rest.length := by
            rw [minus?_of_le (by omega)]
            congr 1
            omega
          have moves : rest.length < stop := by omega
          have isRest : (tokens.take rest.length).reverse = rest := by
            have whole : tokens.take stop = rest.reverse ++ [first, second] := by
              rw [← List.reverse_inj, isReversed]
              simp
            have isShorter : (tokens.take stop).take rest.length = tokens.take rest.length := by
              rw [List.take_take, Nat.min_eq_left (Nat.le_of_lt moves)]
            rw [← isShorter, whole, List.take_left' List.length_reverse, List.reverse_reverse]
          simp only [fewer, Option.bind_eq_bind, Option.bind_some, isBelow?_of_lt moves]
          rw [ih rest.length moves (Nat.le_trans (Nat.le_of_lt moves) inside), isRest]
        · exact congrArg some shorter.symm

theorem modifiersStart_place (tokens : List Token) :
    modifiersStart (tokens.map (place source)) (tokens.map (place source)).length =
      some (Template.withoutModifiers tokens).length := by
  rw [List.length_map, modifiersStart_eq (Nat.le_refl _), List.take_length,
    Template.withoutModifiers, List.length_reverse]

theorem part?_withoutModifiers (tokens : List Token) :
    part? (tokens.map (place source)) 0 (Template.withoutModifiers tokens).length =
      some ((Template.withoutModifiers tokens).map (place source)) := by
  have isPrefix := withoutModifiers_isPrefix tokens
  rw [part?_front isPrefix.length_le, ← List.prefix_iff_eq_take.mp isPrefix]

theorem withoutModifiers_place (tokens : List Token) :
    withoutModifiers (tokens.map (place source)) =
      some ((Template.withoutModifiers tokens).map (place source)) := by
  rw [withoutModifiers, modifiersStart_place, Option.bind_eq_bind, Option.bind_some,
    part?_withoutModifiers]

/-! ## Loops -/

/-- A loop is read up to its last word, if that is the word `recursive`. -/
theorem loopRange_place (tokens : List Token) :
    loopRange (tokens.map (place source)) =
      some ((Template.loopRange tokens).map (place source)) := by
  rw [loopRange, Template.loopRange, List.getLast?_map]
  cases isLast : tokens.getLast? with
  | none => rfl
  | some last =>
      have positive : 0 < tokens.length :=
        List.length_pos_of_mem (List.mem_of_getLast? isLast)
      simp only [Option.map_some, Option.any_some, isWord_place]
      split
      · rw [List.length_map, minus?_of_le positive, Option.bind_eq_bind, Option.bind_some,
          part?_front (Nat.sub_le _ _), List.dropLast_eq_take]
      · rfl

theorem loopParts_place (range : List Token) :
    loopParts (range.map (place source)) =
      some (match findTopLevel? (·.isWord "if") 0 range with
        | some condition => ((range.take condition).map (place source),
          some ((range.drop (condition + 1)).map (place source)))
        | none => (range.map (place source), none)) := by
  rw [loopParts, findFrom?_place fun token => isWord_place source token "if"]
  cases found : findTopLevel? (·.isWord "if") 0 range with
  | none => rfl
  | some condition =>
      have inside := lt_of_findTopLevel? found
      simp only [part?_front (Nat.le_of_lt inside), part?_back inside, Option.bind_eq_bind,
        Option.bind_some, Option.pure_def]

end Lineage.Bytewise
