import Lineage.Proofs.BytewiseParts

/-!
# Tags by positions

The handlers of tags do what the effects of the tags do (`tag_place`, `output_place`).  An effect
that reads a part of a tag reads tokens that fit the text, as every part of the list does.
-/

namespace Lineage.Bytewise

open Lineage.Text Lineage.Template

/-! ## Effects by positions -/

/-- What the effects of a tag make of an outline, by positions. -/
def applied (outline : Outline) (line : Nat) (effects : List Effect) :
    Checked Template.Cause Parser :=
  settled ((effects.foldlM (fun (current : Outline) effect => current.apply line effect)
    outline).map placeOutline)

section Effects

variable {outline after : Outline} {line : Nat} {text : List Char} {tokens : List Token}

theorem applied_cons {effect : Effect} (done : outline.apply line effect = .ok after)
    (rest : List Effect) :
    applied outline line (effect :: rest) = applied after line rest := by
  rw [applied, List.foldlM_cons, done]
  rfl

theorem applied_error {effect : Effect} {cause : Template.Cause}
    (refused : outline.apply line effect = .error cause) (rest : List Effect) :
    applied outline line (effect :: rest) = throw cause := by
  rw [applied, List.foldlM_cons, refused]
  rfl

theorem applied_singleton (effect : Effect) :
    applied outline line [effect] = settled ((outline.apply line effect).map placeOutline) := by
  rw [applied, List.foldlM_cons]
  cases outline.apply line effect <;> rfl

/-- Opening a structure other than a block comes last. -/
theorem applied_enter {opened : Opened} {names : List String}
    (noBlock : Frame.block? ⟨opened, line, names⟩ = none) :
    applied outline line [.enter opened names] =
      pure ((placeOutline outline).enter line opened names) := by
  rw [enter_place noBlock]
  rfl

theorem applied_bind (valid : Valid outline) (names : List String) :
    applied outline line [.bind names] = pure ((placeOutline outline).assign line names) := by
  rw [assign_place valid]
  rfl

/-- A tag is cut into tokens, and then the tokens are looked at. -/
theorem tokensOf_then {next : List PlacedToken → Checked Template.Cause Parser}
    {effects : Expression → Except Template.Cause (List Effect)}
    (step : ∀ tokens, Fits text tokens →
      next (tokens.map (place text)) =
        applied outline line (Effect.orRefuse (effects ⟨text, tokens⟩))) :
    (tokensOf text >>= next) =
      applied outline line (Effect.orRefuse (Expression.ofText text >>= effects)) := by
  rw [tokensOf_eq]
  cases found : Expression.ofText text with
  | error cause => rfl
  | ok whole =>
      have isWhole : whole = ⟨text, whole.tokens⟩ := by
        rw [← (Expression.ofText_eq_ok_iff.mp found).1]
      rw [isWhole]
      exact step whole.tokens (fits_of_ofText found)

/-- A part is read, and then the tag goes on. -/
theorem scan_then (valid : Valid outline) (fits : Fits text tokens) {context : Context}
    {next : Parser → Checked Template.Cause Parser} {rest : List Effect}
    (step : ∀ after, Valid after → next (placeOutline after) = applied after line rest) :
    ((placeOutline outline).scan line text (tokens.map (place text)) context >>= next) =
      applied outline line (.read ⟨text, tokens⟩ context :: rest) := by
  rw [scan_place valid fits]
  cases done : outline.read line ⟨text, tokens⟩ context with
  | error cause =>
      have refused : outline.apply line (.read ⟨text, tokens⟩ context) = .error cause := done
      rw [applied_error refused]
      rfl
  | ok after =>
      have applies : outline.apply line (.read ⟨text, tokens⟩ context) = .ok after := done
      rw [applied_cons applies]
      exact step after (valid.read done)

theorem applied_read (valid : Valid outline) (fits : Fits text tokens) (context : Context) :
    applied outline line [.read ⟨text, tokens⟩ context] =
      (placeOutline outline).scan line text (tokens.map (place text)) context := by
  rw [scan_place valid fits, applied_singleton]
  rfl

end Effects

/-! ## The tags -/

section Tags

variable {outline : Outline} {line : Nat} (valid : Valid outline) (text : List Char)
include valid

theorem openAutoescape_place : (placeOutline outline).openAutoescape line text =
    applied outline line (Effect.orRefuse (autoescapeEffects text)) := by
  rw [Parser.openAutoescape, autoescapeEffects]
  refine tokensOf_then fun tokens fits => scan_then valid fits fun after _ => ?_
  exact (applied_enter rfl).symm

theorem openFilter_place : (placeOutline outline).openFilter line text =
    applied outline line (Effect.orRefuse (filterEffects text)) := by
  rw [Parser.openFilter, filterEffects]
  refine tokensOf_then fun tokens fits => ?_
  have named : (tokens.map (place text)).head?.any (·.word?.isSome) =
      tokens.head?.any (·.word?.isSome) := by
    cases tokens with
    | nil => rfl
    | cons first rest => simp
  simp only [named]
  split
  · exact scan_then valid fits fun after _ => (applied_enter rfl).symm
  · rfl

theorem includeTemplate_place : (placeOutline outline).includeTemplate line text =
    applied outline line (Effect.orRefuse (includeEffects text)) := by
  rw [Parser.includeTemplate, includeEffects]
  refine tokensOf_then fun tokens fits => ?_
  have isPart := (withoutModifiers_isPrefix tokens).isInfix
  simp only [modifiersStart_place, part?_withoutModifiers, liftM_some, pure_bind,
    List.length_eq_zero_iff, List.isEmpty_iff]
  split
  · rfl
  · exact (applied_read valid (fits.mono isPart) .plain).symm

theorem importTemplate_place : (placeOutline outline).importTemplate line text =
    applied outline line (Effect.orRefuse (importEffects text)) := by
  rw [Parser.importTemplate, importEffects]
  refine tokensOf_then fun tokens fits => ?_
  have isPart := (withoutModifiers_isPrefix tokens).isInfix
  simp only [withoutModifiers_place, liftM_some, pure_bind, ← List.map_reverse]
  rcases isReversed : (Template.withoutModifiers tokens).reverse with
    _ | ⟨alias_, _ | ⟨word, template⟩⟩
  · rfl
  · rfl
  · have isTemplate : template.reverse <:+: tokens := by
      have whole : Template.withoutModifiers tokens = template.reverse ++ [word, alias_] := by
        rw [← List.reverse_inj, isReversed]
        simp
      exact List.IsInfix.trans ⟨[], [word, alias_], by rw [whole]; rfl⟩ isPart
    simp only [List.map_cons, word?_place, isWord_place, List.isEmpty_map]
    cases alias_.word? with
    | none => rfl
    | some name =>
        dsimp only
        split
        · rw [← List.map_reverse]
          exact scan_then valid (fits.mono isTemplate) fun after valid =>
            (applied_bind valid [name]).symm
        · rfl

theorem fromImport_place : (placeOutline outline).fromImport line text =
    applied outline line (Effect.orRefuse (fromEffects text)) := by
  rw [Parser.fromImport, fromEffects]
  refine tokensOf_then fun whole fits => ?_
  have isPart := (withoutModifiers_isPrefix whole).isInfix
  simp only [withoutModifiers_place, liftM_some, pure_bind]
  generalize Template.withoutModifiers whole = tokens at isPart
  rw [findFrom?_place fun token => isWord_place text token "import"]
  cases found : findTopLevel? (·.isWord "import") 0 tokens with
  | none => rfl
  | some position =>
      have inside := lt_of_findTopLevel? found
      dsimp only
      split
      · rfl
      have isTemplate := (List.take_prefix position tokens).isInfix.trans isPart
      simp only [part?_front (Nat.le_of_lt inside), part?_back inside, liftM_some, pure_bind,
        cutAtCommas_eq, List.mapM_map, Function.comp_def, importedName?_place]
      refine scan_then valid (fits.mono isTemplate) fun after valid => ?_
      cases areNames : (commaParts (tokens.drop (position + 1))).mapM
          Template.importedName? with
      | none => rfl
      | some names =>
          obtain ⟨first, rest, rfl⟩ := exists_cons_of_mapM areNames
          exact (applied_bind valid (first :: rest)).symm

theorem set_place : (placeOutline outline).set line text =
    applied outline line (Effect.orRefuse (setEffects text)) := by
  rw [Parser.set, setEffects]
  refine tokensOf_then fun tokens fits => ?_
  rw [findFrom?_place fun token => isSign_place text token "="]
  cases found : findTopLevel? (·.isSign "=") 0 tokens with
  | some position =>
      have inside := lt_of_findTopLevel? found
      have isLast : position + 1 = tokens.length ↔ (tokens.drop (position + 1)).isEmpty = true := by
        rw [List.isEmpty_iff, List.drop_eq_nil_iff]
        omega
      have pointed : ((tokens.take position).map (place text)).any (·.isSign ".") =
          (tokens.take position).any (·.isSign ".") := by
        rw [List.any_map]
        simp only [Function.comp_def, isSign_place]
      have isValue := (List.drop_suffix (position + 1) tokens).isInfix
      simp only [List.length_map, isLast]
      split
      · rfl
      rw [← List.length_map (place text)]
      simp only [part?_front (Nat.le_of_lt inside), part?_back inside, liftM_some, pure_bind]
      refine scan_then valid (fits.mono isValue) fun after valid => ?_
      simp only [pointed, targetNames_place, liftM_some, pure_bind]
      split
      · rfl
      · cases targetNames? (tokens.take position) with
        | none => rfl
        | some names => exact (applied_bind valid names).symm
  | none =>
      have whole := List.takeWhile_append_dropWhile (p := (!·.isSign "|")) (l := tokens)
      have isTarget := List.takeWhile_prefix (!·.isSign "|") (l := tokens)
      simp only [findIdx?_place, List.span_eq_takeWhile_dropWhile]
      generalize tokens.takeWhile (!·.isSign "|") = targets at whole isTarget
      generalize tokens.dropWhile (!·.isSign "|") = filters at whole
      subst whole
      have isFilters := (List.suffix_append targets filters).isInfix
      simp only [part?_front isTarget.length_le, part?_back isTarget.length_le, List.take_left,
        List.drop_left, liftM_some, pure_bind, targetNames_place]
      cases targetNames? targets with
      | none => rfl
      | some names =>
          cases filters with
          | nil =>
              simp only [List.append_nil, List.length_map, Nat.lt_irrefl, if_false]
              exact (applied_enter rfl).symm
          | cons bar filters =>
              have shorter : targets.length <
                  ((targets ++ bar :: filters).map (place text)).length := by
                rw [List.length_map, List.length_append, List.length_cons]
                omega
              dsimp only
              rw [if_pos shorter]
              exact scan_then valid (fits.mono isFilters) fun after _ => (applied_enter rfl).symm

theorem openFor_place : (placeOutline outline).openFor line text =
    applied outline line (Effect.orRefuse (loopEffects text)) := by
  rw [Parser.openFor, loopEffects_eq]
  refine tokensOf_then fun tokens fits => ?_
  rw [findFrom?_place fun token => isWord_place text token "in"]
  cases found : findTopLevel? (·.isWord "in") 0 tokens with
  | none => rfl
  | some position =>
      have inside := lt_of_findTopLevel? found
      simp only [part?_front (Nat.le_of_lt inside), part?_back inside, liftM_some, pure_bind,
        targetNames_place, loopRange_place, loopParts_place]
      cases targetNames? (tokens.take position) with
      | none => rfl
      | some names =>
          have isRange := (loopRange_isPrefix _).isInfix.trans
            (List.drop_suffix (position + 1) tokens).isInfix
          dsimp only
          rw [loopReads]
          generalize Template.loopRange (tokens.drop (position + 1)) = range at isRange
          cases findTopLevel? (·.isWord "if") 0 range with
          | none =>
              simp only [List.isEmpty_map]
              split
              · rfl
              · exact scan_then valid (fits.mono isRange) fun after _ => (applied_enter rfl).symm
          | some condition =>
              have isIterable := (List.take_prefix condition range).isInfix.trans isRange
              have isFilter := (List.drop_suffix (condition + 1) range).isInfix.trans isRange
              simp only [List.isEmpty_map]
              split
              · rfl
              · refine scan_then valid (fits.mono isIterable) fun after valid => ?_
                have entered : Opened.loop.kind ≠ .block := by decide
                rw [enter_place rfl]
                exact (applied_read (valid.enter entered names) (fits.mono isFilter) .test).symm

omit valid in
theorem parentOf_place {tokens : List Token} (fits : Fits text tokens) :
    (placeOutline outline).parentOf text (tokens.map (place text)) =
      some (Outline.parentOf outline.frames ⟨text, tokens⟩) := by
  rw [Parser.parentOf.eq_def, Outline.parentOf.eq_def, frames_placeOutline]
  cases outline.frames with
  | cons frame frames => rfl
  | nil =>
      rcases tokens with _ | ⟨⟨lexeme, start⟩, _ | ⟨second, others⟩⟩
      · rfl
      · cases lexeme with
        | literal mark inner =>
            have size := fits.marked _ List.mem_cons_self mark inner rfl
            simp only [List.map_nil, List.map_cons, unquoted_place size]
            rfl
        | _ => rfl
      · cases lexeme <;> rfl

/-- The first `extends` tag adds a node, which is at its index. -/
theorem placeOutline_extends (plain : namesParent outline.nodes = false) (parent : Parent)
    (nested : Bool) :
    placeOutline { outline with
        nodes := outline.nodes ++ [.extends parent line], nestedExtends := nested } =
      { placeOutline outline with
        nodes := outline.nodes ++ [.extends parent line],
        extends? := some (line, outline.nodes.length), nestedExtends := nested } := by
  have frames : outline.frames.map (placeFrame (outline.nodes ++ [.extends parent line])) =
      outline.frames.map (placeFrame outline.nodes) :=
    map_placeFrame_congr fun _ isOpen => blockIndex_append (valid.sound.opened isOpen)
  have nowhere : ∀ node ∈ outline.nodes, ¬ node.parent?.isSome = true := List.any_eq_false.mp plain
  have isPlace : extendsPlace? (outline.nodes ++ [.extends parent line]) =
      some (line, outline.nodes.length) := by
    rw [extendsPlace?, List.find?_append, List.find?_eq_none.mpr nowhere, List.findIdx_append,
      List.findIdx_eq_length.mpr fun node member => Bool.not_eq_true _ ▸ nowhere node member]
    simp [Node.parent?, Node.line, List.findIdx_cons]
  simp only [placeOutline, frames, isPlace, blockNames_append]
  simp [blockNames, Node.block?]

omit valid in
/-- A later `extends` tag changes the node at the index of the first one. -/
theorem placeOutline_addParent (expression : String) (nested : Bool) :
    placeOutline { outline with
        nodes := outline.nodes.map (Node.addParent expression), nestedExtends := nested } =
      { placeOutline outline with
        nodes := outline.nodes.map (Node.addParent expression), nestedExtends := nested } := by
  have frames : outline.frames.map (placeFrame (outline.nodes.map (Node.addParent expression))) =
      outline.frames.map (placeFrame outline.nodes) :=
    map_placeFrame_congr fun _ _ => blockIndex_map (isBlock_addParent expression)
  simp only [placeOutline, frames, extendsPlace?_addParent, blockNames_addParent]

theorem extend_place : (placeOutline outline).extend line text =
    applied outline line (Effect.orRefuse (extendsEffects text)) := by
  rw [Parser.extend, extendsEffects]
  refine tokensOf_then fun tokens fits => ?_
  simp only [List.isEmpty_map]
  split
  · rfl
  change _ = applied outline line [.extend _]
  rw [applied_singleton, Outline.apply, Outline.extend]
  have isNodes : (placeOutline outline).nodes = outline.nodes := rfl
  have isPlace : (placeOutline outline).extends? = extendsPlace? outline.nodes := rfl
  have isNested : (placeOutline outline).nestedExtends = outline.nestedExtends := rfl
  have isEmpty : (placeOutline outline).frames.isEmpty = outline.frames.isEmpty :=
    List.isEmpty_map
  cases isFirst : outline.nodes.find? (·.parent?.isSome) with
  | none =>
      have plain : namesParent outline.nodes = false := by
        rw [namesParent, List.any_eq_false]
        exact List.find?_eq_none.mp isFirst
      have flat : outline.nestedExtends = false := by
        rw [← Bool.not_eq_true]
        intro nested
        rw [valid.sound.nested nested] at plain
        cases plain
      rw [isPlace, extendsPlace?, isFirst]
      simp only [Option.map_none, parentOf_place text fits, liftM_some, pure_bind, flat,
        Bool.false_or, isNodes, isEmpty]
      exact congrArg (pure (f := Checked Template.Cause))
        (placeOutline_extends valid plain _ _).symm
  | some first =>
      have named : namesParent outline.nodes = true :=
        List.any_eq_true.mpr ⟨first, List.mem_of_find?_eq_some isFirst,
          by simpa using List.find?_some isFirst⟩
      obtain ⟨node, here, changed⟩ := exists_addParent valid.single named (String.ofList text)
      have refused : (outline.frames.isEmpty && !outline.nestedExtends) =
          !(outline.nestedExtends || !outline.frames.isEmpty) := by
        simp [Bool.and_comm]
      have found : extendsPlace? outline.nodes = some
          (first.line, outline.nodes.findIdx (·.parent?.isSome)) := by
        rw [extendsPlace?, isFirst, Option.map_some]
      rw [isPlace, found]
      simp only [isNodes, isNested, isEmpty, refused, here, changed]
      cases outline.nestedExtends || !outline.frames.isEmpty with
      | false => rfl
      | true =>
          rw [← found]
          exact congrArg (pure (f := Checked Template.Cause)) (placeOutline_addParent _ _).symm

/-- A block that is defined is opened with the index of its node. -/
theorem placeOutline_define {name : String} (undefined : name ∉ blockNames outline.nodes)
    (site : Block) (isNamed : site.name = name) :
    placeOutline ((outline.add [.block site]).enter line (.block name) []) =
      { placeOutline outline with
        nodes := outline.nodes ++ [.block site]
        blockNames := blockNames outline.nodes ++ [name]
        frames := ⟨⟨.block name, line, []⟩, some outline.nodes.length⟩ ::
          (placeOutline outline).frames } := by
  subst isNamed
  have frames : outline.frames.map (placeFrame (outline.nodes ++ [.block site])) =
      outline.frames.map (placeFrame outline.nodes) :=
    map_placeFrame_congr fun _ isOpen => blockIndex_append (valid.sound.opened isOpen)
  have index : blockIndex (outline.nodes ++ [.block site]) site.name = outline.nodes.length := by
    have nowhere : ∀ node ∈ outline.nodes, isBlock site.name node = false := by
      intro node member
      rw [← Bool.not_eq_true]
      exact fun isHere => undefined (mem_blockNames_iff.mpr ⟨node, member, isHere⟩)
    rw [blockIndex, List.findIdx_append, List.findIdx_eq_length.mpr nowhere]
    simp [isBlock, Node.block?, List.findIdx_cons]
  have isOpened : placeFrame (outline.nodes ++ [.block site]) ⟨.block site.name, line, []⟩ =
      ⟨⟨.block site.name, line, []⟩, some outline.nodes.length⟩ := by
    rw [placeFrame, ← index]
    rfl
  have noParent : namesParent [.block site] = false := rfl
  simp only [Outline.enter, Outline.add, placeOutline, List.map_cons, frames, isOpened,
    extendsPlace?_append noParent, blockNames_append]
  rfl

theorem block_place : (placeOutline outline).block line text =
    applied outline line (Effect.orRefuse (blockEffects text)) := by
  rw [Parser.block, blockEffects]
  refine tokensOf_then fun tokens fits => ?_
  cases tokens with
  | nil => rfl
  | cons first modifiers =>
      have plain : (modifiers.map (place text)).all
            (fun token => token.isWord "scoped" || token.isWord "required") =
          modifiers.all fun token => token.isWord "scoped" || token.isWord "required" := by
        rw [List.all_map]
        simp only [Function.comp_def, isWord_place]
      simp only [List.map_cons, word?_place, plain]
      cases first.word? with
      | none => rfl
      | some name =>
          dsimp only
          split
          · change _ = applied outline line [.define name]
            rw [applied_singleton, Outline.apply, Outline.define]
            have repeated : (blockNames outline.nodes).contains name =
                outline.nodes.any fun node => node.block?.any (·.name == name) := by
              rw [Bool.eq_iff_iff, List.contains_iff_mem, mem_blockNames_iff, List.any_eq_true]
              rfl
            have innermost : (placeOutline outline).frames.findSome? (·.frame.block?) =
                outline.innermostBlock? := List.findSome?_map
            have areNames : (placeOutline outline).blockNames = blockNames outline.nodes := rfl
            rw [areNames, repeated, innermost]
            split
            · rfl
            · rename_i undefined
              rw [← repeated, List.contains_iff_mem] at undefined
              exact congrArg (pure (f := Checked Template.Cause))
                (placeOutline_define valid undefined _ rfl).symm
          · rfl

/-! ## Bindings -/

/-- The values of bindings are read, and then the tag goes on. -/
theorem scans_then {bounds : List Binding} (fits : ∀ bound ∈ bounds, Fits text bound.value)
    {next : Parser → Checked Template.Cause Parser} {rest : List Effect}
    (step : ∀ after, Valid after → next (placeOutline after) = applied after line rest) :
    ((bounds.map (placeBinding text)).foldlM
        (fun after bound => after.scan line text bound.value .plain) (placeOutline outline) >>=
      next) =
      applied outline line
        (bounds.map (fun bound => .read ⟨text, bound.value⟩ .plain) ++ rest) := by
  induction bounds generalizing outline with
  | nil =>
      rw [List.map_nil, List.foldlM_nil, pure_bind]
      exact step outline valid
  | cons bound bounds ih =>
      rw [List.forall_mem_cons] at fits
      rw [List.map_cons, List.foldlM_cons, bind_assoc]
      exact scan_then valid fits.1 fun after valid => ih valid fits.2

/-- The effects of reading a list of bindings: the reads of its values, and what its names do if it
is not refused. -/
def thenNames (found : List Effect × Except Template.Cause (List String))
    (rest : List String → List Effect) : List Effect :=
  found.1 ++ match found.2 with
    | .ok names => rest names
    | .error cause => [.refuse cause]

/-- A list of bindings is read, and then the tag goes on with its names. -/
theorem bindings_then {placed? : List PlacedToken → Option (List PlacedBinding)}
    {item? : List Token → Option (List Binding)} (refusal : Template.Cause)
    (same : ∀ part, placed? (part.map (place text)) =
      (item? part).map (List.map (placeBinding text)))
    {whole : List Token} (fits : Fits text whole) {parts : List (List Token)}
    (values : ∀ part ∈ parts, ∀ found, item? part = some found → ∀ bound ∈ found,
      bound.value ≠ [] → bound.value <:+: whole)
    {next : Parser × List String → Checked Template.Cause Parser} (rest : List String → List Effect)
    (step : ∀ after names, Valid after →
      next (placeOutline after, names) = applied after line (rest names))
    (names : List String) :
    (Parser.bindings line placed? refusal text (placeOutline outline) names
        (parts.map (List.map (place text))) >>= next) =
      applied outline line
        (thenNames (readBindings item? refusal ⟨text, whole⟩ parts) fun found =>
          rest (names ++ found)) := by
  induction parts generalizing outline names with
  | nil =>
      rw [List.map_nil, Parser.bindings, pure_bind, step outline names valid, readBindings,
        thenNames, List.nil_append]
      dsimp only
      rw [List.append_nil]
  | cons part parts ih =>
      rw [List.forall_mem_cons] at values
      rw [List.map_cons, Parser.bindings, same, readBindings]
      cases isItem : item? part with
      | none => rfl
      | some found =>
          have isRead : (found.map (placeBinding text)).filter (!·.value.isEmpty) =
              (found.filter (!·.value.isEmpty)).map (placeBinding text) := by
            rw [List.filter_map]
            simp [Function.comp_def, placeBinding]
          have areNames : (found.map (placeBinding text)).map (·.name) = found.map (·.name) := by
            rw [List.map_map]
            rfl
          simp only [Option.map_some, isRead, areNames, bind_assoc]
          have fitsValues : ∀ bound ∈ found.filter (!·.value.isEmpty), Fits text bound.value := by
            intro bound member
            rw [List.mem_filter, Bool.not_eq_true', List.isEmpty_eq_false_iff] at member
            exact fits.mono (values.1 found isItem bound member.1 member.2)
          rw [scans_then valid text fitsValues fun after valid =>
            ih valid values.2 (names ++ found.map (·.name))]
          rcases readBindings item? refusal ⟨text, whole⟩ parts with ⟨reads, _ | others⟩
          · simp [thenNames, Except.map, Expression.part]
          · simp [thenNames, Except.map, Expression.part]

theorem parameters_then {tokens whole : List Token} (fits : Fits text whole)
    (isPart : tokens <:+: whole)
    {next : Parser × List String → Checked Template.Cause Parser} (rest : List String → List Effect)
    (step : ∀ after names, Valid after →
      next (placeOutline after, names) = applied after line (rest names)) :
    ((placeOutline outline).parameters line text (tokens.map (place text)) >>= next) =
      applied outline line (thenNames (readParameters ⟨text, whole⟩ tokens) rest) := by
  rw [Parser.parameters, withinRound?_place, readParameters]
  cases round : Template.withinRound? tokens with
  | none => rfl
  | some inner =>
      obtain ⟨first, last, rfl, _, _⟩ := withinRound?_eq_some_iff.mp round
      have isInner : inner <:+: whole := List.IsInfix.trans ⟨[first], [last], by simp⟩ isPart
      simp only [Option.map_some, cutAtCommas_eq, liftM_some, pure_bind]
      refine bindings_then valid text .invalidParameter parameter?_place fits ?_ rest step []
      intro part member found isParameter bound isBound filled
      exact (value_of_parameter? isParameter isBound filled).1.isInfix.trans
        ((infix_of_mem_commaParts member).trans isInner)

theorem openWith_place : (placeOutline outline).openWith line text =
    applied outline line (Effect.orRefuse (withEffects text)) := by
  rw [Parser.openWith, withEffects]
  refine tokensOf_then fun tokens fits => ?_
  simp only [List.isEmpty_map]
  split
  · exact (applied_enter rfl).symm
  · simp only [cutAtCommas_eq, liftM_some, pure_bind]
    refine (bindings_then valid text .invalidBinding binding_place fits ?_
      (fun names => [.enter .bindings names]) (fun after names _ => (applied_enter rfl).symm)
      []).trans ?_
    · intro part member found isItem bound isBound _
      obtain ⟨binding, isBinding, rfl⟩ := Option.map_eq_some_iff.mp isItem
      rw [List.mem_singleton.mp isBound]
      exact (value_of_binding? isBinding).1.isInfix.trans (infix_of_mem_commaParts member)
    · rcases readBindings _ _ _ _ with ⟨reads, _ | names⟩ <;> rfl

theorem openMacro_place : (placeOutline outline).openMacro line text =
    applied outline line (Effect.orRefuse (macroEffects text)) := by
  rw [Parser.openMacro, macroEffects]
  refine tokensOf_then fun tokens fits => ?_
  cases tokens with
  | nil => rfl
  | cons first parameters =>
      simp only [List.map_cons, word?_place]
      cases first.word? with
      | none => rfl
      | some name =>
          dsimp only
          have isPart := (List.suffix_cons first parameters).isInfix
          refine (parameters_then valid text fits isPart
            (fun names => [.bind [name], .enter .macroBody names])
            fun after names valid => ?_).trans ?_
          · rw [assign_place valid, applied_cons rfl]
            exact (applied_enter rfl).symm
          · rcases readParameters _ _ with ⟨reads, _ | names⟩ <;> rfl

/-- What is called is read, and the body of the call is opened. -/
theorem invoke_place {tokens : List Token} (fits : Fits text tokens) (names : List String)
    {whole : Expression} (isSource : whole.source = text) :
    (do
      if (tokens.map (place text)).isEmpty then throw Template.Cause.callWithoutInvocation
      let called ← (placeOutline outline).scan line text (tokens.map (place text)) .plain
      pure (called.enter line .callBody names)) =
      applied outline line (callEffects.invoke whole tokens names) := by
  simp only [List.isEmpty_map, callEffects.invoke, Expression.part, isSource]
  split
  · rfl
  · exact scan_then valid fits fun after _ => (applied_enter rfl).symm

theorem openCall_place : (placeOutline outline).openCall line text =
    applied outline line (Effect.orRefuse (callEffects text)) := by
  rw [Parser.openCall, callEffects]
  refine tokensOf_then fun tokens fits => ?_
  have called : (tokens.map (place text)).head?.any (·.isSign "(") =
      tokens.head?.any (·.isSign "(") := by
    cases tokens with
    | nil => rfl
    | cons first rest => simp
  simp only [called]
  split
  · rename_i isCalled
    obtain ⟨first, rest, rfl⟩ : ∃ first rest, tokens = first :: rest := by
      cases tokens with
      | nil => cases isCalled
      | cons first rest => exact ⟨first, rest, rfl⟩
    have size := groupSize_le 0 (first :: rest)
    have isEnd := groupEnd_eq text (Nat.zero_le (first :: rest).length)
    have isGroup := (List.take_prefix (groupSize 0 (first :: rest)) (first :: rest)).isInfix
    have isRest := (List.drop_suffix (groupSize 0 (first :: rest)) (first :: rest)).isInfix
    rw [List.drop_zero, Nat.zero_add] at isEnd
    simp only [isEnd, part?_front size, part?_back size, liftM_some, pure_bind]
    refine (parameters_then valid text fits isGroup
      (fun names => callEffects.invoke ⟨text, first :: rest⟩ (afterGroup (first :: rest)) names)
      fun after names valid => invoke_place valid text (fits.mono isRest) names rfl).trans ?_
    rw [group]
    rcases readParameters _ _ with ⟨reads, _ | names⟩ <;> rfl
  · exact invoke_place valid text fits [] rfl

/-! ## Conditions -/

omit valid in
/-- The reads of a part stand behind the nodes that were there. -/
theorem exists_nodes_of_read {after : Outline} {expression : Expression} {context : Context}
    (done : outline.read line expression context = .ok after) : ∃ marked,
      marked.length = outline.nodes.length ∧
        after.nodes = marked ++ outline.reads line expression context := by
  rcases Outline.read_eq_ok_iff.mp done with ⟨_, rfl⟩ | ⟨_, block, _, rfl⟩
  · exact ⟨outline.nodes, rfl, rfl⟩
  · exact ⟨outline.nodes.map (Node.markSuper block), List.length_map _, rfl⟩

omit valid in
/-- Reading leaves the open structures as they are. -/
theorem frames_of_read {after : Outline} {expression : Expression} {context : Context}
    (done : outline.read line expression context = .ok after) : after.frames = outline.frames := by
  rcases Outline.read_eq_ok_iff.mp done with ⟨_, rfl⟩ | ⟨_, block, _, rfl⟩ <;> rfl

/-- The test that the text of a tag is. -/
def testOf (text : List Char) : Except Template.Cause Expression := do
  let expression ← Expression.ofText text
  if expression.tokens.isEmpty then throw .conditionExpected
  return expression

/-- The names that a test reads are those of the nodes that it adds. -/
theorem condition_place : (placeOutline outline).condition line text =
    settled (testOf text >>= fun expression =>
      (outline.read line expression .test).map fun after =>
        (placeOutline after, (expression.occurrences .test outline.bound).map (·.name))) := by
  rw [Parser.condition, tokensOf_eq, testOf]
  cases found : Expression.ofText text with
  | error cause => rfl
  | ok whole =>
      obtain ⟨isSource, _, _⟩ := Expression.ofText_eq_ok_iff.mp found
      have fits := fits_of_ofText found
      rcases whole with ⟨source, _ | ⟨first, rest⟩⟩
      · rfl
      dsimp only at isSource fits
      subst isSource
      change ((placeOutline outline).scan line source ((first :: rest).map (place source)) .test >>=
        _) = settled ((outline.read line ⟨source, first :: rest⟩ .test).map _)
      rw [scan_place valid fits]
      cases done : outline.read line ⟨source, first :: rest⟩ .test with
      | error cause => rfl
      | ok after =>
          obtain ⟨marked, size, isNodes⟩ := exists_nodes_of_read done
          have isBehind : part? (placeOutline after).nodes (placeOutline outline).nodes.length
              (placeOutline after).nodes.length =
                some (outline.reads line ⟨source, first :: rest⟩ .test) := by
            change part? after.nodes outline.nodes.length after.nodes.length = _
            rw [isNodes, ← size, part?_drop (by simp), List.drop_left]
          have areNames : (outline.reads line ⟨source, first :: rest⟩ .test).filterMap
              (fun node => node.read?.map Prod.fst) =
                (Expression.occurrences ⟨source, first :: rest⟩ .test outline.bound).map
                  (·.name) := by
            rw [Outline.reads, List.filterMap_map, ← List.filterMap_eq_map]
            rfl
          simp only [Except.map, settled_ok, pure_bind, isBehind, liftM_some, areNames]

omit valid in
/-- A test that is read behind an effect. -/
theorem applied_testEffects {opening : Effect} {after : Outline}
    (done : outline.apply line opening = .ok after) :
    applied outline line (testEffects [opening] text) =
      settled ((testOf text >>= after.test line).map placeOutline) := by
  rw [testEffects, List.singleton_append, applied_cons done, testOf]
  cases Expression.ofText text with
  | error cause => rfl
  | ok expression =>
      simp only [Bind.bind, Except.bind]
      split
      · rfl
      · exact applied_singleton (.test expression)

omit valid in
/-- A condition that is opened without a test changes no read. -/
theorem read_enter_conditional (expression : Expression) :
    (outline.enter line (.conditional [] false) []).read line expression .test =
      (outline.read line expression .test).map (·.enter line (.conditional [] false) []) := by
  have bound : (outline.enter line (.conditional [] false) []).bound = outline.bound := rfl
  have readNode : (outline.enter line (.conditional [] false) []).readNode line =
      outline.readNode line := rfl
  have innermost : (outline.enter line (.conditional [] false) []).innermostBlock? =
      outline.innermostBlock? := rfl
  rw [Outline.read, Outline.read, bound, readNode, innermost]
  split
  · cases outline.innermostBlock? <;> rfl
  · rfl

theorem openIf_place : (placeOutline outline).openIf line text =
    applied outline line (testEffects [.enter (.conditional [] false) []] text) := by
  rw [Parser.openIf, condition_place valid, applied_testEffects text rfl]
  cases testOf text with
  | error cause => rfl
  | ok expression =>
      change (settled ((outline.read line expression .test).map _) >>= _) =
        settled (((outline.enter line (.conditional [] false) []).test line
          expression).map placeOutline)
      rw [Outline.test, read_enter_conditional]
      cases outline.read line expression .test with
      | error cause => rfl
      | ok after => exact congrArg (pure (f := Checked Template.Cause)) (enter_place rfl)

/-- The branch of a condition is guarded by the test that is read last. -/
theorem elif_of_branch {tested names : List String} {begun : Nat} {frames : List Frame}
    (isOpen : outline.frames = ⟨.conditional tested false, begun, names⟩ :: frames) :
    (placeOutline outline).elif line text =
      applied outline line (testEffects [.expectBranch] text) := by
  have expects : outline.apply line .expectBranch = .ok outline := by
    rw [Outline.apply, Outline.expectBranch, isOpen]
  rw [applied_testEffects text expects, Parser.elif.eq_def, frames_placeOutline,
    condition_place valid, isOpen]
  cases testOf text with
  | error cause => rfl
  | ok expression =>
      change (settled ((outline.read line expression .test).map _) >>= _) =
        settled ((outline.test line expression).map placeOutline)
      rw [Outline.test]
      cases done : outline.read line expression .test with
      | error cause => rfl
      | ok after =>
          have sameFrames := (frames_of_read done).trans isOpen
          rcases after with ⟨nodes, _, nested⟩
          dsimp only at sameFrames
          subst sameFrames
          rfl

theorem elif_place : (placeOutline outline).elif line text =
    applied outline line (testEffects [.expectBranch] text) := by
  have refuses (stray : outline.expectBranch = .error .strayElif) :
      applied outline line (testEffects [.expectBranch] text) = throw .strayElif :=
    have refused : outline.apply line .expectBranch = .error .strayElif := stray
    applied_error refused _
  rw [Outline.expectBranch.eq_def] at refuses
  cases isOpen : outline.frames with
  | nil =>
      rw [isOpen] at refuses
      rw [refuses rfl, Parser.elif.eq_def, frames_placeOutline, isOpen]
      rfl
  | cons frame frames =>
      rcases frame with ⟨opened, begun, names⟩
      cases opened with
      | conditional tested inElse =>
          cases inElse with
          | false => exact elif_of_branch valid text isOpen
          | true =>
              rw [isOpen] at refuses
              rw [refuses rfl, Parser.elif.eq_def, frames_placeOutline, isOpen]
              rfl
      | _ =>
          rw [isOpen] at refuses
          rw [refuses rfl, Parser.elif.eq_def, frames_placeOutline, isOpen]
          rfl

omit valid in
theorem elseBranch_place : (placeOutline outline).elseBranch =
    settled (outline.otherwise.map placeOutline) := by
  rw [Parser.elseBranch.eq_def, Outline.otherwise.eq_def, frames_placeOutline]
  rcases outline with ⟨nodes, _ | ⟨⟨opened, begun, names⟩, frames⟩, nested⟩
  · rfl
  · cases opened with
    | conditional tested inElse => cases inElse <;> rfl
    | _ => rfl

/-! ## Ends -/

omit valid in
theorem endBlock_place : (placeOutline outline).endBlock text =
    settled ((outline.leaveBlock line (String.ofList text)).map placeOutline) := by
  have unnamed : text.isEmpty = true ↔ String.ofList text = "" := by
    rw [List.isEmpty_iff, ← String.toList_inj, String.toList_ofList]
    rfl
  rw [Parser.endBlock.eq_def, Outline.leaveBlock, frames_placeOutline]
  simp only [unnamed]
  rcases outline with ⟨nodes, _ | ⟨⟨opened, begun, names⟩, frames⟩, nested⟩
  · rfl
  · cases opened with
    | block name =>
        change (if String.ofList text = "" ∨ String.ofList text = name then _ else _) =
          settled ((if String.ofList text = "" ∨ String.ofList text = name then _
            else _ : Except Template.Cause Outline).map placeOutline)
        split <;> rfl
    | _ => rfl

omit valid in
/-- The keyword of a structure is what stands behind the first three characters of its end tag. -/
theorem slice?_endTag (expected : Structure) :
    slice? ("end".toList ++ expected.keyword.toList) 3
        (byteLength ("end".toList ++ expected.keyword.toList)) =
      some expected.keyword.toList :=
  slice?_rest "end".toList expected.keyword.toList

omit valid in
theorem keyword_inj {kind expected : Structure} :
    kind.keyword.toList = expected.keyword.toList ↔ kind = expected := by
  refine ⟨fun same => ?_, fun same => same ▸ rfl⟩
  cases kind <;> cases expected <;> first | rfl | exact absurd same (by decide)

theorem close_place (expected : Structure) : (placeOutline outline).close line expected =
    settled ((outline.leave line expected).map placeOutline) := by
  rw [Parser.close, slice?_endTag, liftM_some, pure_bind, Outline.leave, frames_placeOutline]
  cases isOpen : outline.frames with
  | nil => rfl
  | cons frame frames =>
      have left := valid.tail isOpen
      rcases frame with ⟨opened, begun, bound⟩
      simp only [List.map_cons]
      change (if opened.kind.keyword.toList = _ then _ else _) = _
      simp only [keyword_inj]
      split
      · cases opened with
        | capture names =>
            exact congrArg (pure (f := Checked Template.Cause)) (assign_place left names)
        | _ => rfl
      · rfl

/-! ## Tags and outputs -/

theorem output_place : (placeOutline outline).output line text =
    applied outline line (Effect.ofOutput text) := by
  rw [Parser.output, Effect.ofOutput]
  split
  · rfl
  · exact tokensOf_then fun tokens fits => (applied_read valid fits .plain).symm

theorem tag_place : (placeOutline outline).tag line text =
    applied outline line (Effect.ofTag text) := by
  have cut : splitAtByte? ((offset? (!continuesTagName ·) text).getD (byteLength text)) text =
      some (text.takeWhile continuesTagName, text.dropWhile continuesTagName) := by
    have whole := splitAtByte?_append (text.takeWhile continuesTagName)
      (text.dropWhile continuesTagName)
    rwa [List.takeWhile_append_dropWhile, ← offset?_takeWhile] at whole
  rw [Parser.tag, cut, liftM_some, pure_bind, Effect.ofTag]
  have isName : String.ofList (text.takeWhile continuesTagName) = tagName text := rfl
  have isArgument : trim (text.dropWhile continuesTagName) = tagArgument text := rfl
  dsimp only
  rw [isName, isArgument]
  generalize tagName text = name
  generalize tagArgument text = argument
  have single (effect : Effect) : applied outline line [effect] =
      settled ((outline.apply line effect).map placeOutline) := applied_singleton effect
  split
  · rfl
  · exact extend_place valid argument
  · exact block_place valid argument
  · exact endBlock_place argument |>.trans (single (.leaveBlock _)).symm
  · exact openIf_place valid argument
  · exact elif_place valid argument
  · exact elseBranch_place.trans (single .otherwise).symm
  · exact openFor_place valid argument
  · exact set_place valid argument
  · exact openMacro_place valid argument
  · exact openCall_place valid argument
  · exact openFilter_place valid argument
  · exact openWith_place valid argument
  · exact openAutoescape_place valid argument
  · exact includeTemplate_place valid argument
  · exact importTemplate_place valid argument
  · exact fromImport_place valid argument
  · exact (close_place valid .conditional).trans (single (.leave _)).symm
  · exact (close_place valid .loop).trans (single (.leave _)).symm
  · exact (close_place valid .macroBody).trans (single (.leave _)).symm
  · exact (close_place valid .callBody).trans (single (.leave _)).symm
  · exact (close_place valid .filterBody).trans (single (.leave _)).symm
  · exact (close_place valid .capture).trans (single (.leave _)).symm
  · exact (close_place valid .bindings).trans (single (.leave _)).symm
  · exact (close_place valid .autoescape).trans (single (.leave _)).symm
  · rfl
  · simp only [applied]
    rfl

end Tags

end Lineage.Bytewise
