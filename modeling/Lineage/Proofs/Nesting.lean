import Lineage.Proofs.BlockNames

/-!
# Templates that are accepted

Whether a template is accepted depends on what each tag is by itself, on a few things that a
template may do only once, and on how its tags are nested.  Of a tag the nesting sees only its mark:
the structure that it begins, branches or ends.  A list of marks is well nested (`Nested`) if it can
be taken apart into structures, each with the mark that ends it, and with its branches directly
inside it.  `Mark.Runs` says the same with a stack, and each effect of a tag turns the open
structures of an outline as its mark turns the stack (`Outline.runs_of_apply`).
-/

namespace Lineage.Template

open Lineage.Text

/-! ## Marks -/

/-- What the end tag and the branch tags of an open structure depend on. -/
inductive Shape where
  | block (name : String)
  | conditional (inElse : Bool)
  | plain (kind : Structure)
deriving DecidableEq, Repr

/-- The kind of structure that has the shape. -/
def Shape.kind : Shape → Structure
  | .block _ => .block
  | .conditional _ => .conditional
  | .plain kind => kind

/-- What a tag does to the structures around it. -/
inductive Mark where
  | begins (shape : Shape)
  | elif
  | otherwise
  /-- Ends a block, which has the name if one is given. -/
  | endsBlock (name : String)
  | ends (kind : Structure)
deriving DecidableEq, Repr

/-- The name in the argument of a `block` tag. -/
def blockName? (argument : List Char) : Option String :=
  (Expression.ofText argument).toOption.bind fun expression =>
    expression.tokens.head?.bind Token.word?

/-- Whether the argument of a `set` tag has an equals sign outside brackets. -/
def assignsValue (argument : List Char) : Bool :=
  (Expression.ofText argument).toOption.any fun expression =>
    (findTopLevel? (·.isSign "=") 0 expression.tokens).isSome

/-- The mark of a tag with the given name and argument. -/
def Mark.ofTag? (name : String) (argument : List Char) : Option Mark :=
  match name with
  | "block" => (blockName? argument).map fun block => .begins (.block block)
  | "endblock" => some (.endsBlock (String.ofList argument))
  | "if" => some (.begins (.conditional false))
  | "elif" => some .elif
  | "else" => some .otherwise
  | "for" => some (.begins (.plain .loop))
  | "macro" => some (.begins (.plain .macroBody))
  | "call" => some (.begins (.plain .callBody))
  | "filter" => some (.begins (.plain .filterBody))
  | "set" => if assignsValue argument then none else some (.begins (.plain .capture))
  | "with" => some (.begins (.plain .bindings))
  | "autoescape" => some (.begins (.plain .autoescape))
  | "endif" => some (.ends .conditional)
  | "endfor" => some (.ends .loop)
  | "endmacro" => some (.ends .macroBody)
  | "endcall" => some (.ends .callBody)
  | "endfilter" => some (.ends .filterBody)
  | "endset" => some (.ends .capture)
  | "endwith" => some (.ends .bindings)
  | "endautoescape" => some (.ends .autoescape)
  | _ => none

/-- The mark of a segment.  Only a tag has one. -/
def Segment.mark? : Segment → Option Mark
  | .tag body _ => Mark.ofTag? (tagName body) (tagArgument body)
  | _ => none

/-- The mark ends a structure of the shape. -/
inductive Mark.Closes : Mark → Shape → Prop where
  | block {name given : String} (named : given = "" ∨ given = name) :
      Closes (.endsBlock given) (.block name)
  | kind (shape : Shape) : Closes (.ends shape.kind) shape

/-- The marks are well nested directly inside the structure `inside`, or outside all structures. -/
inductive Nested : Option Shape → List Mark → Prop where
  | nil {inside : Option Shape} : Nested inside []
  | body {inside : Option Shape} {shape : Shape} {body rest : List Mark} {close : Mark}
      (nested : Nested (some shape) body) (closes : close.Closes shape)
      (more : Nested inside rest) : Nested inside (.begins shape :: (body ++ close :: rest))
  | elif {rest : List Mark} (more : Nested (some (.conditional false)) rest) :
      Nested (some (.conditional false)) (.elif :: rest)
  | otherwise {rest : List Mark} (more : Nested (some (.conditional true)) rest) :
      Nested (some (.conditional false)) (.otherwise :: rest)
  | loopElse {rest : List Mark} (more : Nested (some (.plain .loop)) rest) :
      Nested (some (.plain .loop)) (.otherwise :: rest)

/-! ## Marks on a stack -/

namespace Mark

/-- The mark turns the open structures `shapes`, innermost first, into `after`. -/
inductive Turns : Mark → (shapes after : List Shape) → Prop where
  | begins (shape : Shape) (outer : List Shape) : Turns (.begins shape) outer (shape :: outer)
  | elif (outer : List Shape) :
      Turns .elif (.conditional false :: outer) (.conditional false :: outer)
  | otherwise (outer : List Shape) :
      Turns .otherwise (.conditional false :: outer) (.conditional true :: outer)
  | loopElse (outer : List Shape) :
      Turns .otherwise (.plain .loop :: outer) (.plain .loop :: outer)
  | closes {mark : Mark} {shape : Shape} (closes : mark.Closes shape) (outer : List Shape) :
      Turns mark (shape :: outer) outer

/-- The marks, one after another, turn the open structures `shapes` into `after`. -/
inductive Runs : List Mark → (shapes after : List Shape) → Prop where
  | nil (shapes : List Shape) : Runs [] shapes shapes
  | cons {mark : Mark} {marks : List Mark} {shapes middle after : List Shape}
      (turns : mark.Turns shapes middle) (runs : Runs marks middle after) :
      Runs (mark :: marks) shapes after

theorem turns_begins_iff {shape : Shape} {shapes after : List Shape} :
    Turns (.begins shape) shapes after ↔ after = shape :: shapes := by
  constructor
  · intro turns
    cases turns with
    | begins => rfl
    | closes closes => cases closes
  · rintro rfl
    exact .begins shape shapes

theorem turns_elif_iff {shapes after : List Shape} :
    Turns .elif shapes after ↔ after = shapes ∧ shapes.head? = some (.conditional false) := by
  constructor
  · intro turns
    cases turns with
    | elif => exact ⟨rfl, rfl⟩
    | closes closes => cases closes
  · rintro ⟨rfl, isHead⟩
    obtain ⟨outer, rfl⟩ := List.head?_eq_some_iff.mp isHead
    exact .elif outer

theorem turns_otherwise_iff {shapes after : List Shape} :
    Turns .otherwise shapes after ↔
      (∃ outer, shapes = .conditional false :: outer ∧ after = .conditional true :: outer) ∨
      (after = shapes ∧ shapes.head? = some (.plain .loop)) := by
  constructor
  · intro turns
    cases turns with
    | otherwise outer => exact Or.inl ⟨outer, rfl, rfl⟩
    | loopElse outer => exact Or.inr ⟨rfl, rfl⟩
    | closes closes => cases closes
  · rintro (⟨outer, rfl, rfl⟩ | ⟨rfl, isHead⟩)
    · exact .otherwise outer
    · obtain ⟨outer, rfl⟩ := List.head?_eq_some_iff.mp isHead
      exact .loopElse outer

theorem turns_endsBlock_iff {given : String} {shapes after : List Shape} :
    Turns (.endsBlock given) shapes after ↔
      ∃ name, shapes = .block name :: after ∧ (given = "" ∨ given = name) := by
  constructor
  · intro turns
    cases turns with
    | closes closes =>
        cases closes with
        | block named => exact ⟨_, rfl, named⟩
  · rintro ⟨name, rfl, named⟩
    exact .closes (.block named) after

theorem turns_ends_iff {kind : Structure} {shapes after : List Shape} :
    Turns (.ends kind) shapes after ↔ ∃ shape, shapes = shape :: after ∧ shape.kind = kind := by
  constructor
  · intro turns
    cases turns with
    | closes closes =>
        cases closes with
        | kind => exact ⟨_, rfl, rfl⟩
  · rintro ⟨shape, rfl, rfl⟩
    exact .closes (.kind shape) after

theorem runs_nil_iff {shapes after : List Shape} : Runs [] shapes after ↔ after = shapes := by
  constructor
  · rintro ⟨⟩
    rfl
  · rintro rfl
    exact .nil _

theorem runs_cons_iff {mark : Mark} {marks : List Mark} {shapes after : List Shape} :
    Runs (mark :: marks) shapes after ↔
      ∃ middle, mark.Turns shapes middle ∧ Runs marks middle after := by
  constructor
  · rintro (_ | ⟨turns, runs⟩)
    exact ⟨_, turns, runs⟩
  · rintro ⟨middle, turns, runs⟩
    exact .cons turns runs

theorem runs_append_iff {first second : List Mark} {shapes after : List Shape} :
    Runs (first ++ second) shapes after ↔
      ∃ middle, Runs first shapes middle ∧ Runs second middle after := by
  induction first generalizing shapes with
  | nil =>
      simp only [List.nil_append, runs_nil_iff]
      constructor
      · intro runs
        exact ⟨shapes, rfl, runs⟩
      · rintro ⟨_, rfl, runs⟩
        exact runs
  | cons mark marks ih =>
      simp only [List.cons_append, runs_cons_iff, ih]
      constructor
      · rintro ⟨turned, turns, middle, one, other⟩
        exact ⟨middle, ⟨turned, turns, one⟩, other⟩
      · rintro ⟨middle, ⟨turned, turns, one⟩, other⟩
        exact ⟨turned, turns, middle, one, other⟩

/-! ### Open blocks -/

/-- The name of the block that the mark begins. -/
def block? : Mark → Option String
  | .begins (.block name) => some name
  | _ => none

/-- Whether the mark begins a block. -/
def beginsBlock : Mark → Bool
  | .begins shape => shape.kind == .block
  | _ => false

/-- Whether the mark ends a block. -/
def endsABlock : Mark → Bool
  | .endsBlock _ => true
  | .ends kind => kind == .block
  | _ => false

/-- Of the marks more begin a block than end one. -/
def LeaveBlockOpen (marks : List Mark) : Prop :=
  marks.countP endsABlock < marks.countP beginsBlock

instance (marks : List Mark) : Decidable (LeaveBlockOpen marks) :=
  inferInstanceAs (Decidable (_ < _))

/-- The number of blocks among open structures. -/
def openBlocks (shapes : List Shape) : Nat :=
  shapes.countP (·.kind == .block)

theorem Turns.openBlocks_add {mark : Mark} {shapes after : List Shape}
    (turns : mark.Turns shapes after) :
    openBlocks after + [mark].countP endsABlock =
      openBlocks shapes + [mark].countP beginsBlock := by
  cases turns with
  | begins shape outer => simp [openBlocks, List.countP_cons, endsABlock, beginsBlock]
  | elif outer => rfl
  | otherwise outer => rfl
  | loopElse outer => rfl
  | closes closes outer =>
      cases closes with
      | block named => simp [openBlocks, endsABlock, beginsBlock, Shape.kind]
      | kind shape => simp [openBlocks, List.countP_cons, endsABlock, beginsBlock]

/-- A run opens as many blocks as its marks begin, and closes as many as they end. -/
theorem Runs.openBlocks_add {marks : List Mark} {shapes after : List Shape}
    (runs : Runs marks shapes after) :
    openBlocks after + marks.countP endsABlock =
      openBlocks shapes + marks.countP beginsBlock := by
  induction runs with
  | nil => rfl
  | @cons mark marks shapes middle after turns _ ih =>
      have first := turns.openBlocks_add
      rw [← List.singleton_append, List.countP_append, List.countP_append]
      omega

/-- A run of marks that neither begin nor end a block leaves the number of open blocks. -/
theorem Runs.openBlocks_eq {marks : List Mark} {shapes after : List Shape}
    (runs : Runs marks shapes after)
    (neither : ∀ mark ∈ marks, (mark.beginsBlock || mark.endsABlock) = false) :
    openBlocks after = openBlocks shapes := by
  have begins : marks.countP beginsBlock = 0 :=
    List.countP_eq_zero.mpr fun mark member => by simpa using (by simpa using neither mark member :
      mark.beginsBlock = false ∧ mark.endsABlock = false).1
  have ends : marks.countP endsABlock = 0 :=
    List.countP_eq_zero.mpr fun mark member => by simpa using (by simpa using neither mark member :
      mark.beginsBlock = false ∧ mark.endsABlock = false).2
  have counted := runs.openBlocks_add
  omega

/-! ### Structures -/

/-- What the shape of a structure is at its end.  A condition may have come to its `else`. -/
inductive Becomes : (inside last : Option Shape) → Prop where
  | same (inside : Option Shape) : Becomes inside inside
  | branched : Becomes (some (.conditional false)) (some (.conditional true))

/-- What ends a structure at its beginning ends it later too. -/
theorem Becomes.closes {shape : Shape} {last : Option Shape} {close : Mark}
    (becomes : Becomes (some shape) last) (closes : close.Closes shape) :
    ∃ final, last = some final ∧ close.Closes final := by
  cases becomes with
  | same => exact ⟨shape, rfl, closes⟩
  | branched =>
      cases closes
      exact ⟨_, rfl, .kind (.conditional true)⟩

end Mark

/-- Well nested marks run inside any structures and leave these as they are. -/
theorem Nested.runs_append {inside : Option Shape} {body rest : List Mark}
    {outer after : List Shape} (nested : Nested inside body)
    (next : ∀ last, Mark.Becomes inside last → Mark.Runs rest (last.toList ++ outer) after) :
    Mark.Runs (body ++ rest) (inside.toList ++ outer) after := by
  induction nested generalizing outer rest with
  | nil => exact next _ (.same _)
  | @body inside shape body _ close _ closes _ ihBody ihMore =>
      rw [List.cons_append, List.append_assoc, List.cons_append]
      apply Mark.Runs.cons (.begins shape _)
      refine ihBody fun last becomes => ?_
      obtain ⟨final, rfl, closesFinal⟩ := becomes.closes closes
      exact .cons (.closes closesFinal _) (ihMore next)
  | elif _ ih => exact .cons (.elif outer) (ih next)
  | otherwise _ ih =>
      apply Mark.Runs.cons (.otherwise outer)
      apply ih
      intro last becomes
      cases becomes
      exact next _ .branched
  | loopElse _ ih => exact .cons (.loopElse outer) (ih next)

/-- The marks are well nested inside the open structures, innermost first, and end all of them. -/
def NestedInside : List Shape → List Mark → Prop
  | [], marks => Nested none marks
  | shape :: outer, marks => ∃ body close rest, marks = body ++ close :: rest ∧
      Nested (some shape) body ∧ close.Closes shape ∧ NestedInside outer rest

/-- A structure that begins and ends may stand in front of marks that are well nested. -/
theorem NestedInside.body {shape : Shape} {outer : List Shape} {marks : List Mark}
    (inside : NestedInside (shape :: outer) marks) :
    NestedInside outer (.begins shape :: marks) := by
  obtain ⟨body, close, rest, rfl, nested, closes, more⟩ := inside
  cases outer with
  | nil => exact Nested.body nested closes more
  | cons shape outer =>
      obtain ⟨second, last, rest, rfl, nestedSecond, closesSecond, more⟩ := more
      exact ⟨_, last, rest, by simp, Nested.body nested closes nestedSecond, closesSecond, more⟩

/-- A branch may stand in front of marks that are well nested. -/
theorem NestedInside.branch {mark : Mark} {shape later : Shape} {outer : List Shape}
    {marks : List Mark} (inside : NestedInside (later :: outer) marks)
    (branch : ∀ {body}, Nested (some later) body → Nested (some shape) (mark :: body))
    (closes : ∀ {close : Mark}, close.Closes later → close.Closes shape) :
    NestedInside (shape :: outer) (mark :: marks) := by
  obtain ⟨body, close, rest, rfl, nested, closesLater, more⟩ := inside
  exact ⟨mark :: body, close, rest, rfl, branch nested, closes closesLater, more⟩

/-- Marks that leave nothing open end what is open, and are well nested up to there. -/
theorem Mark.Runs.nestedInside {marks : List Mark} {shapes : List Shape}
    (runs : Mark.Runs marks shapes []) : NestedInside shapes marks := by
  induction marks generalizing shapes with
  | nil =>
      cases runs
      exact .nil
  | cons mark marks ih =>
      cases runs with
      | cons turns runs =>
          have more := ih runs
          cases turns with
          | begins shape => exact more.body
          | elif outer => exact more.branch .elif id
          | otherwise outer =>
              apply more.branch .otherwise
              intro close closes
              cases closes
              exact .kind (.conditional false)
          | loopElse outer => exact more.branch .loopElse id
          | closes closes outer => exact ⟨[], mark, marks, rfl, .nil, closes, more⟩

/-- Marks are well nested if they can be run on a stack from nothing open to nothing open. -/
theorem nested_iff_runs {marks : List Mark} : Nested none marks ↔ Mark.Runs marks [] [] := by
  constructor
  · intro nested
    rw [← List.append_nil marks]
    have runs : ∀ last, Mark.Becomes none last → Mark.Runs [] (last.toList ++ []) [] := by
      rintro _ ⟨⟩
      exact .nil []
    exact nested.runs_append runs
  · exact Mark.Runs.nestedInside

end Lineage.Template
