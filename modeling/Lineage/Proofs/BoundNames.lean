import Lineage.Proofs.Acceptance

/-!
# Which names are bound at a place

A name is bound at a place of a template by a structure that is open there: by the tag of the
structure, or by an assignment in its body, provided that no structure inside of it holds the
assignment (`BoundBehind`).  Which structures are open is told from the effects in front of the
place, by counting how many structures are opened and closed.

The frames of an outline agree with this (`Follows`): each one belongs to a structure that is open,
each open structure has its frame, and what is bound in a frame is bound by the structure.
-/

namespace Lineage.Template

open Lineage.Text

/-! ## Open structures -/

namespace Effect

/-- The structure that the effect opens, and the names that are bound in it. -/
def opens? : Effect → Option (Opened × List String)
  | .enter opened names => some (opened, names)
  | .define block => some (.block block, [])
  | _ => none

/-- Whether the effect opens a structure. -/
def isOpening (effect : Effect) : Bool :=
  effect.opens?.isSome

/-- Whether the effect closes a structure. -/
def isClosing : Effect → Bool
  | .leaveBlock _ | .leave _ => true
  | _ => false

theorem isClosing_eq_false {effect : Effect} (opening : effect.isOpening = true) :
    effect.isClosing = false := by
  cases effect with
  | leaveBlock name => cases opening
  | leave kind => cases opening
  | _ => rfl

end Effect

/-- A structure that has been opened: what its tag says, and the effects in it so far. -/
structure Scope where
  opened : Opened
  names : List String
  inside : List Effect

/-- The structure is open behind the effects, and so are `depth` structures inside of it. -/
structure Scope.IsOpen (scope : Scope) (depth : Nat) (effects : List Effect) : Prop where
  begun : ∃ before opening, effects = before ++ opening :: scope.inside ∧
    opening.opens? = some (scope.opened, scope.names)
  stays : ∀ start, start <+: scope.inside →
    start.countP Effect.isClosing ≤ start.countP Effect.isOpening
  depth : scope.inside.countP Effect.isOpening = scope.inside.countP Effect.isClosing + depth

/-- The effect, which follows the effects `ahead`, assigns the name.  A body that is captured is
assigned when it ends. -/
inductive Assigns (ahead : List Effect) (name : String) : Effect → Prop
  | bind {names : List String} (member : name ∈ names) : Assigns ahead name (.bind names)
  | capture {scope : Scope} {names : List String} (isOpen : scope.IsOpen 0 ahead)
      (captures : scope.opened = .capture names) (member : name ∈ names) :
      Assigns ahead name (.leave .capture)

/-- No structure that holds assignments is open behind the effects. -/
def HoldNothing (effects : List Effect) : Prop :=
  ∀ (scope : Scope) (depth : Nat), scope.IsOpen depth effects →
    scope.opened.kind.holdsAssignments = false

/-- The structure binds the name: its tag does, or an assignment in it that no structure inside of
it holds. -/
def Scope.Binds (scope : Scope) (name : String) : Prop :=
  name ∈ scope.names ∨ ∃ ahead effect later, scope.inside = ahead ++ effect :: later ∧
    Assigns ahead name effect ∧ HoldNothing ahead

/-- Behind the effects the name is bound by an open loop, macro, call or `with`. -/
def BoundBehind (effects : List Effect) (name : String) : Prop :=
  ∃ (scope : Scope) (depth : Nat), scope.IsOpen depth effects ∧
    scope.opened.kind.holdsAssignments = true ∧ scope.Binds name

namespace Scope

variable {scope inner outer : Scope} {depth innerDepth outerDepth : Nat} {effects : List Effect}
  {effect : Effect}

/-- A structure binds what it has bound so far, and what one more effect assigns in it. -/
theorem binds_concat_iff {name : String} :
    ({ scope with inside := scope.inside ++ [effect] } : Scope).Binds name ↔
      scope.Binds name ∨ (Assigns scope.inside name effect ∧ HoldNothing scope.inside) := by
  constructor
  · rintro (ofTag | ⟨ahead, assignment, later, isInside, assigned⟩)
    · exact Or.inl (Or.inl ofTag)
    · rcases List.eq_nil_or_concat later with rfl | ⟨later, last, rfl⟩
      · obtain ⟨rfl, rfl⟩ : scope.inside = ahead ∧ effect = assignment := by
          simpa using List.append_inj' isInside rfl
        exact Or.inr assigned
      · have parts : scope.inside ++ [effect] = (ahead ++ assignment :: later) ++ [last] := by
          simpa using isInside
        exact Or.inl (Or.inr ⟨ahead, assignment, later, (List.append_inj' parts rfl).1, assigned⟩)
  · rintro ((ofTag | ⟨ahead, assignment, later, isInside, assigned⟩) | assigned)
    · exact Or.inl ofTag
    · refine Or.inr ⟨ahead, assignment, later ++ [effect], ?_, assigned⟩
      rw [isInside, List.append_assoc, List.cons_append]
    · exact Or.inr ⟨scope.inside, effect, [], rfl, assigned⟩

/-- A structure is open behind one more effect that opens it, or that leaves it open. -/
theorem isOpen_concat_iff : scope.IsOpen depth (effects ++ [effect]) ↔
    (scope.inside = [] ∧ effect.opens? = some (scope.opened, scope.names) ∧ depth = 0) ∨
      ∃ inside before, scope.inside = inside ++ [effect] ∧
        ({ scope with inside := inside } : Scope).IsOpen before effects ∧
        depth + [effect].countP Effect.isClosing = before + [effect].countP Effect.isOpening := by
  rcases scope with ⟨opened, names, inside⟩
  constructor
  · rintro ⟨⟨front, opening, whole, opens⟩, stays, counted⟩
    dsimp only at whole opens stays counted
    rcases List.eq_nil_or_concat inside with rfl | ⟨inside, last, rfl⟩
    · obtain ⟨rfl, rfl⟩ : effects = front ∧ effect = opening := by simpa using whole
      simp only [List.countP_nil] at counted
      exact Or.inl ⟨rfl, opens, by omega⟩
    · rw [List.concat_eq_append] at *
      have parts : effects ++ [effect] = (front ++ opening :: inside) ++ [last] := by
        simpa using whole
      obtain ⟨rfl, rfl⟩ : effects = front ++ opening :: inside ∧ effect = last := by
        simpa using List.append_inj' parts rfl
      have inFront := stays inside (List.prefix_append _ _)
      rw [List.countP_append, List.countP_append] at counted
      refine Or.inr ⟨inside, inside.countP Effect.isOpening - inside.countP Effect.isClosing, rfl,
        ⟨⟨front, opening, rfl, opens⟩, ?_, ?_⟩, ?_⟩
      · exact fun start isStart => stays start (isStart.trans (List.prefix_append _ _))
      · dsimp only
        omega
      · omega
  · rintro (⟨isNone, opens, rfl⟩ | ⟨inside', before, isInside, ⟨⟨front, opening, rfl, opens⟩,
      stays, counted⟩, balance⟩)
    · dsimp only at isNone
      subst isNone
      exact ⟨⟨effects, effect, rfl, opens⟩, by simp, rfl⟩
    · dsimp only at isInside stays counted
      subst isInside
      have whole : (inside' ++ [effect]).countP Effect.isOpening =
          (inside' ++ [effect]).countP Effect.isClosing + depth := by
        rw [List.countP_append, List.countP_append]
        omega
      refine ⟨⟨front, opening, by simp, opens⟩, ?_, whole⟩
      intro start isStart
      rcases List.prefix_concat_iff.mp isStart with rfl | earlier
      · rw [whole]
        omega
      · exact stays start earlier

/-- A structure that is open inside another one is open, and fewer structures are inside of it. -/
theorem IsOpen.of_inside (isOuter : outer.IsOpen outerDepth effects)
    (isInner : inner.IsOpen innerDepth outer.inside) :
    inner.IsOpen innerDepth effects ∧ innerDepth < outerDepth := by
  obtain ⟨⟨front, opening, rfl, _⟩, staysOuter, countedOuter⟩ := isOuter
  obtain ⟨⟨between, begins, whole, opens⟩, stays, counted⟩ := isInner
  refine ⟨⟨⟨front ++ opening :: between, begins, by simp [whole], opens⟩, stays, counted⟩, ?_⟩
  have isOpening : begins.isOpening = true := by
    rw [Effect.isOpening, opens]
    rfl
  have inFront := staysOuter between ⟨begins :: inner.inside, whole.symm⟩
  rw [whole] at countedOuter
  simp only [List.countP_append, List.countP_cons, isOpening,
    Effect.isClosing_eq_false isOpening] at countedOuter
  simp only [Bool.false_eq_true, if_true, if_false] at countedOuter
  omega

theorem eq_of_opening {opening : Effect} (opens : opening.opens? = some (outer.opened, outer.names))
    (opensInner : opening.opens? = some (inner.opened, inner.names))
    (sameInside : outer.inside = inner.inside) : outer = inner := by
  have sameTag := opens.symm.trans opensInner
  cases outer
  cases inner
  cases sameInside
  cases sameTag
  rfl

/-- Of two open structures one is inside of the other, or they are the same. -/
theorem IsOpen.nested (isOuter : outer.IsOpen outerDepth effects)
    (isInner : inner.IsOpen innerDepth effects) :
    inner.IsOpen innerDepth outer.inside ∨ outer.IsOpen outerDepth inner.inside ∨
      outer = inner := by
  obtain ⟨⟨front, opening, rfl, opens⟩, staysOuter, countedOuter⟩ := isOuter
  obtain ⟨⟨before, begins, whole, opensInner⟩, stays, counted⟩ := isInner
  rw [List.append_eq_append_iff] at whole
  rcases whole with ⟨between, _, isRest⟩ | ⟨between, _, isRest⟩
  · cases between with
    | nil =>
        rw [List.nil_append, List.cons.injEq] at isRest
        obtain ⟨rfl, sameInside⟩ := isRest
        exact Or.inr (Or.inr (eq_of_opening opens opensInner sameInside))
    | cons first between =>
        rw [List.cons_append, List.cons.injEq] at isRest
        exact Or.inl ⟨⟨between, begins, isRest.2, opensInner⟩, stays, counted⟩
  · cases between with
    | nil =>
        rw [List.nil_append, List.cons.injEq] at isRest
        obtain ⟨rfl, sameInside⟩ := isRest
        exact Or.inr (Or.inr (eq_of_opening opens opensInner sameInside.symm))
    | cons first between =>
        rw [List.cons_append, List.cons.injEq] at isRest
        exact Or.inr (Or.inl ⟨⟨between, opening, isRest.2, opens⟩, staysOuter, countedOuter⟩)

/-- Of two open structures the one with fewer structures inside is inside of the other. -/
theorem IsOpen.within (isOuter : outer.IsOpen outerDepth effects)
    (isInner : inner.IsOpen innerDepth effects) (less : innerDepth < outerDepth) :
    inner.IsOpen innerDepth outer.inside := by
  rcases isOuter.nested isInner with isWithin | isAround | rfl
  · exact isWithin
  · exact absurd (isInner.of_inside isAround).2 (Nat.lt_asymm less)
  · have same := isInner.depth.symm.trans isOuter.depth
    omega

/-- One structure is open inside of which so many are open. -/
theorem IsOpen.unique (isOpen : scope.IsOpen depth effects) (isOther : outer.IsOpen depth effects) :
    scope = outer := by
  rcases isOpen.nested isOther with isWithin | isAround | same
  · exact absurd (isOpen.of_inside isWithin).2 (Nat.lt_irrefl depth)
  · exact absurd (isOther.of_inside isAround).2 (Nat.lt_irrefl depth)
  · exact same

end Scope

/-! ## The names that tags bind -/

/-- If the effect opens a structure in which names are bound, it is one that holds assignments. -/
def Effect.IsScoped (effect : Effect) : Prop :=
  ∀ opened names, effect = .enter opened names → names ≠ [] →
    opened.kind.holdsAssignments = true

section Tags

variable {opened : Opened} {names : List String} {text : List Char}

/-- A refusal opens nothing. -/
theorem enter_of_mem_orRefuse {outcome : Except Cause (List Effect)}
    (member : .enter opened names ∈ Effect.orRefuse outcome) :
    ∃ effects, outcome = .ok effects ∧ .enter opened names ∈ effects := by
  cases outcome with
  | error cause => simp [Effect.orRefuse] at member
  | ok effects => exact ⟨effects, rfl, member⟩

theorem names_of_enter_test
    (member : .enter opened names ∈ testEffects [.enter (.conditional [] false) []] text) :
    names = [] := by
  rcases List.mem_append.mp member with here | later
  · cases List.mem_singleton.mp here
    rfl
  · obtain ⟨effects, accepted, inEffects⟩ := enter_of_mem_orRefuse later
    obtain ⟨expression, _, accepted⟩ := bind_eq_ok_iff.mp accepted
    split at accepted
    · cases accepted
    · cases accepted
      simp at inEffects

theorem names_of_enter_set
    (member : .enter opened names ∈ Effect.orRefuse (setEffects text)) : names = [] := by
  obtain ⟨effects, accepted, inEffects⟩ := enter_of_mem_orRefuse member
  obtain ⟨expression, _, accepted⟩ := bind_eq_ok_iff.mp accepted
  split at accepted
  · dsimp only at accepted
    split at accepted
    · cases accepted
    · cases accepted
      simp only [List.mem_cons, reduceCtorEq, false_or] at inEffects
      split at inEffects
      · cases inEffects
      · split at inEffects
        · simp at inEffects
        · simp at inEffects
  · dsimp only at accepted
    split at accepted
    · cases accepted
      rcases List.mem_append.mp inEffects with ofFilters | isEnter
      · split at ofFilters
        · cases ofFilters
        · simp at ofFilters
      · cases List.mem_singleton.mp isEnter
        rfl
    · cases accepted

theorem names_of_enter_filter
    (member : .enter opened names ∈ Effect.orRefuse (filterEffects text)) : names = [] := by
  obtain ⟨effects, accepted, inEffects⟩ := enter_of_mem_orRefuse member
  obtain ⟨expression, _, accepted⟩ := bind_eq_ok_iff.mp accepted
  split at accepted
  · cases accepted
    simp only [List.mem_cons, reduceCtorEq, false_or, List.not_mem_nil, or_false,
      Effect.enter.injEq] at inEffects
    exact inEffects.2
  · cases accepted

theorem names_of_enter_autoescape
    (member : .enter opened names ∈ Effect.orRefuse (autoescapeEffects text)) : names = [] := by
  obtain ⟨effects, accepted, inEffects⟩ := enter_of_mem_orRefuse member
  obtain ⟨expression, _, accepted⟩ := bind_eq_ok_iff.mp accepted
  cases accepted
  simp only [List.mem_cons, reduceCtorEq, false_or, List.not_mem_nil, or_false,
    Effect.enter.injEq] at inEffects
  exact inEffects.2

/-- Only the tags of loops, macros, calls and `with` bind names. -/
theorem isScoped_of_mem_ofTag {effect : Effect} (member : effect ∈ Effect.ofTag text) :
    effect.IsScoped := by
  rintro opened names rfl filled
  have belongs := mayHave_ofTag text _ member
  simp only [Effect.belongsTo, Bool.and_eq_true, bne_iff_ne, beq_iff_eq] at belongs
  obtain ⟨noBlock, named⟩ := belongs
  cases opened with
  | block name => exact absurd rfl noBlock
  | conditional tested inElse =>
      rw [ofTag_if named] at member
      exact absurd (names_of_enter_test member) filled
  | filterBody =>
      simp only [Effect.ofTag, named] at member
      exact absurd (names_of_enter_filter member) filled
  | capture captured =>
      simp only [Effect.ofTag, named] at member
      exact absurd (names_of_enter_set member) filled
  | autoescape =>
      simp only [Effect.ofTag, named] at member
      exact absurd (names_of_enter_autoescape member) filled
  | _ => rfl

theorem Segment.isScoped (part : Segment) : ∀ effect ∈ part.effects, effect.IsScoped := by
  intro effect member
  cases part with
  | tag body line => exact isScoped_of_mem_ofTag member
  | output body line =>
      rintro opened names rfl
      have belongs := mayHave_ofOutput "" body _ member
      cases opened <;> simp [Effect.belongsTo, Opened.kind, Structure.keyword] at belongs
  | _ => cases member

end Tags

/-! ## Open structures and frames -/

/-- The structure as its tag opens it. -/
def Opened.atStart : Opened → Opened
  | .conditional _ _ => .conditional [] false
  | opened => opened

theorem Opened.kind_atStart (opened : Opened) : opened.atStart.kind = opened.kind := by
  cases opened <;> rfl

theorem Opened.kind_eq {opened other : Opened} (same : opened.atStart = other.atStart) :
    opened.kind = other.kind := by
  rw [← opened.kind_atStart, same, other.kind_atStart]

theorem Opened.eq_capture {opened : Opened} {names : List String}
    (same : opened.atStart = .capture names) : opened = .capture names := by
  cases opened with
  | conditional tested inElse => cases same
  | _ => exact same

/-- The frame is that of the open structure. -/
structure Scope.Has (scope : Scope) (frame : Frame) : Prop where
  same : frame.opened.atStart = scope.opened.atStart
  binds : ∀ name, name ∈ frame.bound ↔
    frame.opened.kind.holdsAssignments = true ∧ scope.Binds name

/-- The frames, which are listed innermost first, are those of the structures that are open behind
the effects. -/
structure Follows (effects : List Effect) (frames : List Frame) : Prop where
  scopeOf : ∀ depth frame, frames[depth]? = some frame →
    ∃ scope : Scope, scope.IsOpen depth effects ∧ scope.Has frame
  frameOf : ∀ depth (scope : Scope), scope.IsOpen depth effects →
    ∃ frame, frames[depth]? = some frame ∧ frame.opened.atStart = scope.opened.atStart

namespace Follows

variable {effects : List Effect} {frames frames' : List Frame} {effect : Effect}

theorem nil : Follows [] [] := by
  constructor
  · intro depth frame isFrame
    cases isFrame
  · rintro depth scope ⟨⟨before, opening, whole, _⟩, _, _⟩
    simp at whole

/-- Assignments reach a structure if no frame inside of it holds them. -/
theorem holdNothing_iff (follows : Follows effects frames) {scope : Scope} {depth : Nat}
    (isOpen : scope.IsOpen depth effects) : HoldNothing scope.inside ↔
      ∀ (inner : Nat) (frame : Frame), inner < depth → frames[inner]? = some frame →
        frame.opened.kind.holdsAssignments = false := by
  constructor
  · intro none inner frame less isFrame
    obtain ⟨innerScope, isInner, same, _⟩ := follows.scopeOf inner frame isFrame
    rw [Opened.kind_eq same]
    exact none innerScope inner (isOpen.within isInner less)
  · intro none inner innerDepth isInner
    obtain ⟨isOpenInner, less⟩ := isOpen.of_inside isInner
    obtain ⟨frame, isFrame, same⟩ := follows.frameOf innerDepth inner isOpenInner
    rw [← Opened.kind_eq same]
    exact none innerDepth frame less isFrame

/-- An effect opens a structure. -/
theorem enter (follows : Follows effects frames) {opened : Opened} {names : List String}
    (opens : effect.opens? = some (opened, names))
    (holds : names ≠ [] → opened.kind.holdsAssignments = true) (line : Nat) :
    Follows (effects ++ [effect]) (⟨opened, line, names⟩ :: frames) := by
  have isOpening : effect.isOpening = true := by
    rw [Effect.isOpening, opens]
    rfl
  have noClosing := Effect.isClosing_eq_false isOpening
  have noAssignment (ahead : List Effect) (name : String) : ¬ Assigns ahead name effect := by
    rintro (_ | _)
    · cases opens
    · cases opens
  constructor
  · intro depth frame isFrame
    cases depth with
    | zero =>
        cases isFrame
        refine ⟨⟨opened, names, []⟩, Scope.isOpen_concat_iff.mpr (Or.inl ⟨rfl, opens, rfl⟩), rfl,
          ?_⟩
        intro name
        constructor
        · exact fun member => ⟨holds (List.ne_nil_of_mem member), Or.inl member⟩
        · rintro ⟨_, member | ⟨_, _, _, none, _⟩⟩
          · exact member
          · simp at none
    | succ depth =>
        obtain ⟨scope, isOpen, same, binds⟩ := follows.scopeOf depth frame isFrame
        refine ⟨{ scope with inside := scope.inside ++ [effect] }, Scope.isOpen_concat_iff.mpr
          (Or.inr ⟨scope.inside, depth, rfl, isOpen, ?_⟩), same, ?_⟩
        · simp [isOpening, noClosing]
        · intro name
          rw [binds, Scope.binds_concat_iff]
          simp [noAssignment]
  · intro depth scope isOpen
    rcases Scope.isOpen_concat_iff.mp isOpen with ⟨_, opensHere, rfl⟩ |
      ⟨_, before, _, wasOpen, balance⟩
    · cases opens.symm.trans opensHere
      exact ⟨_, rfl, rfl⟩
    · simp only [List.countP_singleton, isOpening, noClosing, if_true, Bool.false_eq_true, if_false,
        Nat.add_zero] at balance
      subst balance
      obtain ⟨frame, isFrame, same⟩ := follows.frameOf before _ wasOpen
      exact ⟨frame, isFrame, same⟩

/-- An effect leaves open structures open, apart from the innermost ones that it closes, and may
assign names in them. -/
theorem advance (follows : Follows effects frames) (noOpening : effect.isOpening = false)
    (same : frames'.map (fun frame => frame.opened.atStart) =
      (frames.drop ([effect].countP Effect.isClosing)).map (fun frame => frame.opened.atStart))
    (bound : ∀ depth frame frame' (scope : Scope),
      frames[depth + [effect].countP Effect.isClosing]? = some frame →
        frames'[depth]? = some frame' →
          scope.IsOpen (depth + [effect].countP Effect.isClosing) effects →
            ∀ name, name ∈ frame'.bound ↔ name ∈ frame.bound ∨
              (frame.opened.kind.holdsAssignments = true ∧ Assigns scope.inside name effect ∧
                HoldNothing scope.inside)) :
    Follows (effects ++ [effect]) frames' := by
  have alike (depth : Nat) : frames'[depth]?.map (fun frame => frame.opened.atStart) =
      frames[depth + [effect].countP Effect.isClosing]?.map
        (fun frame => frame.opened.atStart) := by
    have here := congrArg (·[depth]?) same
    simpa [Nat.add_comm] using here
  have neither : [effect].countP Effect.isOpening = 0 := by simp [noOpening]
  constructor
  · intro depth frame' isFrame'
    have isFrame := alike depth
    rw [isFrame', Option.map_some, eq_comm, Option.map_eq_some_iff] at isFrame
    obtain ⟨frame, isFrame, sameFrame⟩ := isFrame
    obtain ⟨scope, isOpen, sameScope, binds⟩ := follows.scopeOf _ frame isFrame
    refine ⟨{ scope with inside := scope.inside ++ [effect] }, Scope.isOpen_concat_iff.mpr
      (Or.inr ⟨scope.inside, _, rfl, isOpen, ?_⟩), sameFrame.symm.trans sameScope, ?_⟩
    · rw [neither, Nat.add_zero]
    · intro name
      rw [bound depth frame frame' scope isFrame isFrame' isOpen, binds, Scope.binds_concat_iff,
        ← Opened.kind_eq sameFrame, and_or_left]
  · intro depth scope isOpen
    rcases Scope.isOpen_concat_iff.mp isOpen with ⟨_, opens, _⟩ | ⟨_, before, _, wasOpen, balance⟩
    · rw [Effect.isOpening, opens] at noOpening
      cases noOpening
    · rw [neither, Nat.add_zero] at balance
      subst balance
      obtain ⟨frame, isFrame, sameFrame⟩ := follows.frameOf _ _ wasOpen
      have isFrame' := alike depth
      rw [isFrame, Option.map_some, Option.map_eq_some_iff] at isFrame'
      obtain ⟨frame', isFrame', sameFrame'⟩ := isFrame'
      exact ⟨frame', isFrame', sameFrame'.trans sameFrame⟩

/-- An effect that opens and assigns nothing leaves what it does not close as it is. -/
theorem quiet (follows : Follows effects frames) (noOpening : effect.isOpening = false)
    (noAssignment : ∀ name (scope : Scope) depth, scope.IsOpen depth effects →
      ¬ Assigns scope.inside name effect)
    (same : frames'.map (fun frame => (frame.opened.atStart, frame.bound)) =
      (frames.drop ([effect].countP Effect.isClosing)).map
        (fun frame => (frame.opened.atStart, frame.bound))) :
    Follows (effects ++ [effect]) frames' := by
  apply follows.advance noOpening
  · have opened := congrArg (List.map Prod.fst) same
    simpa [Function.comp_def] using opened
  · intro depth frame frame' scope isFrame isFrame' isOpen name
    have here := congrArg (·[depth]?) same
    rw [Nat.add_comm] at isFrame
    simp only [List.getElem?_map, List.getElem?_drop, isFrame, isFrame', Option.map_some,
      Option.some.injEq, Prod.mk.injEq] at here
    simp [here.2, noAssignment name scope _ isOpen]

end Follows

/-- Names are bound in the innermost frame that holds assignments. -/
theorem bindInnermost?_cases {names : List String} {frames frames' : List Frame}
    (binds : bindInnermost? names frames = some frames') :
    frames'.map (fun frame => frame.opened.atStart) =
        frames.map (fun frame => frame.opened.atStart) ∧
      ∀ (depth : Nat) (frame frame' : Frame), frames[depth]? = some frame →
        frames'[depth]? = some frame' → ∀ name, name ∈ frame'.bound ↔ name ∈ frame.bound ∨
          (frame.opened.kind.holdsAssignments = true ∧ name ∈ names ∧
            ∀ (inner : Nat) (other : Frame), inner < depth →
              frames[inner]? = some other → other.opened.kind.holdsAssignments = false) := by
  induction frames generalizing frames' with
  | nil => cases binds
  | cons first frames ih =>
      rw [bindInnermost?] at binds
      split at binds
      · rename_i holds
        cases binds
        refine ⟨rfl, ?_⟩
        intro depth frame frame' isFrame isFrame' name
        cases depth with
        | zero =>
            cases isFrame
            cases isFrame'
            simp [holds]
        | succ depth =>
            cases isFrame.symm.trans isFrame'
            constructor
            · exact Or.inl
            · rintro (before | ⟨_, _, none⟩)
              · exact before
              · rw [none 0 first (Nat.succ_pos depth) rfl] at holds
                cases holds
      · rename_i holds
        obtain ⟨inner, isInner, rfl⟩ := Option.map_eq_some_iff.mp binds
        obtain ⟨same, bound⟩ := ih isInner
        refine ⟨by simp [same], ?_⟩
        intro depth frame frame' isFrame isFrame' name
        cases depth with
        | zero =>
            cases isFrame
            cases isFrame'
            simp [holds]
        | succ depth =>
            rw [bound depth frame frame' isFrame isFrame' name]
            refine or_congr_right (and_congr_right fun _ => and_congr_right fun _ => ?_)
            constructor
            · intro none position other less isOther
              cases position with
              | zero =>
                  cases isOther
                  simpa using holds
              | succ position => exact none position other (Nat.lt_of_succ_lt_succ less) isOther
            · intro none position other less isOther
              exact none (position + 1) other (Nat.succ_lt_succ less) isOther

/-- Names are bound nowhere if no frame holds assignments. -/
theorem holdsAssignments_of_bindInnermost?_eq_none {names : List String} {frames : List Frame}
    (none : bindInnermost? names frames = none) :
    ∀ frame ∈ frames, frame.opened.kind.holdsAssignments = false := by
  induction frames with
  | nil => exact List.forall_mem_nil _
  | cons first frames ih =>
      rw [bindInnermost?] at none
      split at none
      · cases none
      · rename_i holds
        exact List.forall_mem_cons.mpr ⟨by simpa using holds, ih (Option.map_eq_none_iff.mp none)⟩

namespace Follows

variable {effects : List Effect} {frames frames' : List Frame} {names : List String}
  {outline after : Outline} {line : Nat}

/-- Assignments behind the innermost frames, which hold none, reach a structure if no frame between
holds them. -/
theorem holdNothing_iff_drop (follows : Follows effects frames) {count depth : Nat} {scope : Scope}
    (closed : ∀ frame ∈ frames.take count, frame.opened.kind.holdsAssignments = false)
    (isOpen : scope.IsOpen (depth + count) effects) :
    HoldNothing scope.inside ↔ ∀ (inner : Nat) (other : Frame), inner < depth →
      (frames.drop count)[inner]? = some other →
        other.opened.kind.holdsAssignments = false := by
  rw [follows.holdNothing_iff isOpen]
  constructor
  · intro none inner other less isOther
    rw [List.getElem?_drop] at isOther
    exact none _ other (by omega) isOther
  · intro none inner other less isOther
    by_cases isClosed : inner < count
    · apply closed other
      rw [List.mem_iff_getElem?]
      exact ⟨inner, by rw [List.getElem?_take_of_lt isClosed, isOther]⟩
    · apply none (inner - count) other (by omega)
      rw [List.getElem?_drop, Nat.add_sub_cancel' (Nat.le_of_not_lt isClosed), isOther]

/-- An effect assigns names behind what it closes. -/
theorem bind {effect : Effect} (follows : Follows effects frames)
    (noOpening : effect.isOpening = false)
    (isFrames : outline.frames = frames.drop ([effect].countP Effect.isClosing))
    (closed : ∀ frame ∈ frames.take ([effect].countP Effect.isClosing),
      frame.opened.kind.holdsAssignments = false)
    (assigns : ∀ name (scope : Scope) depth, scope.IsOpen depth effects →
      [effect].countP Effect.isClosing ≤ depth →
        (Assigns scope.inside name effect ↔ name ∈ names)) :
    Follows (effects ++ [effect]) (outline.bind line names).frames := by
  rw [Outline.bind, isFrames]
  split
  · rename_i bound binds
    obtain ⟨same, isBound⟩ := bindInnermost?_cases binds
    apply follows.advance noOpening same
    intro depth frame frame' scope isFrame isFrame' isOpen name
    have isBehind : (frames.drop ([effect].countP Effect.isClosing))[depth]? = some frame := by
      rw [List.getElem?_drop, Nat.add_comm, isFrame]
    rw [isBound depth frame frame' isBehind isFrame' name,
      assigns name scope _ isOpen (Nat.le_add_left _ _),
      follows.holdNothing_iff_drop closed isOpen]
  · rename_i none
    apply follows.advance noOpening (by rw [Outline.add, isFrames])
    intro depth frame frame' scope isFrame isFrame' isOpen name
    have isBehind : (frames.drop ([effect].countP Effect.isClosing))[depth]? = some frame := by
      rw [List.getElem?_drop, Nat.add_comm, isFrame]
    have holdsNone := holdsAssignments_of_bindInnermost?_eq_none none frame
      (List.mem_of_getElem? isBehind)
    rw [Outline.add, isFrames, isBehind] at isFrame'
    cases isFrame'
    simp [holdsNone]

/-- The end of a body that is captured assigns its names. -/
theorem leave_capture {frame : Frame} (follows : Follows effects (frame :: frames))
    (isCapture : frame.opened = .capture names) (isFrames : outline.frames = frames) :
    Follows (effects ++ [.leave .capture]) (outline.bind line names).frames := by
  obtain ⟨captured, isCaptured, sameCaptured, _⟩ := follows.scopeOf 0 frame rfl
  rw [isCapture] at sameCaptured
  have isCaptureScope := Opened.eq_capture sameCaptured.symm
  apply follows.bind rfl isFrames
  · intro closed isClosed
    cases List.mem_singleton.mp isClosed
    rw [isCapture]
    rfl
  · intro name scope depth isOpen inside
    constructor
    · rintro (_ | ⟨isInner, capturesInner, member⟩)
      obtain ⟨first, isFirst, sameFirst⟩ := follows.frameOf 0 _ (isOpen.of_inside isInner).1
      cases isFirst
      rw [isCapture, capturesInner] at sameFirst
      cases sameFirst
      exact member
    · intro member
      exact .capture (isOpen.within isCaptured inside) isCaptureScope member

/-- The end of any other structure assigns nothing. -/
theorem leave_other {frame : Frame} {effect : Effect}
    (follows : Follows effects (frame :: frames))
    (closing : (∃ kind, effect = .leave kind) ∨ ∃ name, effect = .leaveBlock name)
    (noCapture : ∀ names, frame.opened ≠ .capture names) :
    Follows (effects ++ [effect]) frames := by
  have closes : effect.isOpening = false ∧ [effect].countP Effect.isClosing = 1 := by
    rcases closing with ⟨kind, rfl⟩ | ⟨name, rfl⟩
    · exact ⟨rfl, rfl⟩
    · exact ⟨rfl, rfl⟩
  apply follows.quiet closes.1
  · intro name scope depth isOpen assigned
    cases assigned with
    | bind member => simp at closing
    | @capture inner names isInner capturesInner member =>
        obtain ⟨first, isFirst, sameFirst⟩ := follows.frameOf 0 _ (isOpen.of_inside isInner).1
        cases isFirst
        rw [capturesInner] at sameFirst
        exact noCapture _ (Opened.eq_capture sameFirst)
  · rw [closes.2]
    rfl

/-- The innermost structure is closed.  A body that has been captured is assigned to its names. -/
theorem leave {frame : Frame} {effect : Effect} (follows : Follows effects (frame :: frames))
    (closing : effect = .leave frame.opened.kind ∨
      (frame.opened.kind = .block ∧ ∃ name, effect = .leaveBlock name))
    (isFrames : outline.frames = frames) :
    Follows (effects ++ [effect]) (outline.release line frame.opened).frames := by
  by_cases captures : ∃ names, frame.opened = .capture names
  · obtain ⟨names, isCapture⟩ := captures
    have isEnd : effect = .leave .capture := by
      rcases closing with isEnd | ⟨isBlock, _⟩
      · rw [isEnd, isCapture]
        rfl
      · rw [isCapture] at isBlock
        cases isBlock
    rw [isEnd, isCapture]
    exact follows.leave_capture isCapture isFrames
  · have unchanged : outline.release line frame.opened = outline := by
      cases isOpened : frame.opened with
      | capture names => exact absurd ⟨names, isOpened⟩ captures
      | _ => rfl
    rw [unchanged, isFrames]
    apply follows.leave_other
    · exact closing.imp (fun isEnd => ⟨_, isEnd⟩) And.right
    · exact fun names isCapture => captures ⟨names, isCapture⟩

/-- The frames follow an effect that takes place. -/
theorem apply {effect : Effect} (follows : Follows effects outline.frames)
    (isScoped : effect.IsScoped) (done : outline.apply line effect = .ok after) :
    Follows (effects ++ [effect]) after.frames := by
  have frames_read {middle : Outline} {expression : Expression} {context : Context}
      (isRead : outline.read line expression context = .ok middle) :
      middle.frames = outline.frames := by
    rcases Outline.read_eq_ok_iff.mp isRead with ⟨_, rfl⟩ | ⟨_, _, _, rfl⟩
    · rfl
    · rfl
  cases effect with
  | refuse cause => cases done
  | read expression context =>
      apply follows.quiet rfl
      · rintro name scope depth _ ⟨⟩
      · rw [frames_read done]
        rfl
  | test expression =>
      obtain ⟨middle, isRead, rfl⟩ := Outline.test_eq_ok_iff.mp done
      apply follows.quiet rfl
      · rintro name scope depth _ ⟨⟩
      · rw [frames_read isRead]
        dsimp only
        unfold retest
        split
        · rename_i isFrames
          rw [isFrames]
          rfl
        · rfl
  | expectBranch =>
      obtain ⟨rfl, _⟩ := Outline.expectBranch_eq_ok_iff.mp done
      apply follows.quiet rfl
      · rintro name scope depth _ ⟨⟩
      · rfl
  | otherwise =>
      apply follows.quiet rfl
      · rintro name scope depth _ ⟨⟩
      · rcases Outline.otherwise_eq_ok_iff.mp done with ⟨_, _, _, _, isFrames, rfl⟩ | ⟨_, rfl⟩
        · rw [isFrames]
          rfl
        · rfl
  | extend expression =>
      apply follows.quiet rfl
      · rintro name scope depth _ ⟨⟩
      · rcases Outline.extend_eq_ok_iff.mp done with ⟨_, rfl⟩ | ⟨_, _, rfl⟩
        · rfl
        · rfl
  | define block =>
      obtain ⟨_, rfl⟩ := Outline.define_eq_ok_iff.mp done
      exact follows.enter rfl (fun filled => absurd rfl filled) line
  | enter opened names =>
      cases done
      exact follows.enter rfl (isScoped opened names rfl) line
  | leaveBlock name =>
      obtain ⟨frame, frames, isFrames, isBlock, rfl⟩ :=
        Outline.leave_eq_ok_iff.mp (Outline.leaveBlock_eq_ok_iff.mp done).2
      rw [isFrames] at follows
      exact follows.leave (Or.inr ⟨isBlock, name, rfl⟩) rfl
  | leave kind =>
      obtain ⟨frame, frames, isFrames, rfl, rfl⟩ := Outline.leave_eq_ok_iff.mp done
      rw [isFrames] at follows
      exact follows.leave (Or.inl rfl) rfl
  | bind names =>
      cases done
      apply follows.bind rfl rfl
      · exact List.forall_mem_nil _
      · intro name scope depth _ _
        constructor
        · rintro ⟨member⟩
          exact member
        · exact .bind

theorem foldlM {more : List Effect} (follows : Follows effects outline.frames)
    (isScoped : ∀ effect ∈ more, effect.IsScoped)
    (done : more.foldlM (fun current effect => current.apply line effect) outline = .ok after) :
    Follows (effects ++ more) after.frames := by
  induction more generalizing effects outline with
  | nil =>
      cases done
      rwa [List.append_nil]
  | cons effect more ih =>
      obtain ⟨middle, first, others⟩ := Outline.foldlM_cons_eq_ok_iff.mp done
      rcases List.forall_mem_cons.mp isScoped with ⟨here, later⟩
      have further := ih (follows.apply here first) later others
      rwa [List.append_assoc, List.singleton_append] at further

/-- The frames follow the segments of a template. -/
theorem segments {parts : List Segment} (follows : Follows effects outline.frames)
    (done : outline.segments parts = .ok after) :
    Follows (effects ++ parts.flatMap Segment.effects) after.frames := by
  induction parts generalizing effects outline with
  | nil =>
      cases done
      rwa [List.flatMap_nil, List.append_nil]
  | cons part parts ih =>
      obtain ⟨middle, first, others⟩ := Outline.foldlM_cons_eq_ok_iff.mp done
      obtain ⟨line, nodes, _, _, isSegment⟩ := Outline.exists_segment_eq part
      rw [isSegment, Outline.applyAll_eq_ok_iff] at first
      have start : Follows effects (outline.add nodes).frames := follows
      rw [List.flatMap_cons, ← List.append_assoc]
      exact ih (start.foldlM part.isScoped first) others

end Follows

/-- What an outline has bound is what the structures bind that are open there. -/
theorem Outline.mem_bound_iff {parts : List Segment} {outline : Outline}
    (done : Outline.empty.segments parts = .ok outline) {name : String} :
    name ∈ outline.bound ↔ BoundBehind (parts.flatMap Segment.effects) name := by
  have follows : Follows (parts.flatMap Segment.effects) outline.frames := Follows.nil.segments done
  constructor
  · intro bound
    obtain ⟨frame, isFrame, member⟩ := List.mem_flatMap.mp bound
    obtain ⟨depth, isFrame⟩ := List.mem_iff_getElem?.mp isFrame
    obtain ⟨scope, isOpen, same, binds⟩ := follows.scopeOf depth frame isFrame
    obtain ⟨holds, isBound⟩ := (binds name).mp member
    exact ⟨scope, depth, isOpen, by rwa [← Opened.kind_eq same], isBound⟩
  · rintro ⟨scope, depth, isOpen, holds, isBound⟩
    obtain ⟨frame, isFrame, same⟩ := follows.frameOf depth scope isOpen
    obtain ⟨other, isOther, _, binds⟩ := follows.scopeOf depth frame isFrame
    cases isOpen.unique isOther
    rw [← Opened.kind_eq same] at holds
    have inFrame : name ∈ frame.bound := (binds name).mpr ⟨holds, isBound⟩
    exact List.mem_flatMap.mpr ⟨frame, List.mem_of_getElem? isFrame, inFrame⟩

end Lineage.Template
