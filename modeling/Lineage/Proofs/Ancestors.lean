import Lineage.Chain
import Lineage.Samples
import Lineage.Proofs.Readings
import Mathlib.Data.List.Chain
import Mathlib.Data.List.Nodup

/-!
# The walk from a leaf to its root

The names on the walk up from a leaf are given by position: the leaf, its parent, the parent of
that one, and so on (`Resolution.ancestor?`).  At each position one thing at most can be wrong
(`Resolution.obstacle?`).  The main result says that a resolution finds a chain exactly if the walk
comes to a template without a parent, that the chain is this walk reversed, and that otherwise the
failure is the obstacle at the first position that has one.

The walk is followed without a cache first (`Resolution.ascend`).  A truthful cache changes nothing
about the outcome (`Resolution.climb_fst`).
-/

namespace Lineage

open Lineage.Template

/-! ## Templates as a look-up gives them -/

/-- The template that a look-up finds under a name, or none if it finds none. -/
def Lookup.tier (lookup : Lookup) (name : String) : Except Failure (Option Tier) :=
  match lookup name with
  | .error failure => .error failure
  | .ok none => .ok none
  | .ok (some source) =>
    (Parsed.ofTemplate name source.text.toList).map fun parsed => some ⟨name, source, parsed⟩

/-- The parent of the template `name`, if it exists, can be read and has one. -/
def Lookup.parent? (lookup : Lookup) (name : String) : Option String :=
  match lookup.tier name with
  | .ok (some tier) => tier.parent
  | _ => none

/-- A template carries the text that was looked up under its name, and the reading of that text. -/
theorem Lookup.tier_eq_some_iff {lookup : Lookup} {name : String} {tier : Tier} :
    lookup.tier name = .ok (some tier) ↔
      tier.name = name ∧ lookup name = .ok (some tier.source) ∧
        Parsed.ofTemplate name tier.source.text.toList = .ok tier.parsed := by
  unfold Lookup.tier
  cases looked : lookup name with
  | error failure => simp
  | ok found =>
      cases found with
      | none => simp
      | some source =>
          dsimp only
          cases parsed : Parsed.ofTemplate name source.text.toList with
          | error failure =>
              simp only [Except.map, reduceCtorEq, false_iff, Except.ok.injEq, Option.some.injEq]
              rintro ⟨_, rfl, reading⟩
              exact nomatch parsed.symm.trans reading
          | ok found =>
              simp only [Except.map, Except.ok.injEq, Option.some.injEq]
              constructor
              · rintro rfl
                exact ⟨rfl, rfl, parsed⟩
              · rintro ⟨rfl, rfl, reading⟩
                rw [Except.ok.inj (parsed.symm.trans reading)]

theorem Lookup.parent?_eq {lookup : Lookup} {name : String} {tier : Tier}
    (read : lookup.tier name = .ok (some tier)) : lookup.parent? name = tier.parent := by
  rw [Lookup.parent?, read]

namespace Resolution

variable {resolution : Resolution}

/-! ## The walk without a cache -/

/-- Walks on to the template `name` as `climb` does, and reads every text anew. -/
def ascend (resolution : Resolution) (remaining : Nat) (name : String) (below : List Tier) :
    Except Failure Chain :=
  if below.any (·.name == name) then .error (cycle below name)
  else
    match remaining with
    | 0 => .error (.excessiveDepth resolution.leaf resolution.maxDepth)
    | remaining + 1 =>
      match resolution.lookup.tier name with
      | .error failure => .error failure
      | .ok none => .error (missing below name)
      | .ok (some tier) =>
        match tier.parent with
        | some parent => resolution.ascend remaining parent (tier :: below)
        | none => .ok ⟨tier :: below, List.cons_ne_nil _ _⟩

/-- What look-ups and readings keep, a walk keeps. -/
theorem climb_snd (kept : Intake → Prop) (fetch : ∀ intake, kept intake → kept intake.fetch)
    (parse : ∀ intake name source, resolution.lookup name = .ok (some source) → kept intake →
      kept (intake.parse name source).2)
    (remaining : Nat) (name : String) (below : List Tier) {intake : Intake} (h : kept intake) :
    kept (resolution.climb remaining name below intake).2 := by
  induction remaining generalizing name below intake with
  | zero =>
      unfold climb
      split <;> exact h
  | succ remaining ih =>
      unfold climb
      split
      · exact h
      · simp only
        split
        · exact fetch intake h
        · exact fetch intake h
        · rename_i source looked
          have read := parse intake.fetch name source looked (fetch intake h)
          split
          · exact read
          · split
            · exact ih _ _ read
            · exact read

/-- With a truthful cache the outcome of a walk is the one without a cache. -/
theorem climb_fst (remaining : Nat) (name : String) (below : List Tier) {intake : Intake}
    (truthful : intake.parses.Truthful resolution.lookup) :
    (resolution.climb remaining name below intake).1 = resolution.ascend remaining name below := by
  induction remaining generalizing name below intake with
  | zero =>
      unfold climb ascend
      split <;> rfl
  | succ remaining ih =>
      unfold climb ascend Lookup.tier
      split
      · rfl
      · simp only
        cases looked : resolution.lookup name with
        | error failure => rfl
        | ok found =>
            cases found with
            | none => rfl
            | some source =>
                have outcome : (intake.fetch.parse name source).1.outcome =
                    Parsed.ofTemplate name source.text.toList := truthful.get_outcome looked
                have after : (intake.fetch.parse name source).2.parses.Truthful
                    resolution.lookup := truthful.get looked
                simp only [outcome]
                cases Parsed.ofTemplate name source.text.toList with
                | error failure => rfl
                | ok parsed =>
                    simp only [Except.map, Tier.parent]
                    cases parsed.parent with
                    | none => rfl
                    | some parent => exact ih _ _ after

theorem run_fst {intake : Intake} (truthful : intake.parses.Truthful resolution.lookup) :
    (resolution.run intake).1 = resolution.ascend resolution.maxDepth resolution.leaf [] :=
  climb_fst _ _ _ truthful

/-! ## Positions on the walk -/

/-- The name at a position of the walk up from the leaf, if the walk comes so far. -/
def ancestor? (resolution : Resolution) : Nat → Option String
  | 0 => some resolution.leaf
  | position + 1 => (resolution.ancestor? position).bind resolution.lookup.parent?

/-- The names before a position. -/
def earlier (resolution : Resolution) (position : Nat) : List String :=
  (List.range position).filterMap resolution.ancestor?

/-- The failure of a walk over the names `before` that needs a template which is missing. -/
def absent (before : List String) (name : String) : Failure :=
  match before.getLast? with
  | none => .templateNotFound name
  | some requester => .missingAncestor name requester

/-- What is wrong at a position, if anything is: its name stands at an earlier position, as many
templates as may be have been visited, the template is missing, or it cannot be read. -/
def obstacle? (resolution : Resolution) (position : Nat) : Option Failure :=
  (resolution.ancestor? position).bind fun name =>
    let before := resolution.earlier position
    if name ∈ before then some (.cyclicInheritance (before ++ [name]))
    else if resolution.maxDepth ≤ position then
      some (.excessiveDepth resolution.leaf resolution.maxDepth)
    else
      match resolution.lookup.tier name with
      | .error failure => some failure
      | .ok none => some (absent before name)
      | .ok (some _) => none

/-- The templates at the first positions of the walk, from the leaf on, all with different names. -/
structure Follows (resolution : Resolution) (walked : List Tier) : Prop where
  position : ∀ position tier, walked[position]? = some tier →
    resolution.ancestor? position = some tier.name
  reading : ∀ tier ∈ walked, resolution.lookup.tier tier.name = .ok (some tier)
  distinct : (walked.map (·.name)).Nodup

/-- The templates from the leaf on to one without a parent, which is the last. -/
structure Reaches (resolution : Resolution) (walked : List Tier) : Prop
    extends resolution.Follows walked where
  root : ∃ tier, walked.getLast? = some tier ∧ tier.parent = none

/-- The obstacle at the first position that has one. -/
def FirstObstacle (resolution : Resolution) (failure : Failure) : Prop :=
  ∃ position, resolution.obstacle? position = some failure ∧
    ∀ before < position, resolution.obstacle? before = none

/-! ## The templates that have been visited -/

variable {walked : List Tier}

theorem follows_nil (resolution : Resolution) : resolution.Follows [] :=
  ⟨by simp, by simp, by simp⟩

theorem Follows.take (follows : resolution.Follows walked) (count : Nat) :
    resolution.Follows (walked.take count) where
  position := by
    intro position tier visited
    apply follows.position position tier
    rw [List.getElem?_take] at visited
    split at visited
    · exact visited
    · cases visited
  reading tier member := follows.reading tier (List.mem_of_mem_take member)
  distinct := by
    rw [List.map_take]
    exact follows.distinct.sublist (List.take_sublist _ _)

theorem Follows.earlier_length (follows : resolution.Follows walked) :
    resolution.earlier walked.length = walked.map (·.name) := by
  have names : (List.range walked.length).map resolution.ancestor? =
      walked.map fun tier => some tier.name := by
    apply List.ext_getElem
    · simp
    · intro position inRange inWalk
      rw [List.length_map] at inWalk
      simpa using follows.position position walked[position] (List.getElem?_eq_getElem inWalk)
  calc
    resolution.earlier walked.length
        = ((List.range walked.length).map resolution.ancestor?).filterMap id := by
          rw [List.filterMap_map]
          rfl
    _ = (walked.map fun tier => some tier.name).filterMap id := by rw [names]
    _ = walked.map (·.name) := by simp [List.filterMap_map]

theorem Follows.earlier_eq (follows : resolution.Follows walked) {position : Nat}
    (le : position ≤ walked.length) :
    resolution.earlier position = (walked.take position).map (·.name) := by
  have length : (walked.take position).length = position := List.length_take_of_le le
  rw [← (follows.take position).earlier_length, length]

/-- The name of a visited template stands at no earlier position. -/
theorem Follows.name_notMem_earlier (follows : resolution.Follows walked) {position : Nat}
    (lt : position < walked.length) : walked[position].name ∉ resolution.earlier position := by
  rw [follows.earlier_eq (Nat.le_of_lt lt), List.map_take]
  intro member
  obtain ⟨before, inRange, names⟩ := List.getElem_of_mem member
  rw [List.length_take, List.length_map] at inRange
  have inNames : position < (walked.map (·.name)).length := by simpa using lt
  have beforeInNames : before < (walked.map (·.name)).length := by
    rw [List.length_map]
    omega
  have same : (walked.map (·.name))[before] = (walked.map (·.name))[position] := by
    rw [List.getElem_take] at names
    rw [names, List.getElem_map]
  have positions : before = position := follows.distinct.getElem_inj_iff.mp same
  omega

/-- A visited template was no obstacle. -/
theorem Follows.obstacle?_eq_none (follows : resolution.Follows walked)
    (within : walked.length ≤ resolution.maxDepth) {position : Nat}
    (lt : position < walked.length) : resolution.obstacle? position = none := by
  have name := follows.position position walked[position] (List.getElem?_eq_getElem lt)
  have read := follows.reading walked[position] (List.getElem_mem lt)
  have room : ¬ resolution.maxDepth ≤ position := by omega
  simp [obstacle?, name, read, room, follows.name_notMem_earlier lt]

/-- One more template that can be read and has a new name is visited. -/
theorem Follows.push (follows : resolution.Follows walked) {name : String} {tier : Tier}
    (next : resolution.ancestor? walked.length = some name)
    (read : resolution.lookup.tier name = .ok (some tier))
    (new : name ∉ walked.map (·.name)) : resolution.Follows (walked ++ [tier]) := by
  obtain ⟨rfl, _⟩ := Lookup.tier_eq_some_iff.mp read
  constructor
  · intro position other visited
    rw [List.getElem?_append] at visited
    split at visited
    · exact follows.position position other visited
    · rename_i notBefore
      rw [List.getElem?_singleton] at visited
      split at visited
      · have positions : position = walked.length := by omega
        rw [positions, next, ← Option.some.inj visited]
      · cases visited
  · intro other member
    rcases List.mem_append.mp member with old | last
    · exact follows.reading other old
    · rw [List.mem_singleton.mp last]
      exact read
  · rw [List.map_append, List.map_singleton, ← List.concat_eq_append]
    exact follows.distinct.concat new

/-- The obstacle at the position behind the visited templates. -/
theorem Follows.obstacle?_next {below : List Tier} (follows : resolution.Follows below.reverse)
    {name : String} (next : resolution.ancestor? below.length = some name) :
    resolution.obstacle? below.length =
      if below.any (·.name == name) then some (cycle below name)
      else if resolution.maxDepth ≤ below.length then
        some (.excessiveDepth resolution.leaf resolution.maxDepth)
      else
        match resolution.lookup.tier name with
        | .error failure => some failure
        | .ok none => some (missing below name)
        | .ok (some _) => none := by
  have before : resolution.earlier below.length = (below.map (·.name)).reverse := by
    rw [← List.length_reverse, follows.earlier_length, List.map_reverse]
  have repeated : name ∈ (below.map (·.name)).reverse ↔ below.any (·.name == name) = true := by
    simp
  have absence : absent (below.map (·.name)).reverse name = missing below name := by
    cases below with
    | nil => rfl
    | cons tier below => simp [absent, missing]
  simp only [obstacle?, next, Option.bind_some, before, repeated, absence, cycle]

/-! ## Where a walk ends -/

/-- Whether an outcome is the one that the walk calls for. -/
def Settles (resolution : Resolution) : Except Failure Chain → Prop
  | .ok chain =>
    resolution.Reaches chain.tiers.reverse ∧ chain.tiers.length ≤ resolution.maxDepth
  | .error failure => resolution.FirstObstacle failure

theorem Follows.firstObstacle {below : List Tier} (follows : resolution.Follows below.reverse)
    (within : below.length ≤ resolution.maxDepth) {failure : Failure}
    (obstacle : resolution.obstacle? below.length = some failure) :
    resolution.FirstObstacle failure := by
  refine ⟨below.length, obstacle, ?_⟩
  intro position lt
  apply follows.obstacle?_eq_none
  · simpa using within
  · simpa using lt

/-- The walk without a cache keeps to the positions: the templates `below` are those at the
positions before `below.length`, and `name` stands at that position. -/
theorem ascend_settles {remaining : Nat} {name : String} {below : List Tier}
    (follows : resolution.Follows below.reverse)
    (next : resolution.ancestor? below.length = some name)
    (depth : remaining + below.length = resolution.maxDepth) :
    resolution.Settles (resolution.ascend remaining name below) := by
  have within : below.length ≤ resolution.maxDepth := by omega
  have obstacle := follows.obstacle?_next next
  induction remaining generalizing name below with
  | zero =>
      have deep : resolution.maxDepth ≤ below.length := by omega
      unfold ascend
      split
      · rename_i repeated
        exact follows.firstObstacle within (by rw [obstacle, if_pos repeated])
      · rename_i new
        exact follows.firstObstacle within (by rw [obstacle, if_neg new, if_pos deep])
  | succ remaining ih =>
      have shallow : ¬ resolution.maxDepth ≤ below.length := by omega
      rw [if_neg shallow] at obstacle
      unfold ascend
      split
      · rename_i repeated
        exact follows.firstObstacle within (by rw [obstacle, if_pos repeated])
      · rename_i new
        rw [if_neg new] at obstacle
        cases read : resolution.lookup.tier name with
        | error failure => exact follows.firstObstacle within (by rw [obstacle, read])
        | ok found =>
            cases found with
            | none => exact follows.firstObstacle within (by rw [obstacle, read])
            | some tier =>
                have further : resolution.Follows (tier :: below).reverse := by
                  rw [List.reverse_cons]
                  exact follows.push (by simpa using next) read (by simpa using new)
                dsimp only
                cases parent : tier.parent with
                | none => exact ⟨⟨further, tier, by simp, parent⟩, by simp; omega⟩
                | some above =>
                    have nextAbove : resolution.ancestor? (tier :: below).length = some above := by
                      rw [List.length_cons, ancestor?, next, Option.bind_some,
                        Lookup.parent?_eq read, parent]
                    exact ih further nextAbove (by simp; omega) (by simp; omega)
                      (further.obstacle?_next nextAbove)

theorem ascend_leaf_settles (resolution : Resolution) :
    resolution.Settles (resolution.ascend resolution.maxDepth resolution.leaf []) :=
  ascend_settles (follows_nil resolution) rfl (Nat.add_zero _)

/-! ## There is one end of a walk only -/

/-- The walk goes no further than the template without a parent. -/
theorem Reaches.ancestor?_eq_none (reaches : resolution.Reaches walked) {position : Nat}
    (le : walked.length ≤ position) : resolution.ancestor? position = none := by
  obtain ⟨tier, last, root⟩ := reaches.root
  have atRoot : resolution.ancestor? (walked.length - 1) = some tier.name := by
    apply reaches.position
    rw [← last, List.getLast?_eq_getElem?]
  have positive : 0 < walked.length := by
    apply List.length_pos_of_mem
    exact List.mem_of_getLast? last
  induction position, le using Nat.le_induction with
  | base =>
      obtain ⟨count, length⟩ := Nat.exists_eq_succ_of_ne_zero positive.ne'
      rw [length, Nat.succ_sub_one] at atRoot
      rw [length, ancestor?, atRoot, Option.bind_some,
        Lookup.parent?_eq (reaches.reading tier (List.mem_of_getLast? last)), root]
  | succ position _ ih => rw [ancestor?, ih, Option.bind_none]

/-- A walk of the permitted length to a template without a parent meets no obstacle. -/
theorem Reaches.obstacle?_eq_none (reaches : resolution.Reaches walked)
    (within : walked.length ≤ resolution.maxDepth) (position : Nat) :
    resolution.obstacle? position = none := by
  rcases Nat.lt_or_ge position walked.length with lt | ge
  · exact reaches.toFollows.obstacle?_eq_none within lt
  · rw [obstacle?, reaches.ancestor?_eq_none ge, Option.bind_none]

theorem Reaches.length_le {others : List Tier} (reaches : resolution.Reaches walked)
    (follows : resolution.Follows others) : others.length ≤ walked.length := by
  by_contra longer
  have lt : walked.length < others.length := by omega
  have name := follows.position _ others[walked.length] (List.getElem?_eq_getElem lt)
  rw [reaches.ancestor?_eq_none (Nat.le_refl _)] at name
  cases name

theorem Reaches.unique {others : List Tier} (first : resolution.Reaches walked)
    (second : resolution.Reaches others) : walked = others := by
  have lengths : walked.length = others.length :=
    Nat.le_antisymm (second.length_le first.toFollows) (first.length_le second.toFollows)
  apply List.ext_getElem lengths
  intro position inFirst inSecond
  have names : walked[position].name = others[position].name := by
    have firstName := first.position _ _ (List.getElem?_eq_getElem inFirst)
    have secondName := second.position _ _ (List.getElem?_eq_getElem inSecond)
    exact Option.some.inj (firstName.symm.trans secondName)
  have firstRead := first.reading _ (List.getElem_mem inFirst)
  have secondRead := second.reading _ (List.getElem_mem inSecond)
  rw [names] at firstRead
  exact Option.some.inj (Except.ok.inj (firstRead.symm.trans secondRead))

/-- The walk calls for one outcome only. -/
theorem Settles.unique {first second : Except Failure Chain} (one : resolution.Settles first)
    (other : resolution.Settles second) : first = second := by
  cases first with
  | ok chain =>
      cases second with
      | ok chain' =>
          have tiers : chain.tiers = chain'.tiers := List.reverse_injective (one.1.unique other.1)
          cases chain
          cases chain'
          cases tiers
          rfl
      | error failure =>
          obtain ⟨position, obstacle, _⟩ := other
          rw [one.1.obstacle?_eq_none (by simpa using one.2)] at obstacle
          cases obstacle
  | error failure =>
      obtain ⟨position, obstacle, before⟩ := one
      cases second with
      | ok chain =>
          rw [other.1.obstacle?_eq_none (by simpa using other.2)] at obstacle
          cases obstacle
      | error failure' =>
          obtain ⟨position', obstacle', before'⟩ := other
          rcases Nat.lt_trichotomy position position' with lt | rfl | gt
          · rw [before' position lt] at obstacle
            cases obstacle
          · rw [Option.some.inj (obstacle.symm.trans obstacle')]
          · rw [before position' gt] at obstacle'
            cases obstacle'

/-! ## The chain that a walk finds -/

/-- What each template that is visited keeps, the chain has in the end.  `kept` is about the next
name, the templates below it and the intake. -/
theorem climb_found (kept : String → List Tier → Intake → Prop) (holds : List Tier → Prop)
    (visit : ∀ name below intake source parsed, below.any (·.name == name) = false →
      kept name below intake → (intake.parses.get name source).1.outcome = .ok parsed →
      match parsed.parent with
      | some parent =>
        kept parent (⟨name, source, parsed⟩ :: below) (intake.fetch.parse name source).2
      | none => holds (⟨name, source, parsed⟩ :: below))
    {remaining : Nat} {name : String} {below : List Tier} {intake : Intake} {chain : Chain}
    (start : kept name below intake)
    (found : (resolution.climb remaining name below intake).1 = .ok chain) :
    holds chain.tiers := by
  induction remaining generalizing name below intake with
  | zero =>
      unfold climb at found
      split at found <;> cases found
  | succ remaining ih =>
      unfold climb at found
      split at found
      · cases found
      · rename_i new
        simp only at found
        split at found
        · cases found
        · cases found
        · rename_i source _
          split at found
          · cases found
          · rename_i parsed outcome
            have visited := visit name below intake source parsed
              (Bool.not_eq_true _ ▸ new) start outcome
            cases parent : parsed.parent with
            | some parent =>
                rw [parent] at found visited
                exact ih visited found
            | none =>
                rw [parent] at found visited
                cases found
                exact visited

/-- Whatever a cache holds, no name stands twice in a chain. -/
theorem run_names_nodup {intake : Intake} {chain : Chain}
    (found : (resolution.run intake).1 = .ok chain) : chain.names.Nodup := by
  let distinct := fun tiers : List Tier => (tiers.map (·.name)).Nodup
  have start : distinct [] := List.nodup_nil
  refine climb_found (fun _ below _ => distinct below) distinct ?_ start found
  intro name below intake source parsed new kept _
  have further : (name :: below.map (·.name)).Nodup := by
    rw [List.nodup_cons]
    exact ⟨by simpa using new, kept⟩
  cases parsed.parent <;> exact further

/-- Whatever a cache holds, a chain ends with the leaf that was asked for. -/
theorem run_leaf_name {intake : Intake} {chain : Chain}
    (found : (resolution.run intake).1 = .ok chain) : chain.leaf.name = resolution.leaf := by
  let endsWithLeaf := fun names : List String => names.getLast? = some resolution.leaf
  have last : endsWithLeaf (chain.tiers.map (·.name)) := by
    refine climb_found (fun name below _ => endsWithLeaf (name :: below.map (·.name)))
      (fun tiers => endsWithLeaf (tiers.map (·.name))) ?_ rfl found
    intro name below intake source parsed _ kept _
    cases parsed.parent with
    | none => exact kept
    | some parent => exact (List.getLast?_cons_cons ..).trans kept
  dsimp only [endsWithLeaf] at last
  rw [List.getLast?_map, List.getLast?_eq_some_getLast chain.tiers_ne_nil] at last
  exact Option.some.inj last

theorem Reaches.leaf_name {chain : Chain} (reaches : resolution.Reaches chain.tiers.reverse) :
    chain.leaf.name = resolution.leaf := by
  have first : chain.tiers.reverse[0]? = some chain.leaf := by
    rw [← List.head?_eq_getElem?, List.head?_reverse]
    exact List.getLast?_eq_some_getLast chain.tiers_ne_nil
  exact (Option.some.inj (reaches.position 0 chain.leaf first)).symm

theorem Reaches.root_parent {chain : Chain} (reaches : resolution.Reaches chain.tiers.reverse) :
    chain.root.parent = none := by
  obtain ⟨tier, last, root⟩ := reaches.root
  rw [List.getLast?_reverse, List.head?_eq_some_head chain.tiers_ne_nil] at last
  rw [Chain.root, Option.some.inj last, root]

/-- Each template on the walk names the next one as its parent. -/
theorem Follows.isChain (follows : resolution.Follows walked) :
    walked.IsChain fun below above => below.parent = some above.name := by
  rw [List.isChain_iff_getElem]
  intro position lt
  have name := follows.position _ _ (List.getElem?_eq_getElem (Nat.lt_of_succ_lt lt))
  have above := follows.position _ _ (List.getElem?_eq_getElem lt)
  rw [ancestor?, name, Option.bind_some,
    Lookup.parent?_eq (follows.reading _ (List.getElem_mem (Nat.lt_of_succ_lt lt)))] at above
  exact above

/-- Templates that can be read, from the leaf on, each of which names the next one as its parent. -/
theorem follows_of_isChain (starts : walked.head?.map (·.name) = some resolution.leaf)
    (linked : walked.IsChain fun below above => below.parent = some above.name)
    (reading : ∀ tier ∈ walked, resolution.lookup.tier tier.name = .ok (some tier))
    (distinct : (walked.map (·.name)).Nodup) : resolution.Follows walked where
  position := by
    intro position
    induction position with
    | zero =>
        intro tier visited
        rw [List.head?_eq_getElem?, visited, Option.map_some] at starts
        exact starts.symm
    | succ position ih =>
        intro tier visited
        obtain ⟨lt, rfl⟩ := List.getElem?_eq_some_iff.mp visited
        have below := List.getElem?_eq_getElem (Nat.lt_of_succ_lt lt)
        rw [ancestor?, ih _ below, Option.bind_some,
          Lookup.parent?_eq (reading _ (List.mem_of_getElem? below))]
        exact List.isChain_iff_getElem.mp linked position lt
  reading := reading
  distinct := distinct

/-- A walk of the permitted length to a template without a parent is what a resolution finds. -/
theorem Reaches.run_eq {chain : Chain} {intake : Intake}
    (reaches : resolution.Reaches chain.tiers.reverse)
    (within : chain.tiers.length ≤ resolution.maxDepth)
    (truthful : intake.parses.Truthful resolution.lookup) :
    (resolution.run intake).1 = .ok chain := by
  have wanted : resolution.Settles (.ok chain) := ⟨reaches, within⟩
  rw [run_fst truthful]
  exact resolution.ascend_leaf_settles.unique wanted

/-- Templates that can be read, from the root on, each of which names the one before it as its
parent, are what a resolution finds. -/
theorem run_of_isChain {chain : Chain} {intake : Intake}
    (leaf : chain.leaf.name = resolution.leaf) (root : chain.root.parent = none)
    (linked : chain.tiers.IsChain fun above below => below.parent = some above.name)
    (reading : ∀ tier ∈ chain.tiers, resolution.lookup tier.name = .ok (some tier.source) ∧
      Parsed.ofTemplate tier.name tier.source.text.toList = .ok tier.parsed)
    (distinct : chain.names.Nodup) (within : chain.tiers.length ≤ resolution.maxDepth)
    (truthful : intake.parses.Truthful resolution.lookup) :
    (resolution.run intake).1 = .ok chain := by
  refine Reaches.run_eq ⟨follows_of_isChain ?_ (List.isChain_reverse.mpr linked) ?_ ?_, ?_⟩ within
    truthful
  · rw [List.head?_reverse, List.getLast?_eq_some_getLast chain.tiers_ne_nil, Option.map_some]
    exact congrArg some leaf
  · intro tier member
    obtain ⟨looked, read⟩ := reading tier (List.mem_reverse.mp member)
    exact Lookup.tier_eq_some_iff.mpr ⟨rfl, looked, read⟩
  · rw [List.map_reverse]
    exact List.nodup_reverse.mpr distinct
  · refine ⟨chain.root, ?_, root⟩
    rw [List.getLast?_reverse]
    exact List.head?_eq_some_head chain.tiers_ne_nil

/-- A resolution finds a chain exactly if the walk up from the leaf comes to a template without a
parent, over templates that all exist, can be read and have different names, and of which there are
no more than may be.  The chain is that walk reversed: its last template has the name of the leaf,
its first one has no parent, each other one names the template before it as its parent, and each
carries the text, the identity and the reading of its own template.  Otherwise the failure is that
of the first position with an obstacle.

A cache that has not been used is truthful (`ParseCache.truthful_empty`), and so is one that holds
readings of texts with different identities (`ParseCache.Faithful.truthful`). -/
theorem run_iff_walk (resolution : Resolution) (intake : Intake)
    (truthful : intake.parses.Truthful resolution.lookup) :
    (∀ chain, (resolution.run intake).1 = .ok chain ↔
      ∃ walked, resolution.Reaches walked ∧ walked.length ≤ resolution.maxDepth ∧
        chain.tiers = walked.reverse) ∧
    (∀ chain, (resolution.run intake).1 = .ok chain →
      chain.tiers ≠ [] ∧ chain.leaf.name = resolution.leaf ∧ chain.root.parent = none ∧
        chain.tiers.IsChain (fun above below => below.parent = some above.name) ∧
        chain.names.Nodup ∧
        ∀ tier ∈ chain.tiers, resolution.lookup tier.name = .ok (some tier.source) ∧
          tier.source.identity = contentIdentity tier.source.text ∧
          Parsed.ofTemplate tier.name tier.source.text.toList = .ok tier.parsed) ∧
    (∀ failure, (resolution.run intake).1 = .error failure ↔
      ∃ position, resolution.obstacle? position = some failure ∧
        ∀ before < position, resolution.obstacle? before = none) := by
  have settled : resolution.Settles (resolution.run intake).1 := by
    rw [run_fst truthful]
    exact resolution.ascend_leaf_settles
  refine ⟨?_, ?_, ?_⟩
  · intro chain
    constructor
    · intro found
      rw [found] at settled
      exact ⟨chain.tiers.reverse, settled.1, by simpa using settled.2, by simp⟩
    · rintro ⟨walked, reaches, within, tiers⟩
      have wanted : resolution.Settles (.ok chain) := by
        refine ⟨?_, ?_⟩
        · rw [tiers, List.reverse_reverse]
          exact reaches
        · rw [tiers, List.length_reverse]
          exact within
      exact settled.unique wanted
  · intro chain found
    rw [found] at settled
    have reaches := settled.1
    refine ⟨chain.tiers_ne_nil, reaches.leaf_name, reaches.root_parent, ?_, ?_, ?_⟩
    · exact List.isChain_reverse.mp reaches.isChain
    · have distinct := reaches.distinct
      rw [List.map_reverse] at distinct
      exact List.nodup_reverse.mp distinct
    · intro tier member
      have read := reaches.reading tier (List.mem_reverse.mpr member)
      obtain ⟨_, looked, parsed⟩ := Lookup.tier_eq_some_iff.mp read
      exact ⟨looked, tier.source.identity_eq, parsed⟩
  · intro failure
    constructor
    · intro failed
      rw [failed] at settled
      exact settled
    · intro obstacle
      have wanted : resolution.Settles (.error failure) := obstacle
      exact settled.unique wanted

/-- Two templates that extend each other, where the cache has read the second one before. -/
theorem run_mutual_extension :
    let library := Library.ofList [("a", Sample.extendsTag "b"), ("b", Sample.extendsTag "a")]
    let resolution : Resolution := ⟨library.lookup, "a", 16⟩
    let used := (ParseCache.empty.get "b" (Source.ofText (Sample.extendsTag "a"))).2
    used.Truthful library.lookup ∧
      (resolution.run ⟨0, used⟩).1 = .error (.cyclicInheritance ["a", "b", "a"]) := by
  intro library resolution used
  have truthful : used.Truthful library.lookup := by
    apply (ParseCache.truthful_empty _).get
    rfl
  have walk := run_iff_walk resolution ⟨0, used⟩ truthful
  refine ⟨truthful, (walk.2.2 _).mpr ⟨2, ?_, ?_⟩⟩
  · decide +kernel
  · decide +kernel

end Resolution

end Lineage
