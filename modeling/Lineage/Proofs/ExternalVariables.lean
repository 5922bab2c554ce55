import Lineage.Variables
import Lineage.Proofs.Ancestors
import Lineage.Proofs.OrderedMaps
import Mathlib.Data.List.Nodup

/-!
# The variables of a chain by the places of their reads

An external read is found by its place: the position of a template in the chain, and the position of
a node in that template (`Chain.externalRead?`).  Places are ordered from the root to the leaf, and
within a template by the source.  The main result says which names a chain needs, and tells each
field of a variable from the places at which its name is read.

The classification takes the external reads into account one after another.  What it has found then
is described by the list of these reads (`Classification.Gathers`), and the list by the places.
-/

namespace Lineage

open Template (Guard Node)

/-! ## External reads by their places -/

/-- The name that a node reads or assigns. -/
def Template.Node.mentioned? : Node → Option String
  | .read name _ _ => some name
  | .assign name _ => some name
  | _ => none

/-- The description of a fallback. -/
def Template.Guard.fallback? : Guard → Option String
  | .fallback description => some description
  | _ => none

/-- The external read at a position: the node there reads a name that no node before it assigns. -/
def externalAt? (nodes : List Node) (position : Nat) : Option (String × Guard) :=
  (nodes[position]?.bind Node.read?).filter fun read =>
    (nodes.take position).all fun node => node.assign? ≠ some read.1

namespace Tier

/-- Whether the template has an external read of the name. -/
def readsExternally (tier : Tier) (name : String) : Bool :=
  (List.range tier.parsed.nodes.length).any fun position =>
    (externalAt? tier.parsed.nodes position).any fun read => read.1 = name

/-- Whether the first node of the template that mentions the name assigns it. -/
def assignsFirst (tier : Tier) (name : String) : Bool :=
  (tier.parsed.nodes.find? fun node => node.mentioned? = some name).any fun node =>
    node.assign? = some name

end Tier

/-- The place of a node: the position of its template in the chain, and its own in the template. -/
structure Place where
  tier : Nat
  node : Nat
deriving DecidableEq, Repr

/-- The order of places from the root to the leaf, and within a template by the source. -/
def Place.Before (first second : Place) : Prop :=
  first.tier < second.tier ∨ first.tier = second.tier ∧ first.node < second.node

theorem Place.Before.asymm {first second : Place} (before : first.Before second) :
    ¬ second.Before first := by
  unfold Place.Before at before ⊢
  omega

namespace Chain

open Classification (Occurrence)

/-- The external read at a place. -/
def externalRead? (chain : Chain) (place : Place) : Option Occurrence :=
  chain.tiers[place.tier]?.bind fun tier =>
    (externalAt? tier.parsed.nodes place.node).map fun read => ⟨tier.name, read.1, read.2⟩

/-- The place of the first external read of a name. -/
def FirstRead (chain : Chain) (name : String) (place : Place) : Prop :=
  (∃ read, chain.externalRead? place = some read ∧ read.name = name) ∧
    ∀ other, other.Before place → ∀ read, chain.externalRead? other = some read → read.name ≠ name

/-- What a variable says about the external reads of its name. -/
structure Describes (chain : Chain) (name : String) (var : Variable) : Prop where
  named : var.name = name
  required : var.required = true ↔
    ∀ place read, chain.externalRead? place = some read → read.name = name → read.guard = .bare
  provenance : (chain.tiers.find? (·.readsExternally name)).map (·.name) = some var.provenance
  tiers : var.tiers = (chain.tiers.filter (·.readsExternally name)).map (·.name)
  distinct : var.tiers.Nodup
  /-- The fallback is that of the first read that has one. -/
  fallback : ∀ description, var.fallback = some description ↔
    ∃ place tier, chain.externalRead? place = some ⟨tier, name, .fallback description⟩ ∧
      ∀ other, other.Before place → ∀ tier earlier,
        chain.externalRead? other ≠ some ⟨tier, name, .fallback earlier⟩
  withoutFallback : var.fallback = none ↔
    ∀ place tier description,
      chain.externalRead? place ≠ some ⟨tier, name, .fallback description⟩

end Chain

/-! ## The reads and assignments of a template -/

theorem externalAt?_zero (node : Node) (nodes : List Node) :
    externalAt? (node :: nodes) 0 = node.read? := by
  simp only [externalAt?, List.getElem?_cons_zero, List.take_zero, List.all_nil, Option.bind_some]
  cases node.read? <;> rfl

theorem externalAt?_succ (node : Node) (nodes : List Node) (position : Nat) :
    externalAt? (node :: nodes) (position + 1) =
      (externalAt? nodes position).filter fun read => node.assign? ≠ some read.1 := by
  simp only [externalAt?, List.getElem?_cons_succ, List.take_succ_cons, List.all_cons,
    Option.filter_filter, Bool.and_comm]

/-- The external reads of a template are listed by their positions. -/
theorem externalReads_eq (assigned : List String) (nodes : List Node) :
    externalReads assigned nodes = (List.range nodes.length).filterMap fun position =>
      (externalAt? nodes position).filter fun read => read.1 ∉ assigned := by
  induction nodes generalizing assigned with
  | nil => rfl
  | cons node nodes ih =>
      rw [List.length_cons, List.range_succ_eq_map, List.filterMap_cons, List.filterMap_map,
        externalAt?_zero]
      simp only [Function.comp_def, externalAt?_succ, Option.filter_filter]
      cases node with
      | «extends» parent line => simp [externalReads, ih, Node.read?, Node.assign?]
      | block site => simp [externalReads, ih, Node.read?, Node.assign?]
      | text bytes line => simp [externalReads, ih, Node.read?, Node.assign?]
      | assign name line =>
          simp only [externalReads, ih, Node.read?, Node.assign?, List.mem_cons, not_or,
            Option.some.injEq, ne_eq, Bool.decide_and, eq_comm (a := name)]
          rfl
      | read name guard line =>
          by_cases member : name ∈ assigned
          · simp [externalReads, ih, Node.read?, Node.assign?, member, Option.filter_some]
          · simp [externalReads, ih, Node.read?, Node.assign?, member, Option.filter_some]

theorem externalReads_nil (nodes : List Node) :
    externalReads [] nodes = (List.range nodes.length).filterMap (externalAt? nodes) := by
  rw [externalReads_eq]
  apply List.filterMap_congr
  intro position _
  cases externalAt? nodes position <;> rfl

/-- A name is assigned first if the first node that mentions it assigns it. -/
theorem mem_firstAssigned_iff {mentioned : List String} {nodes : List Node} {name : String} :
    name ∈ firstAssigned mentioned nodes ↔ name ∉ mentioned ∧
      (nodes.find? fun node => node.mentioned? = some name).any
        (fun node => node.assign? = some name) = true := by
  induction nodes generalizing mentioned with
  | nil => simp [firstAssigned]
  | cons node nodes ih =>
      cases node with
      | «extends» parent line => simp [firstAssigned, ih, Node.mentioned?]
      | block site => simp [firstAssigned, ih, Node.mentioned?]
      | text bytes line => simp [firstAssigned, ih, Node.mentioned?]
      | assign other line =>
          by_cases same : other = name
          · subst same
            by_cases member : other ∈ mentioned
            · simp [firstAssigned, ih, Node.mentioned?, Node.assign?, member]
            · simp [firstAssigned, ih, Node.mentioned?, Node.assign?, member]
          · by_cases member : other ∈ mentioned
            · simp [firstAssigned, ih, Node.mentioned?, Node.assign?, member, same]
            · simp [firstAssigned, ih, Node.mentioned?, Node.assign?, member, same, Ne.symm same]
      | read other guard line =>
          by_cases same : other = name
          · simp [firstAssigned, ih, Node.mentioned?, Node.assign?, same]
          · simp [firstAssigned, ih, Node.mentioned?, Node.assign?, same, Ne.symm same]

/-! ## The external reads of a chain in order -/

open Classification (Occurrence)

theorem lt_length_of_externalAt? {nodes : List Node} {position : Nat} {read : String × Guard}
    (found : externalAt? nodes position = some read) : position < nodes.length := by
  obtain ⟨node, atPosition, _⟩ := Option.bind_eq_some_iff.mp (Option.filter_eq_some_iff.mp found).1
  exact (List.getElem?_eq_some_iff.mp atPosition).1

namespace Tier

variable {tier : Tier}

/-- The external reads of the template at a position of a chain, with their places. -/
def sites (tier : Tier) (position : Nat) : List (Place × Occurrence) :=
  (List.range tier.parsed.nodes.length).filterMap fun node =>
    (externalAt? tier.parsed.nodes node).map fun read =>
      (⟨position, node⟩, ⟨tier.name, read.1, read.2⟩)

theorem mem_sites_iff {position : Nat} {place : Place} {read : Occurrence} :
    (place, read) ∈ tier.sites position ↔ place.tier = position ∧
      (externalAt? tier.parsed.nodes place.node).map
        (fun read => ⟨tier.name, read.1, read.2⟩) = some read := by
  simp only [sites, List.mem_filterMap, List.mem_range, Option.map_eq_some_iff, Prod.mk.injEq]
  constructor
  · rintro ⟨node, _, found, inPlace, rfl, rfl⟩
    exact ⟨rfl, found, inPlace, rfl⟩
  · rintro ⟨rfl, found, inPlace, rfl⟩
    exact ⟨place.node, lt_length_of_externalAt? inPlace, found, inPlace, rfl, rfl⟩

theorem sites_pairwise (tier : Tier) (position : Nat) :
    (tier.sites position).Pairwise fun first second => first.1.Before second.1 := by
  apply List.pairwise_lt_range.filterMap
  intro first second before one isOne other isOther
  obtain ⟨_, _, rfl⟩ := Option.map_eq_some_iff.mp isOne
  obtain ⟨_, _, rfl⟩ := Option.map_eq_some_iff.mp isOther
  exact Or.inr ⟨rfl, before⟩

theorem map_sites (tier : Tier) (position : Nat) :
    (tier.sites position).map (·.2) = (externalReads [] tier.parsed.nodes).map fun read =>
      ⟨tier.name, read.1, read.2⟩ := by
  simp only [externalReads_nil, sites, List.map_filterMap, Option.map_map, Function.comp_def]

theorem readsExternally_iff {name : String} :
    tier.readsExternally name = true ↔ name ∈ (externalReads [] tier.parsed.nodes).map (·.1) := by
  simp only [readsExternally, externalReads_nil, List.any_eq_true, List.mem_range,
    Option.any_eq_true, decide_eq_true_eq, List.mem_map, List.mem_filterMap]
  constructor
  · rintro ⟨position, lt, read, found, named⟩
    exact ⟨read, ⟨position, lt, found⟩, named⟩
  · rintro ⟨read, ⟨position, lt, found⟩, named⟩
    exact ⟨position, lt, read, found, named⟩

end Tier

namespace Chain

variable {chain : Chain}

/-- The external reads of a chain with their places. -/
def sites (chain : Chain) : List (Place × Occurrence) :=
  chain.tiers.zipIdx.flatMap fun entry => entry.1.sites entry.2

theorem mem_sites_iff {place : Place} {read : Occurrence} :
    (place, read) ∈ chain.sites ↔ chain.externalRead? place = some read := by
  simp only [sites, List.mem_flatMap, Prod.exists, List.mk_mem_zipIdx_iff_getElem?,
    Tier.mem_sites_iff, externalRead?, Option.bind_eq_some_iff]
  constructor
  · rintro ⟨tier, position, inPlace, rfl, found⟩
    exact ⟨tier, inPlace, found⟩
  · rintro ⟨tier, inPlace, found⟩
    exact ⟨tier, place.tier, inPlace, rfl, found⟩

theorem sites_pairwise (chain : Chain) :
    chain.sites.Pairwise fun first second => first.1.Before second.1 := by
  rw [sites, List.pairwise_flatMap]
  constructor
  · intro entry _
    exact entry.1.sites_pairwise entry.2
  · rw [List.pairwise_iff_getElem]
    intro one other inOne inOther before first firstIn second secondIn
    rw [List.getElem_zipIdx] at firstIn secondIn
    have firstTier := (Tier.mem_sites_iff.mp firstIn).1
    have secondTier := (Tier.mem_sites_iff.mp secondIn).1
    left
    omega

theorem map_sites (chain : Chain) :
    chain.sites.map (·.2) = Classification.occurrences chain := by
  rw [sites, List.map_flatMap, Classification.occurrences]
  simp only [Tier.map_sites]
  conv_rhs => rw [← List.zipIdx_map_fst 0 chain.tiers, List.flatMap_map]

/-- The first external read with some property stands at a place before which none has it. -/
theorem findSome?_occurrences_iff {β : Type} {pick : Occurrence → Option β} {value : β} :
    (Classification.occurrences chain).findSome? pick = some value ↔
      ∃ place read, chain.externalRead? place = some read ∧ pick read = some value ∧
        ∀ other, other.Before place → ∀ earlier, chain.externalRead? other = some earlier →
          pick earlier = none := by
  rw [← map_sites, List.findSome?_map, List.findSome?_eq_some_iff]
  have sorted := chain.sites_pairwise
  constructor
  · rintro ⟨before, ⟨place, read⟩, after, split, picked, noneBefore⟩
    refine ⟨place, read, mem_sites_iff.mp (by simp [split]), picked, ?_⟩
    intro other isBefore earlier atOther
    have member := mem_sites_iff.mpr atOther
    rw [split] at member sorted
    rcases List.mem_append.mp member with inBefore | inRest
    · exact noneBefore _ inBefore
    · rcases List.mem_cons.mp inRest with same | inAfter
      · rw [(Prod.mk.inj same).1] at isBefore
        exact absurd isBefore isBefore.asymm
      · have follows := List.rel_of_pairwise_cons (List.pairwise_append.mp sorted).2.1 inAfter
        exact absurd isBefore (Place.Before.asymm follows)
  · rintro ⟨place, read, atPlace, picked, first⟩
    obtain ⟨before, after, split⟩ := List.append_of_mem (mem_sites_iff.mpr atPlace)
    refine ⟨before, (place, read), after, split, picked, ?_⟩
    rintro ⟨other, earlier⟩ otherIn
    have atOther := mem_sites_iff.mp (split ▸ List.mem_append_left _ otherIn)
    rw [split] at sorted
    have before := (List.pairwise_append.mp sorted).2.2 _ otherIn _ List.mem_cons_self
    exact first other before _ atOther

end Chain

/-! ## A variable and the list of its reads -/

/-- Adds a name to a list of names that does not end with it. -/
def addLast (names : List String) (name : String) : List String :=
  if names.getLast? = some name then names else names ++ [name]

theorem foldl_addLast_replicate (names : List String) (name : String) (count : Nat) :
    (List.replicate count name).foldl addLast (names ++ [name]) = names ++ [name] := by
  induction count with
  | zero => rfl
  | succ count ih =>
      rw [List.replicate_succ, List.foldl_cons, addLast, if_pos List.getLast?_concat, ih]

theorem head?_foldl_addLast (added names : List String) :
    (added.foldl addLast names).head? = (names ++ added).head? := by
  induction added generalizing names with
  | nil => simp
  | cons name added ih =>
      rw [List.foldl_cons, ih, addLast]
      split
      · cases names with
        | nil => contradiction
        | cons first rest => rfl
      · rw [List.append_assoc, List.singleton_append]

/-- A tier is added once for all the reads in it. -/
theorem foldl_addLast_tiers {reads : Tier → List (String × Guard)} {tiers : List Tier}
    {names : List String} (distinct : (tiers.map (·.name)).Nodup)
    (new : ∀ last, names.getLast? = some last → last ∉ tiers.map (·.name)) :
    (tiers.flatMap fun tier => (reads tier).map fun _ => tier.name).foldl addLast names =
      names ++ (tiers.filter fun tier => reads tier ≠ []).map (·.name) := by
  induction tiers generalizing names with
  | nil => simp
  | cons tier tiers ih =>
      rw [List.map_cons, List.nodup_cons] at distinct
      rw [List.flatMap_cons, List.foldl_append]
      cases inTier : reads tier with
      | nil =>
          have newBelow : ∀ last, names.getLast? = some last → last ∉ tiers.map (·.name) := by
            intro last isLast member
            exact new last isLast (List.mem_cons_of_mem _ member)
          rw [List.map_nil, List.foldl_nil, ih distinct.2 newBelow]
          simp [inTier]
      | cons read rest =>
          have notLast : names.getLast? ≠ some tier.name := by
            intro isLast
            exact new _ isLast List.mem_cons_self
          have newBelow : ∀ last, (names ++ [tier.name]).getLast? = some last →
              last ∉ tiers.map (·.name) := by
            intro last isLast
            rw [List.getLast?_concat, Option.some.injEq] at isLast
            exact isLast ▸ distinct.1
          rw [List.map_cons, List.foldl_cons, addLast, if_neg notLast, List.map_const',
            foldl_addLast_replicate, ih distinct.2 newBelow]
          simp [inTier]

namespace Variable

/-- Takes an external read into account. -/
def absorb (var : Variable) (read : Occurrence) : Variable :=
  (var.addTier read.tier).addGuard read.guard

/-- The variable that the external reads of one name make up. -/
def ofReads : List Occurrence → Option Variable
  | [] => none
  | first :: rest => some ((first :: rest).foldl absorb (firstRead first.name first.tier))

theorem ofReads_concat (reads : List Occurrence) (read : Occurrence) :
    ofReads (reads ++ [read]) =
      some (((ofReads reads).getD (firstRead read.name read.tier)).absorb read) := by
  cases reads with
  | nil => rfl
  | cons first rest => simp [ofReads]

theorem absorb_eq (var : Variable) (read : Occurrence) :
    var.absorb read =
      { name := var.name
        required := var.required && read.guard = .bare
        provenance := var.provenance
        fallback := var.fallback <|> read.guard.fallback?
        tiers := addLast var.tiers read.tier } := by
  unfold absorb addTier addLast
  cases read.guard <;> split <;> simp [addGuard, Guard.fallback?]

/-- A read adds its template, a guard makes the variable optional, and the first fallback stays. -/
theorem foldl_absorb (reads : List Occurrence) (var : Variable) :
    reads.foldl absorb var =
      { name := var.name
        required := var.required && reads.all fun read => read.guard = .bare
        provenance := var.provenance
        fallback := var.fallback <|> reads.findSome? (·.guard.fallback?)
        tiers := (reads.map (·.tier)).foldl addLast var.tiers } := by
  induction reads generalizing var with
  | nil => simp
  | cons read reads ih =>
      rw [List.foldl_cons, ih]
      rw [absorb_eq]
      simp only [List.all_cons, List.findSome?_cons, List.map_cons, List.foldl_cons, Bool.and_assoc]
      cases var.fallback <;> cases read.guard.fallback? <;> rfl

theorem ofReads_eq_some_iff {reads : List Occurrence} {var : Variable} :
    ofReads reads = some var ↔ ∃ first, reads.head? = some first ∧ var =
      { name := first.name
        required := reads.all fun read => read.guard = .bare
        provenance := first.tier
        fallback := reads.findSome? (·.guard.fallback?)
        tiers := (reads.map (·.tier)).foldl addLast [] } := by
  cases reads with
  | nil => simp [ofReads]
  | cons first rest =>
      rw [ofReads, foldl_absorb]
      simp only [firstRead, Bool.true_and, List.head?_cons, Option.some.injEq, exists_eq_left']
      exact eq_comm

end Variable

/-! ## What a classification has gathered -/

namespace Classification

/-- What the map `seen` holds when the external reads `reads` have been taken into account. -/
structure Gathers (reads : List Occurrence) (seen : OrderedMap Variable) : Prop where
  indexed : seen.Indexed
  accounts : ∀ name,
    seen.get? name = Variable.ofReads (reads.filter fun read => read.name = name)
  /-- The names come in the order of their first reads. -/
  order : seen.keys.Pairwise fun first second =>
    (reads.map (·.name)).idxOf first < (reads.map (·.name)).idxOf second

variable {reads : List Occurrence} {seen : OrderedMap Variable}

theorem gathers_nil : Gathers [] .empty where
  indexed := OrderedMap.indexed_empty
  accounts _ := by simp [OrderedMap.get?, OrderedMap.empty, Variable.ofReads]
  order := .nil

theorem Gathers.mem_keys_iff (gathers : Gathers reads seen) {name : String} :
    name ∈ seen.keys ↔ name ∈ reads.map (·.name) := by
  rw [← not_iff_not, ← gathers.indexed.get?_eq_none_iff, gathers.accounts]
  constructor
  · intro without member
    obtain ⟨read, readIn, rfl⟩ := List.mem_map.mp member
    cases found : reads.filter fun other => other.name = read.name with
    | nil => simpa using List.filter_eq_nil_iff.mp found read readIn
    | cons first rest => rw [found] at without; cases without
  · intro absent
    rw [List.filter_eq_nil_iff.mpr]
    · rfl
    · intro read readIn named
      exact absent (List.mem_map.mpr ⟨read, readIn, by simpa using named⟩)

theorem Gathers.add (gathers : Gathers reads seen) (read : Occurrence) :
    Gathers (reads ++ [read]) (add seen read) where
  indexed := gathers.indexed.set _ _
  accounts name := by
    rw [Classification.add, gathers.indexed.get?_set, gathers.accounts, gathers.accounts,
      List.filter_append]
    by_cases same : read.name = name
    · rw [if_pos same.symm, List.filter_cons_of_pos (by simpa using same), List.filter_nil, same,
        Variable.ofReads_concat, same]
      rfl
    · rw [if_neg (Ne.symm same), List.filter_cons_of_neg (by simpa using same), List.filter_nil,
        List.append_nil]
  order := by
    have old : ∀ name ∈ seen.keys, ((reads ++ [read]).map (·.name)).idxOf name =
        (reads.map (·.name)).idxOf name := by
      intro name member
      rw [List.map_append, List.idxOf_append, if_pos (gathers.mem_keys_iff.mp member)]
    have kept : seen.keys.Pairwise fun first second =>
        ((reads ++ [read]).map (·.name)).idxOf first <
          ((reads ++ [read]).map (·.name)).idxOf second := by
      apply gathers.order.imp_of_mem
      intro first second firstIn secondIn before
      rwa [old first firstIn, old second secondIn]
    rw [Classification.add, gathers.indexed.keys_set]
    split
    · exact kept
    · rename_i new
      rw [List.pairwise_append]
      refine ⟨kept, List.pairwise_singleton _ _, ?_⟩
      intro name member last isLast
      rw [List.mem_singleton.mp isLast, old name member, List.map_append, List.idxOf_append,
        if_neg (mt gathers.mem_keys_iff.mpr new)]
      have lt := List.idxOf_lt_length_of_mem (gathers.mem_keys_iff.mp member)
      omega

theorem gathers_foldl (reads : List Occurrence) :
    Gathers reads (reads.foldl Classification.add .empty) := by
  induction reads using List.reverseRecOn with
  | nil => exact gathers_nil
  | append_singleton reads read ih =>
      rw [List.foldl_append]
      exact ih.add read

theorem gathers_merged (chain : Chain) : Gathers (occurrences chain) (merged chain) :=
  gathers_foldl _

/-! ## The variables and the places of their reads -/

variable {chain : Chain} {name : String}

theorem mem_occurrences_iff {read : Occurrence} :
    read ∈ occurrences chain ↔ ∃ place, chain.externalRead? place = some read := by
  rw [← Chain.map_sites, List.mem_map]
  constructor
  · rintro ⟨⟨place, _⟩, member, rfl⟩
    exact ⟨place, Chain.mem_sites_iff.mp member⟩
  · rintro ⟨place, found⟩
    exact ⟨(place, read), Chain.mem_sites_iff.mpr found, rfl⟩

theorem mem_locals_iff :
    name ∈ locals chain ↔ ∃ tier ∈ chain.tiers, tier.assignsFirst name = true := by
  simp [locals, mem_firstAssigned_iff, Tier.assignsFirst]

theorem mem_occurrences_names_iff :
    name ∈ (occurrences chain).map (·.name) ↔
      ∃ tier ∈ chain.tiers, tier.readsExternally name = true := by
  simp [occurrences, Tier.readsExternally_iff]

/-- The templates in which a name is read are listed once each. -/
theorem tiers_of_reads (name : String) (distinct : chain.names.Nodup) :
    (((occurrences chain).filter fun read => read.name = name).map (·.tier)).foldl addLast [] =
      (chain.tiers.filter (·.readsExternally name)).map (·.name) := by
  have inTiers : ((occurrences chain).filter fun read => read.name = name).map (·.tier) =
      chain.tiers.flatMap fun tier =>
        ((externalReads [] tier.parsed.nodes).filter fun read => read.1 = name).map
          fun _ => tier.name := by
    simp only [occurrences, List.filter_flatMap, List.map_flatMap, List.filter_map, List.map_map,
      Function.comp_def]
  have reading : ∀ tier : Tier, tier.readsExternally name =
      decide (((externalReads [] tier.parsed.nodes).filter fun read => read.1 = name) ≠ []) := by
    intro tier
    rw [Bool.eq_iff_iff, Tier.readsExternally_iff]
    simp [List.filter_eq_nil_iff]
  rw [inTiers, foldl_addLast_tiers distinct (by simp), List.nil_append]
  simp only [reading]

/-- The description of the fallback of a read, if the read is one of the given name. -/
def pickFallback? (name : String) (read : Occurrence) : Option String :=
  if read.name = name then read.guard.fallback? else none

theorem pickFallback?_eq_some_iff {tier readName description : String} {guard : Guard} :
    pickFallback? name ⟨tier, readName, guard⟩ = some description ↔
      readName = name ∧ guard = .fallback description := by
  cases guard <;> simp [pickFallback?, Guard.fallback?]

theorem findSome?_fallback (reads : List Occurrence) :
    (reads.filter fun read => read.name = name).findSome? (·.guard.fallback?) =
      reads.findSome? (pickFallback? name) := by
  induction reads with
  | nil => rfl
  | cons read reads ih =>
      rw [List.findSome?_cons, pickFallback?]
      by_cases same : read.name = name
      · rw [List.filter_cons_of_pos (by simpa using same), List.findSome?_cons, if_pos same, ih]
      · rw [List.filter_cons_of_neg (by simpa using same), if_neg same, ih]

/-- A gathered variable says about the reads of its name what it should. -/
theorem describes (distinct : chain.names.Nodup) {var : Variable}
    (found : (merged chain).get? name = some var) : chain.Describes name var := by
  rw [(gathers_merged chain).accounts, Variable.ofReads_eq_some_iff] at found
  obtain ⟨first, isFirst, rfl⟩ := found
  have firstIn := List.mem_of_head? isFirst
  have named : first.name = name := by simpa using List.of_mem_filter firstIn
  have tiers := tiers_of_reads name distinct
  constructor
  · exact named
  · simp only [List.all_eq_true, List.mem_filter, decide_eq_true_eq, mem_occurrences_iff]
    constructor
    · intro bare place read atPlace readName
      exact bare read ⟨⟨place, atPlace⟩, readName⟩
    · rintro bare read ⟨⟨place, atPlace⟩, readName⟩
      exact bare place read atPlace readName
  · rw [← List.head?_filter, ← List.head?_map, ← tiers, head?_foldl_addLast, List.nil_append,
      List.head?_map, isFirst, Option.map_some]
  · exact tiers
  · rw [tiers]
    exact distinct.sublist (List.filter_sublist.map _)
  · intro description
    rw [findSome?_fallback, Chain.findSome?_occurrences_iff]
    constructor
    · rintro ⟨place, ⟨tier, readName, guard⟩, atPlace, picked, first⟩
      obtain ⟨rfl, rfl⟩ := pickFallback?_eq_some_iff.mp picked
      refine ⟨place, tier, atPlace, ?_⟩
      intro other before tier earlier atOther
      have without := first other before _ atOther
      rw [pickFallback?_eq_some_iff.mpr ⟨rfl, rfl⟩] at without
      cases without
    · rintro ⟨place, tier, atPlace, first⟩
      refine ⟨place, _, atPlace, pickFallback?_eq_some_iff.mpr ⟨rfl, rfl⟩, ?_⟩
      rintro other before ⟨tier, readName, guard⟩ atOther
      rw [Option.eq_none_iff_forall_ne_some]
      intro earlier picked
      obtain ⟨rfl, rfl⟩ := pickFallback?_eq_some_iff.mp picked
      exact first other before tier earlier atOther
  · rw [findSome?_fallback, List.findSome?_eq_none_iff]
    constructor
    · intro without place tier description atPlace
      have without := without _ (mem_occurrences_iff.mpr ⟨place, atPlace⟩)
      rw [pickFallback?_eq_some_iff.mpr ⟨rfl, rfl⟩] at without
      cases without
    · rintro without ⟨tier, readName, guard⟩ member
      obtain ⟨place, atPlace⟩ := mem_occurrences_iff.mp member
      rw [Option.eq_none_iff_forall_ne_some]
      intro description picked
      obtain ⟨rfl, rfl⟩ := pickFallback?_eq_some_iff.mp picked
      exact without place tier description atPlace

/-- The first read of a name among all reads stands at the first place of the name. -/
theorem firstRead_idxOf
    (inSites : ((occurrences chain).map (·.name)).idxOf name < chain.sites.length) :
    chain.FirstRead name chain.sites[((occurrences chain).map (·.name)).idxOf name].1 := by
  have names : (occurrences chain).map (·.name) = chain.sites.map (·.2.name) := by
    rw [← Chain.map_sites, List.map_map]
    rfl
  revert inSites
  rw [names]
  intro inSites
  refine ⟨⟨_, Chain.mem_sites_iff.mp (List.getElem_mem inSites), ?_⟩, ?_⟩
  · have inNames : (chain.sites.map (·.2.name)).idxOf name <
        (chain.sites.map (·.2.name)).length := by simpa using inSites
    have named := List.getElem_idxOf inNames
    rwa [List.getElem_map] at named
  · intro other before read atOther
    obtain ⟨position, inRange, isOther⟩ := List.getElem_of_mem (Chain.mem_sites_iff.mpr atOther)
    have sorted := List.pairwise_iff_getElem.mp chain.sites_pairwise
    rcases Nat.lt_trichotomy position ((chain.sites.map (·.2.name)).idxOf name) with lt | rfl | gt
    · have different := List.not_of_lt_findIdx lt
      simpa [isOther] using different
    · rw [isOther] at before
      exact absurd before before.asymm
    · have follows := sorted _ _ inSites inRange gt
      rw [isOther] at follows
      exact absurd before (Place.Before.asymm follows)

/-! ## The classification -/

theorem name_of_get?_merged {var : Variable} (found : (merged chain).get? name = some var) :
    var.name = name := by
  rw [(gathers_merged chain).accounts, Variable.ofReads_eq_some_iff] at found
  obtain ⟨first, isFirst, rfl⟩ := found
  simpa using List.of_mem_filter (List.mem_of_head? isFirst)

/-- The gathered variables carry the names under which they stand. -/
theorem map_name_merged (chain : Chain) :
    (merged chain).values.map (·.name) = (merged chain).keys :=
  (gathers_merged chain).indexed.map_values fun _ _ => name_of_get?_merged

theorem mem_values_merged_iff {var : Variable} :
    var ∈ (merged chain).values ↔ (merged chain).get? var.name = some var :=
  (gathers_merged chain).indexed.mem_values_iff fun _ _ => name_of_get?_merged

/-- The needed variables are the gathered ones that no template of the chain assigns first. -/
theorem ofChain_needed (chain : Chain) :
    (ofChain chain).needed.Indexed ∧ (ofChain chain).needed.toList =
      ((merged chain).values.filter fun var => !(locals chain).contains var.name).map
        fun var => (var.name, var) := by
  apply OrderedMap.indexed_empty.foldl_set
  have distinct := (gathers_merged chain).indexed.keys_nodup
  rw [← map_name_merged] at distinct
  exact distinct.sublist (List.filter_sublist.map _)

theorem values_ofChain (chain : Chain) :
    (ofChain chain).needed.values =
      (merged chain).values.filter fun var => !(locals chain).contains var.name := by
  rw [OrderedMap.values, (ofChain_needed chain).2, List.map_map]
  exact List.map_id' _

theorem keys_ofChain (chain : Chain) :
    (ofChain chain).needed.keys = (ofChain chain).needed.values.map (·.name) := by
  rw [values_ofChain, OrderedMap.keys, (ofChain_needed chain).2, List.map_map]
  rfl

theorem get?_ofChain_eq_some_iff {var : Variable} :
    (ofChain chain).get? name = some var ↔
      (merged chain).get? name = some var ∧ name ∉ locals chain := by
  rw [Classification.get?, (ofChain_needed chain).1.get?_eq_some_iff, (ofChain_needed chain).2]
  simp only [List.mem_map, List.mem_filter, mem_values_merged_iff, Prod.mk.injEq,
    Bool.not_eq_true', List.contains_eq_mem, decide_eq_false_iff_not]
  constructor
  · rintro ⟨var, ⟨found, notLocal⟩, rfl, rfl⟩
    exact ⟨found, notLocal⟩
  · rintro ⟨found, notLocal⟩
    have named := name_of_get?_merged found
    subst named
    exact ⟨var, ⟨found, notLocal⟩, rfl, rfl⟩

theorem mem_values_ofChain_iff {var : Variable} :
    var ∈ (ofChain chain).needed.values ↔ (ofChain chain).get? var.name = some var := by
  rw [values_ofChain, List.mem_filter, mem_values_merged_iff, get?_ofChain_eq_some_iff]
  simp

/-- A chain needs the names with an external read that no template assigns first. -/
theorem exists_get?_ofChain_iff :
    (∃ var, (ofChain chain).get? name = some var) ↔
      (∃ tier ∈ chain.tiers, tier.readsExternally name = true) ∧
        ∀ tier ∈ chain.tiers, tier.assignsFirst name = false := by
  have gathers := gathers_merged chain
  have gathered : (∃ var, (merged chain).get? name = some var) ↔
      ∃ tier ∈ chain.tiers, tier.readsExternally name = true := by
    rw [← mem_occurrences_names_iff, ← gathers.mem_keys_iff, ← Option.ne_none_iff_exists', ne_eq,
      gathers.indexed.get?_eq_none_iff, not_not]
  have notLocal : name ∉ locals chain ↔ ∀ tier ∈ chain.tiers, tier.assignsFirst name = false := by
    simp [mem_locals_iff]
  simp only [get?_ofChain_eq_some_iff, exists_and_right, gathered, notLocal]

/-- The needed names come in the order of the places of their first external reads. -/
theorem keys_ofChain_ordered (chain : Chain) :
    (ofChain chain).needed.keys.Pairwise fun first second => ∃ place later,
      chain.FirstRead first place ∧ chain.FirstRead second later ∧ place.Before later := by
  have gathers := gathers_merged chain
  have inMerged : (ofChain chain).needed.keys.Sublist (merged chain).keys := by
    rw [keys_ofChain, values_ofChain, ← map_name_merged]
    exact List.filter_sublist.map _
  have inSites : ∀ name ∈ (merged chain).keys,
      ((occurrences chain).map (·.name)).idxOf name < chain.sites.length := by
    intro name member
    have lt := List.idxOf_lt_length_of_mem (gathers.mem_keys_iff.mp member)
    rwa [← Chain.map_sites, List.length_map, List.length_map, Chain.map_sites] at lt
  refine List.Pairwise.sublist inMerged (gathers.order.imp_of_mem ?_)
  intro first second firstIn secondIn before
  exact ⟨_, _, firstRead_idxOf (inSites first firstIn), firstRead_idxOf (inSites second secondIn),
    List.pairwise_iff_getElem.mp chain.sites_pairwise _ _ _ _ before⟩

/-- The chain that a resolution finds needs a name exactly if some template of it has an external
read of the name, and in no template the first node that mentions the name assigns it.  Each
variable says about the external reads of its name what it should (`Chain.Describes`).  The
variables come in the order of the places of their first external reads, and are divided into the
required and the optional ones, both in the same order. -/
theorem ofChain_external_reads {resolution : Resolution} {intake : Intake} {chain : Chain}
    (found : (resolution.run intake).1 = .ok chain) :
    (∀ name, (∃ var, (ofChain chain).get? name = some var) ↔
      (∃ tier ∈ chain.tiers, tier.readsExternally name = true) ∧
        ∀ tier ∈ chain.tiers, tier.assignsFirst name = false) ∧
    (∀ name var, (ofChain chain).get? name = some var → chain.Describes name var) ∧
    (∀ var, var ∈ (ofChain chain).needed.values ↔ (ofChain chain).get? var.name = some var) ∧
    ((ofChain chain).needed.values.map (·.name)).Pairwise (fun first second => ∃ place later,
      chain.FirstRead first place ∧ chain.FirstRead second later ∧ place.Before later) ∧
    (ofChain chain).required.Sublist (ofChain chain).needed.values ∧
    (ofChain chain).optional.Sublist (ofChain chain).needed.values ∧
    (∀ var ∈ (ofChain chain).required, var.required = true) ∧
    (∀ var ∈ (ofChain chain).optional, var.required = false) ∧
    (ofChain chain).required.Disjoint (ofChain chain).optional ∧
    ((ofChain chain).required ++ (ofChain chain).optional).Perm (ofChain chain).needed.values := by
  have distinct := Resolution.run_names_nodup found
  have required : ∀ var ∈ (ofChain chain).required, var.required = true := by
    intro var member
    exact (List.mem_filter.mp member).2
  have optional : ∀ var ∈ (ofChain chain).optional, var.required = false := by
    intro var member
    simpa using (List.mem_filter.mp member).2
  refine ⟨fun name => exists_get?_ofChain_iff, ?_, fun var => mem_values_ofChain_iff, ?_,
    List.filter_sublist, List.filter_sublist, required, optional, ?_, List.filter_append_perm _ _⟩
  · intro name var look
    exact describes distinct (get?_ofChain_eq_some_iff.mp look).1
  · rw [← keys_ofChain]
    exact keys_ofChain_ordered chain
  · intro var inRequired inOptional
    have both := (required var inRequired).symm.trans (optional var inOptional)
    cases both

/-- A fallback in one template makes the variable optional, and a name that the leaf assigns before
it mentions it is not needed. -/
theorem ofChain_leaf_assigns_title :
    let base := Source.ofText (Sample.output "title" ++ Sample.output "site or 'x'")
    let child := Source.ofText
      (Sample.extendsTag "base" ++ Sample.tag "set title = 1" ++ Sample.output "site")
    let resolution : Resolution := ⟨Library.lookup ⟨[("base", base), ("child", child)]⟩, "child", 2⟩
    let chain : Chain :=
      ⟨[⟨"base", base, "base", [.read "title" .bare 1, .read "site" (.fallback "x") 1]⟩,
        ⟨"child", child, "child",
          [.extends (.literal "base") 1, .assign "title" 1, .read "site" .bare 1]⟩],
        List.cons_ne_nil _ _⟩
    (resolution.run .empty).1 = .ok chain ∧
      (∃ var, (ofChain chain).get? "site" = some var ∧ chain.Describes "site" var) ∧
      ¬ ∃ var, (ofChain chain).get? "title" = some var := by
  intro base child resolution chain
  have baseRead : resolution.lookup.tier "base" = .ok (some chain.root) :=
    Lookup.tier_eq_some_iff.mpr ⟨rfl, rfl, by decide +kernel⟩
  have childRead : resolution.lookup.tier "child" = .ok (some chain.leaf) :=
    Lookup.tier_eq_some_iff.mpr ⟨rfl, rfl, by decide +kernel⟩
  have found : (resolution.run .empty).1 = .ok chain := by
    have name : chain.leaf.name = "child" := rfl
    have parent : chain.leaf.parent = some "base" := by decide +kernel
    have root : chain.root.parent = none := by decide +kernel
    rw [Resolution.run_fst (ParseCache.truthful_empty _)]
    simp only [resolution, Resolution.ascend, List.any_nil, childRead, parent]
    simp [root, baseRead, name, resolution]
    rfl
  have needs := ofChain_external_reads found
  refine ⟨found, ?_, ?_⟩
  · obtain ⟨var, look⟩ := (needs.1 "site").mpr (by decide +kernel)
    exact ⟨var, look, needs.2.1 "site" var look⟩
  · rw [needs.1 "title"]
    decide +kernel

end Classification

end Lineage
