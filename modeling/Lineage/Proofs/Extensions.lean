import Lineage.Proofs.BlockSites
import Lineage.Proofs.ExternalVariables
import Lineage.Proofs.Inheritance

/-!
# What a template inherits from the chain of its parent

The chain of a template is that of its parent with the template behind it.  What the analyses find
in the shorter chain is carried over to the longer one: the blocks (`BlockIndex.Carries`), the
declarations (`Metadata.Carries`), and the variables (`Classification.Carries`).  A failure in the
shorter chain is carried over as well.

Names are listed in the order in which they first come up, so those of the shorter chain come first
(`eraseDups_isPrefix`).  This holds of the variables only before the names are left out that some
template assigns first, which can take any of them away.
-/

namespace Lineage

open Classification (Occurrence)

/-! ## What is carried over -/

/-- What the index of a chain keeps of the index without the leaf. -/
structure BlockIndex.Carries (above index : BlockIndex) (leaf : Tier) : Prop where
  names : above.blocks.keys <+: index.blocks.keys
  warnings : above.warnings <+: index.warnings
  /-- A block stays where it is defined, and only the leaf may override it once more. -/
  definitions : ∀ name definition, above.get? name = some definition →
    ∃ added : Option BlockOverride, (∀ one ∈ added, one.template = leaf.name) ∧
      index.get? name =
        some { definition with overrides := definition.overrides ++ added.toList }

/-- What the declarations of a chain keep of those without the leaf. -/
structure Metadata.Carries (above metadata : Metadata) : Prop where
  rules : above.rules.keys <+: metadata.rules.keys
  described : above.descriptions.keys <+: metadata.descriptions.keys
  audits : above.tiers <+: metadata.tiers

/-- What the variables of a chain keep of those without the leaf. -/
structure Classification.Carries (above classification : Classification) (leaf : Tier) : Prop where
  provenance : ∀ name var later, above.get? name = some var →
    classification.get? name = some later → later.provenance = var.provenance
  fallback : ∀ name var later description, above.get? name = some var →
    classification.get? name = some later → var.fallback = some description →
    later.fallback = some description
  /-- A variable that is optional stays so. -/
  required : ∀ name var later, above.get? name = some var →
    classification.get? name = some later → later.required = true → var.required = true
  /-- The variables of both chains come in the same order. -/
  order : classification.needed.keys.filter (· ∈ above.needed.keys) =
    above.needed.keys.filter (· ∈ classification.needed.keys)
  /-- A variable is lost only if the leaf assigns it before it mentions it in any other way. -/
  lost : ∀ name var, above.get? name = some var → classification.get? name = none →
    leaf.assignsFirst name = true

/-- The chain that ends above the leaf of another one, whose analyses are carried over. -/
structure Chain.HandsDown (above chain : Chain) : Prop where
  tiers : above.tiers = chain.tiers.dropLast
  blocksFailure : ∀ failure, BlockIndex.ofChain above = .error failure →
    BlockIndex.ofChain chain = .error failure
  declarationsFailure : ∀ failure, Metadata.ofChain above = .error failure →
    Metadata.ofChain chain = .error failure
  blocks : ∀ index, BlockIndex.ofChain chain = .ok index → ∃ indexAbove,
    BlockIndex.ofChain above = .ok indexAbove ∧ indexAbove.Carries index chain.leaf
  declarations : ∀ metadata, Metadata.ofChain chain = .ok metadata → ∃ metadataAbove,
    Metadata.ofChain above = .ok metadataAbove ∧ metadataAbove.Carries metadata
  classification : (Classification.ofChain above).Carries (Classification.ofChain chain) chain.leaf

variable {above chain : Chain} {leaf : Tier}

/-! ## The blocks -/

namespace BlockIndex

variable {index : BlockIndex}

theorem ofChain_error_carried (longer : chain.tiers = above.tiers ++ [leaf])
    (distinct : ∀ tier ∈ chain.tiers, tier.blockNames.Nodup) {failure : Failure}
    (failed : ofChain above = .error failure) : ofChain chain = .error failure := by
  have answers := answers_ofChain distinct
  rw [longer] at distinct
  have answersAbove :=
    answers_ofChain fun tier member => distinct tier (List.mem_append_left _ member)
  obtain ⟨site, orphan, same⟩ := answersAbove.eq_error_iff.mp failed
  refine answers.eq_error_iff.mpr ⟨site, ?_, same⟩
  rw [longer, blockSites_concat, List.find?_append, orphan, Option.some_or]

/-- The sites of the leaf add at most one version of a block. -/
theorem Indexes.carries {indexAbove : BlockIndex}
    (indexesAbove : Indexes (blockSites above.tiers) indexAbove)
    (indexes : Indexes (blockSites (above.tiers ++ [leaf])) index)
    (distinct : leaf.blockNames.Nodup) : indexAbove.Carries index leaf := by
  rw [blockSites_concat] at indexes
  constructor
  · rw [indexesAbove.keys, indexes.keys, List.map_append]
    exact eraseDups_isPrefix _ _
  · rw [indexesAbove.warnings, indexes.warnings, List.filter_append, List.map_append]
    exact List.prefix_append _ _
  · intro name definition found
    have here : (leaf.blockSites above.tiers).filter (·.block.name = name) =
        (leaf.block? name).toList.map fun block => ⟨above.tiers, leaf, block⟩ := by
      rw [Tier.blockSites, List.filter_map]
      exact congrArg _ (filter_of_nodup distinct name)
    rw [indexesAbove.definitions] at found
    rw [indexes.definitions, List.filter_append, List.map_append, here]
    cases versions : ((blockSites above.tiers).filter (·.block.name = name)).map
        BlockSite.version with
    | nil =>
        rw [versions] at found
        cases found
    | cons first later =>
        rw [versions] at found
        obtain rfl := Option.some.inj found
        refine ⟨(leaf.block? name).map fun block => ⟨leaf.name, block.callsSuper⟩, ?_, ?_⟩
        · intro one member
          obtain ⟨block, _, rfl⟩ := Option.map_eq_some_iff.mp member
          rfl
        · cases leaf.block? name <;> rfl

theorem ofChain_carried (longer : chain.tiers = above.tiers ++ [leaf])
    (distinct : ∀ tier ∈ chain.tiers, tier.blockNames.Nodup) (done : ofChain chain = .ok index) :
    ∃ indexAbove, ofChain above = .ok indexAbove ∧ indexAbove.Carries index leaf := by
  cases doneAbove : ofChain above with
  | error failure =>
      rw [ofChain_error_carried longer distinct doneAbove] at done
      cases done
  | ok indexAbove =>
      -- both indexes are told by their sites, and the sites above are the first ones
      have answers := answers_ofChain distinct
      rw [longer] at answers distinct
      have answersAbove :=
        answers_ofChain fun tier member => distinct tier (List.mem_append_left _ member)
      rw [done] at answers
      rw [doneAbove] at answersAbove
      exact ⟨indexAbove, rfl, Indexes.carries answersAbove answers (distinct leaf (by simp))⟩

end BlockIndex

/-! ## The declarations -/

namespace Metadata

variable {metadata : Metadata}

theorem ofChain_error_carried (longer : chain.tiers = above.tiers ++ [leaf]) {failure : Failure}
    (failed : ofChain above = .error failure) : ofChain chain = .error failure := by
  obtain ⟨before, tier, after, split, rejected, accepted⟩ := ofChain_eq_error_iff.mp failed
  refine ofChain_eq_error_iff.mpr ⟨before, tier, after ++ [leaf], ?_, rejected, accepted⟩
  rw [longer, split, List.append_assoc, List.cons_append]

theorem levelAt_append {first second : List Declaration} {position : Nat}
    (lt : position < first.length) :
    levelAt (first ++ second) position = levelAt first position := by
  rw [levelAt, List.take_append_of_le_length lt]
  rfl

/-- The first templates of a chain declare the same without the later ones. -/
theorem Declares.of_append {tiers more : List Tier} {declared : List Declaration}
    (declares : Declares (tiers ++ more) declared) :
    ∃ first second, declared = first ++ second ∧ Declares tiers first := by
  have first : Declares ((tiers ++ more).take tiers.length) (declared.take tiers.length) :=
    List.forall₂_take _ declares
  rw [List.take_left] at first
  exact ⟨_, _, (List.take_append_drop _ _).symm, first⟩

theorem Merges.carries {metadataAbove : Metadata} {tiers more : List Tier}
    {first second : List Declaration} (mergesAbove : metadataAbove.Merges tiers first)
    (merges : metadata.Merges (tiers ++ more) (first ++ second)) :
    metadataAbove.Carries metadata := by
  constructor
  · rw [mergesAbove.ruleIds, merges.ruleIds, List.flatMap_append]
    exact eraseDups_isPrefix _ _
  · rw [mergesAbove.described, merges.described, List.flatMap_append]
    exact eraseDups_isPrefix _ _
  · rw [List.prefix_iff_getElem?]
    intro position lt
    obtain ⟨tier, one, here, found, same⟩ :=
      (mergesAbove.audits position _).mp (List.getElem?_eq_getElem lt)
    have inTiers := (List.getElem?_eq_some_iff.mp here).1
    have inFirst := (List.getElem?_eq_some_iff.mp found).1
    refine (merges.audits position _).mpr ⟨tier, one, ?_, ?_, ?_⟩
    · rw [List.getElem?_append_left inTiers, here]
    · rw [List.getElem?_append_left inFirst, found]
    · rw [levelAt_append inFirst, same]

theorem ofChain_carried (longer : chain.tiers = above.tiers ++ [leaf])
    (done : ofChain chain = .ok metadata) :
    ∃ metadataAbove, ofChain above = .ok metadataAbove ∧ metadataAbove.Carries metadata := by
  obtain ⟨declared, declares, rfl⟩ := ofChain_eq_ok_iff.mp done
  have merges := merges_merged declares (getLast?_tiers chain)
  rw [longer] at declares merges
  obtain ⟨first, second, rfl, declaresAbove⟩ := declares.of_append
  have mergesAbove := merges_merged declaresAbove (getLast?_tiers above)
  refine ⟨_, ofChain_eq_ok_iff.mpr ⟨first, declaresAbove, rfl⟩, ?_⟩
  rw [longer]
  exact mergesAbove.carries merges

end Metadata

/-! ## The variables -/

namespace Variable

/-- Further reads of a name keep its first template and its fallback, and make no variable
required. -/
theorem ofReads_append {reads more : List Occurrence} {var : Variable}
    (found : ofReads reads = some var) :
    ofReads (reads ++ more) = some (more.foldl absorb var) := by
  cases reads with
  | nil => cases found
  | cons first rest =>
      obtain rfl := Option.some.inj found
      rw [List.cons_append, ofReads, ← List.cons_append, List.foldl_append]

end Variable

namespace Classification

theorem occurrences_longer (longer : chain.tiers = above.tiers ++ [leaf]) :
    ∃ more, occurrences chain = occurrences above ++ more := by
  rw [occurrences, longer, List.flatMap_append]
  exact ⟨_, rfl⟩

/-- The gathered names come in the order of their first reads. -/
theorem keys_foldl_add (reads : List Occurrence) :
    (reads.foldl Classification.add .empty).keys = (reads.map (·.name)).eraseDups := by
  induction reads using List.reverseRecOn with
  | nil => rfl
  | append_singleton reads read ih =>
      have gathers := gathers_foldl reads
      rw [List.foldl_append, List.foldl_cons, List.foldl_nil, Classification.add,
        gathers.indexed.keys_set, List.map_append, List.map_singleton, eraseDups_concat]
      simp only [gathers.mem_keys_iff]
      split <;> rw [ih]

theorem merged_keys_isPrefix (longer : chain.tiers = above.tiers ++ [leaf]) :
    (merged above).keys <+: (merged chain).keys := by
  obtain ⟨more, reads⟩ := occurrences_longer longer
  rw [merged, merged, keys_foldl_add, keys_foldl_add, reads, List.map_append]
  exact eraseDups_isPrefix _ _

theorem get?_carried (longer : chain.tiers = above.tiers ++ [leaf]) {name : String}
    {var later : Variable} (found : (ofChain above).get? name = some var)
    (foundLater : (ofChain chain).get? name = some later) :
    ∃ more : List Occurrence, later = more.foldl Variable.absorb var := by
  obtain ⟨more, reads⟩ := occurrences_longer longer
  have one := (get?_ofChain_eq_some_iff.mp found).1
  have other := (get?_ofChain_eq_some_iff.mp foundLater).1
  rw [(gathers_merged _).accounts] at one other
  rw [reads, List.filter_append, Variable.ofReads_append one] at other
  exact ⟨_, (Option.some.inj other).symm⟩

theorem keys_ofChain_eq (chain : Chain) : (ofChain chain).needed.keys =
    (merged chain).keys.filter fun name => !(locals chain).contains name := by
  rw [keys_ofChain, values_ofChain, ← map_name_merged, List.filter_map]
  rfl

/-- The new names come behind those of the shorter chain, and those that are left out on either side
leave the others as they are. -/
theorem keys_carried (longer : chain.tiers = above.tiers ++ [leaf]) :
    (ofChain chain).needed.keys.filter (· ∈ (ofChain above).needed.keys) =
      (ofChain above).needed.keys.filter (· ∈ (ofChain chain).needed.keys) := by
  obtain ⟨new, names⟩ := merged_keys_isPrefix longer
  have distinct := (gathers_merged chain).indexed.keys_nodup
  rw [← names] at distinct
  rw [keys_ofChain_eq, keys_ofChain_eq, ← names, List.filter_append, List.filter_append]
  -- a new name was not read above, whether or not it would have been left out there
  have noneNew : (new.filter fun name => !(locals chain).contains name).filter
      (· ∈ (merged above).keys.filter fun name => !(locals above).contains name) = [] := by
    rw [List.filter_eq_nil_iff]
    intro name isNew isOld
    have old := (List.mem_filter.mp (of_decide_eq_true isOld)).1
    exact (List.nodup_append.mp distinct).2.2 name old name (List.mem_filter.mp isNew).1 rfl
  rw [noneNew, List.append_nil, List.filter_filter, List.filter_filter]
  apply List.filter_congr
  intro name member
  rw [Bool.eq_iff_iff]
  simp [member]
  tauto

theorem assignsFirst_of_lost (longer : chain.tiers = above.tiers ++ [leaf]) {name : String}
    {var : Variable} (found : (ofChain above).get? name = some var)
    (lost : (ofChain chain).get? name = none) : leaf.assignsFirst name = true := by
  obtain ⟨⟨tier, member, reads⟩, noneAbove⟩ := exists_get?_ofChain_iff.mp ⟨var, found⟩
  by_contra notLeaf
  have needed : ∃ var, (ofChain chain).get? name = some var := by
    rw [exists_get?_ofChain_iff, longer]
    refine ⟨⟨tier, List.mem_append_left _ member, reads⟩, ?_⟩
    intro other inChain
    rcases List.mem_append.mp inChain with inAbove | isLeaf
    · exact noneAbove other inAbove
    · rw [List.mem_singleton.mp isLeaf]
      exact Bool.eq_false_iff.mpr notLeaf
  obtain ⟨var, found⟩ := needed
  rw [lost] at found
  cases found

theorem carries_ofChain (longer : chain.tiers = above.tiers ++ [leaf]) :
    (ofChain above).Carries (ofChain chain) leaf where
  provenance name var later found foundLater := by
    obtain ⟨more, rfl⟩ := get?_carried longer found foundLater
    rw [Variable.foldl_absorb]
  fallback name var later description found foundLater fallback := by
    obtain ⟨more, rfl⟩ := get?_carried longer found foundLater
    rw [Variable.foldl_absorb, fallback]
    rfl
  required name var later found foundLater required := by
    obtain ⟨more, rfl⟩ := get?_carried longer found foundLater
    rw [Variable.foldl_absorb] at required
    exact (Bool.and_eq_true_iff.mp required).1
  order := keys_carried longer
  lost name var found lost := assignsFirst_of_lost longer found lost

end Classification

/-! ## The chain of the parent -/

namespace Resolution

variable {resolution : Resolution}

/-- Behind the leaf the walk is that of its parent. -/
theorem Reaches.behind_leaf {walked : List Tier} (reaches : resolution.Reaches (leaf :: walked))
    (notRoot : walked ≠ []) : ∃ parent, leaf.parent = some parent ∧
      Reaches { resolution with leaf := parent } walked := by
  cases walked with
  | nil => exact absurd rfl notRoot
  | cons next walked =>
      have linked := List.isChain_cons_cons.mp reaches.isChain
      have distinct := reaches.distinct
      rw [List.map_cons, List.nodup_cons] at distinct
      refine ⟨next.name, linked.1, follows_of_isChain rfl linked.2 ?_ distinct.2, ?_⟩
      · exact fun tier member => reaches.reading tier (List.mem_cons_of_mem _ member)
      · obtain ⟨tier, last, root⟩ := reaches.root
        rw [List.getLast?_cons_cons] at last
        exact ⟨tier, last, root⟩

theorem Follows.blockNames_nodup {walked : List Tier} (follows : resolution.Follows walked) :
    ∀ tier ∈ walked, tier.blockNames.Nodup := by
  intro tier member
  have reading := (Lookup.tier_eq_some_iff.mp (follows.reading tier member)).2.2
  exact Template.Parsed.ofTemplate_blockNames_nodup reading

/-- If a resolution finds a chain of at least two templates, then the resolution of the leaf's
parent with the same limit finds that chain without its leaf, whatever truthful cache it uses, and
what the analyses find there is carried over. -/
theorem run_parent {intake : Intake} (truthful : intake.parses.Truthful resolution.lookup)
    (found : (resolution.run intake).1 = .ok chain) (extending : 2 ≤ chain.tiers.length) :
    ∃ parent above, chain.leaf.parent = some parent ∧
      (∀ other : Intake, other.parses.Truthful resolution.lookup →
        (run { resolution with leaf := parent } other).1 = .ok above) ∧
      above.HandsDown chain := by
  have settled := resolution.ascend_leaf_settles
  rw [← run_fst truthful, found] at settled
  obtain ⟨reaches, within⟩ := settled
  have longer : chain.tiers = chain.tiers.dropLast ++ [chain.leaf] :=
    (List.dropLast_concat_getLast chain.tiers_ne_nil).symm
  have notRoot : chain.tiers.dropLast ≠ [] := by
    apply List.ne_nil_of_length_pos
    rw [List.length_dropLast]
    omega
  have shorter : chain.tiers.dropLast.length ≤ resolution.maxDepth := by
    rw [List.length_dropLast]
    omega
  have distinct : ∀ tier ∈ chain.tiers, tier.blockNames.Nodup := fun tier member =>
    reaches.toFollows.blockNames_nodup tier (List.mem_reverse.mpr member)
  rw [longer, List.reverse_concat] at reaches
  obtain ⟨parent, isParent, reachesAbove⟩ := reaches.behind_leaf (by simpa using notRoot)
  refine ⟨parent, ⟨chain.tiers.dropLast, notRoot⟩, isParent, ?_, ?_⟩
  · intro other truthfulOther
    exact reachesAbove.run_eq shorter truthfulOther
  · exact {
      tiers := rfl
      blocksFailure := fun _ => BlockIndex.ofChain_error_carried longer distinct
      declarationsFailure := fun _ => Metadata.ofChain_error_carried longer
      blocks := fun _ => BlockIndex.ofChain_carried longer distinct
      declarations := fun _ => Metadata.ofChain_carried longer
      classification := Classification.carries_ofChain longer }

/-- A leaf that assigns a variable of its parent loses it. -/
theorem run_parent_assigned_title :
    let base := Source.ofText (Sample.output "title" ++ Sample.output "site or 'x'")
    let child := Source.ofText
      (Sample.extendsTag "base" ++ Sample.tag "set title = 1" ++ Sample.output "site")
    let library : Library := ⟨[("base", base), ("child", child)]⟩
    let root : Tier := ⟨"base", base, "base",
      [.read "title" .bare 1, .read "site" (.fallback "x") 1]⟩
    let leaf : Tier := ⟨"child", child, "child",
      [.extends (.literal "base") 1, .assign "title" 1, .read "site" .bare 1]⟩
    let above : Chain := ⟨[root], List.cons_ne_nil _ _⟩
    let chain : Chain := ⟨[root, leaf], List.cons_ne_nil _ _⟩
    (run ⟨library.lookup, "child", 2⟩ .empty).1 = .ok chain ∧
      (run ⟨library.lookup, "base", 2⟩ .empty).1 = .ok above ∧ above.HandsDown chain ∧
      (∃ var, (Classification.ofChain above).get? "title" = some var) ∧
      ¬ ∃ var, (Classification.ofChain chain).get? "title" = some var := by
  intro base child library root leaf above chain
  have found : (run ⟨library.lookup, "child", 2⟩ .empty).1 = .ok chain := by
    refine run_of_isChain rfl (by decide) (by decide) ?_ (by decide) (Nat.le_refl 2)
      (ParseCache.truthful_empty _)
    simp only [chain, List.forall_mem_cons]
    exact ⟨⟨rfl, by decide +kernel⟩, ⟨rfl, by decide +kernel⟩, by simp⟩
  obtain ⟨parent, ⟨tiers, notEmpty⟩, isParent, foundAbove, handsDown⟩ :=
    run_parent (ParseCache.truthful_empty _) found (Nat.le_refl 2)
  obtain rfl : "base" = parent := Option.some.inj isParent
  obtain rfl : tiers = [root] := handsDown.tiers
  refine ⟨found, foundAbove .empty (ParseCache.truthful_empty _), handsDown, ?_, ?_⟩
  · rw [Classification.exists_get?_ofChain_iff]
    decide +kernel
  · rw [Classification.exists_get?_ofChain_iff]
    decide +kernel

end Resolution

end Lineage
