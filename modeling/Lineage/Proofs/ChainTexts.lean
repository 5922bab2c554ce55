import Lineage.Proofs.Concatenation
import Lineage.Proofs.Reports
import Lineage.TemplateDirectory

/-!
# What the texts of a chain tell

The text of a template names its parent, and the name under which it was read has no part in that
(`Parsed.parent_eq_of_text`).  So two templates of a chain with the same text would have the same
parent.  The names of a chain are distinct, so the parent stands at one place, and the chain ends
where there is none: no text stands twice (`GenuineWalk.texts_nodup`).

Two chains for the same leaf with the same texts are equal, whatever the templates around them were
(`Resolution.run_texts`).  Where different texts have different identities, so are two chains that a
report would be kept under the same key for.
-/

namespace Lineage

open Lineage.Template

/-- The parent that a text names is the same under every name. -/
theorem Template.Parsed.parent_eq_of_text {first second : String} {text : List Char}
    {parsed parsed' : Parsed} (one : Parsed.ofTemplate first text = .ok parsed)
    (other : Parsed.ofTemplate second text = .ok parsed') : parsed.parent = parsed'.parent := by
  obtain ⟨_, nodes, _⟩ := Parsed.ofTemplate_eq_ok_iff.mp one
  obtain ⟨_, nodes', _⟩ := Parsed.ofTemplate_eq_ok_iff.mp other
  rw [Parsed.parent, Parsed.parent, Except.ok.inj (nodes.symm.trans nodes')]

namespace GenuineWalk

variable {texts : List String} {walked : List Tier}

theorem parent_eq (genuine : GenuineWalk texts walked) {tier other : Tier} (member : tier ∈ walked)
    (otherMember : other ∈ walked) (same : tier.source.text = other.source.text) :
    tier.parent = other.parent := by
  have read := genuine.reading tier member
  rw [same] at read
  exact Parsed.parent_eq_of_text read (genuine.reading other otherMember)

/-- A walk over distinct names to a template without a parent comes to no text twice. -/
theorem texts_nodup (genuine : GenuineWalk texts walked) (distinct : (walked.map (·.name)).Nodup)
    (root : ∃ tier, walked.getLast? = some tier ∧ tier.parent = none) :
    (walked.map (·.source.text)).Nodup := by
  rw [List.Nodup, List.pairwise_map, List.pairwise_iff_getElem]
  intro position later inside laterInside before same
  have parents := genuine.parent_eq (List.getElem_mem inside) (List.getElem_mem laterInside) same
  have linked := List.isChain_iff_getElem.mp genuine.linked
  have next : walked[position].parent = some walked[position + 1].name :=
    linked position (by omega)
  by_cases further : later + 1 < walked.length
  · -- both templates name their parent, which stands at one place only
    have names : walked[position + 1].name = walked[later + 1].name := by
      rw [← Option.some.injEq, ← next, parents, linked later further]
    have tiers : walked[position + 1] = walked[later + 1] :=
      List.inj_on_of_nodup_map distinct (List.getElem_mem _) (List.getElem_mem _) names
    have positions := distinct.of_map.getElem_inj_iff.mp tiers
    omega
  · obtain ⟨tier, last, none⟩ := root
    have atEnd : walked.length - 1 = later := by omega
    rw [List.getLast?_eq_getElem?, atEnd, List.getElem?_eq_getElem laterInside] at last
    rw [next, Option.some.inj last, none] at parents
    cases parents

end GenuineWalk

namespace Resolution

variable {resolution : Resolution} {intake : Intake} {chain : Chain}

theorem settles_of_run (truthful : intake.parses.Truthful resolution.lookup)
    (found : (resolution.run intake).1 = .ok chain) : resolution.Settles (.ok chain) := by
  have settled := resolution.ascend_leaf_settles
  rwa [← run_fst truthful, found] at settled

namespace Settles

variable (settled : resolution.Settles (.ok chain))

include settled

theorem texts_nodup : chain.texts.Nodup := by
  have nodup := settled.genuine.texts_nodup settled.1.distinct settled.1.root
  rwa [List.map_reverse, List.nodup_reverse] at nodup

/-- Templates of a chain for which the same source is found are one. -/
theorem eq_of_lookup {tier other : Tier} (member : tier ∈ chain.tiers)
    (otherMember : other ∈ chain.tiers)
    (same : resolution.lookup tier.name = resolution.lookup other.name) : tier = other := by
  have looked : ∀ tier ∈ chain.tiers, resolution.lookup tier.name = .ok (some tier.source) := by
    intro tier member
    have read := settled.1.reading tier (List.mem_reverse.mpr member)
    exact (Lookup.tier_eq_some_iff.mp read).2.1
  have sources : tier.source = other.source := by
    rw [looked tier member, looked other otherMember] at same
    exact Option.some.inj (Except.ok.inj same)
  exact List.inj_on_of_nodup_map settled.texts_nodup member otherMember
    (congrArg Source.text sources)

end Settles

/-- No text stands twice in a chain that is found.  So a file that is known under two names stands
in it once at most.  Two chains are found, in any two states of the templates, with the same name of
the leaf.  If their texts are the same from the root to the leaf, then so are the chains: they have
the same names in the same order, and the same nodes.  The identities of the texts suffice for that
if no two different texts of the two chains have the same one, so a report is kept under a key that
determines its chain.

A cache that has not been used is truthful (`ParseCache.truthful_empty`), and so is one that holds
readings of texts with different identities (`ParseCache.Faithful.truthful`). -/
theorem run_texts (first second : Resolution) (intake other : Intake) (chain chain' : Chain)
    (truthful : intake.parses.Truthful first.lookup)
    (truthful' : other.parses.Truthful second.lookup)
    (found : (first.run intake).1 = .ok chain) (found' : (second.run other).1 = .ok chain') :
    chain.texts.Nodup ∧
      (∀ tier ∈ chain.tiers, ∀ tier' ∈ chain.tiers,
        first.lookup tier.name = first.lookup tier'.name → tier = tier') ∧
      (chain.leaf.name = chain'.leaf.name → chain.texts = chain'.texts → chain = chain') ∧
      (Distinguishable (chain.texts ++ chain'.texts) → chain.leaf.name = chain'.leaf.name →
        chain.identities = chain'.identities → chain = chain') := by
  have settled := settles_of_run truthful found
  have settled' := settles_of_run truthful' found'
  refine ⟨settled.texts_nodup, ?_, ?_, ?_⟩
  · exact fun _ member _ member' => settled.eq_of_lookup member member'
  · exact settled.genuine.eq_of_texts settled'.genuine
  · intro distinct
    have genuine := settled.genuine.mono (List.subset_append_left _ chain'.texts)
    have genuine' := settled'.genuine.mono (List.subset_append_right chain.texts _)
    exact Chain.Genuine.unique distinct genuine genuine'

/-- A directory in which the root is known under two names, and templates in memory, of which the
root has been read before. -/
theorem run_texts_twoNames :
    let entries := [("leaf.j2", FileTree.file (Sample.extendsTag "root").toUTF8),
      ("root.j2", FileTree.file "x".toUTF8)]
    let directory : TemplateDirectory := ⟨⟨.directory entries, "/"⟩, "/", ["j2"]⟩
    let library := Library.ofList
      [("other", "x"), ("root", "x"), ("leaf", Sample.extendsTag "root")]
    let used := (ParseCache.empty.get "root" (Source.ofText "x")).2
    let first : Resolution := ⟨directory.lookup, "leaf", 16⟩
    let second : Resolution := ⟨library.lookup, "leaf", 2⟩
    directory.lookup "root" = directory.lookup "root.j2" ∧ used.Truthful library.lookup ∧
      ∃ chain chain', (first.run .empty).1 = .ok chain ∧ (second.run ⟨1, used⟩).1 = .ok chain' ∧
        Distinguishable (chain.texts ++ chain'.texts) ∧ chain.texts.Nodup ∧ chain = chain' := by
  intro entries directory library used first second
  have looked : ∀ name, TemplateName.defect? name = none →
      TemplateDirectory.firstText directory.files (directory.candidates name) = .ok (some "x") →
        directory.lookup name = .ok (some (Source.ofText "x")) := by
    intro name accepted read
    rw [TemplateDirectory.lookup, accepted, read]
    rfl
  have twoNames : directory.lookup "root" = directory.lookup "root.j2" := by
    rw [looked "root" (by decide +kernel) (by decide +kernel),
      looked "root.j2" (by decide +kernel) (by decide +kernel)]
  have truthful : used.Truthful library.lookup := by
    apply (ParseCache.truthful_empty _).get
    rfl
  have texts : (first.run .empty).1.map Chain.texts = .ok ["x", Sample.extendsTag "root"] := by
    decide +kernel
  have texts' : (second.run ⟨1, used⟩).1.map Chain.texts = .ok ["x", Sample.extendsTag "root"] := by
    decide +kernel
  obtain ⟨chain, found, ofFirst⟩ := map_eq_ok_iff.mp texts
  obtain ⟨chain', found', ofSecond⟩ := map_eq_ok_iff.mp texts'
  have distinct : Distinguishable (chain.texts ++ chain'.texts) := by
    rw [ofFirst, ofSecond]
    unfold Distinguishable
    decide +kernel
  have leaves : chain.leaf.name = chain'.leaf.name :=
    (run_leaf_name found).trans (run_leaf_name found').symm
  have identities : chain.identities = chain'.identities := by
    rw [chain.identities_eq, chain'.identities_eq, ofFirst, ofSecond]
  obtain ⟨nodup, _, _, determined⟩ := run_texts first second .empty ⟨1, used⟩ chain chain'
    (ParseCache.truthful_empty _) truthful found found'
  exact ⟨twoNames, truthful, chain, chain', found, found', distinct, nodup,
    determined distinct leaves identities⟩

end Resolution

end Lineage
