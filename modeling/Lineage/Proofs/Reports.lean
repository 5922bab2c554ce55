import Lineage.Inspector
import Lineage.Proofs.Ancestors

/-!
# What an inspector answers

A report is kept under the name of the leaf and the identities of the chain, without the names of
the ancestors.  These are determined all the same (`Chain.Genuine.unique`): the text of the leaf
names its parent, the text of the parent names the next one, and so on up to the root.  So an
inspector whose caches are faithful answers as one without any cache would
(`Inspector.resolve_fst`, `Inspector.introspect_report`), and its caches stay faithful.
-/

namespace Lineage

open Lineage.Template

/-- The texts of the templates from the root to the leaf. -/
def Chain.texts (chain : Chain) : List String :=
  chain.tiers.map (·.source.text)

variable {texts more : List String}

/-! ## Chains that were read from known texts -/

/-- A walk from a template on over readings of the texts, each of which names the next one as its
parent. -/
structure GenuineWalk (texts : List String) (walked : List Tier) : Prop where
  linked : walked.IsChain fun below above => below.parent = some above.name
  known : ∀ tier ∈ walked, tier.source.text ∈ texts
  reading : ∀ tier ∈ walked,
    Parsed.ofTemplate tier.name tier.source.text.toList = .ok tier.parsed

namespace GenuineWalk

theorem mono {walked : List Tier} (genuine : GenuineWalk texts walked) (subset : texts ⊆ more) :
    GenuineWalk more walked :=
  ⟨genuine.linked, fun tier member => subset (genuine.known tier member), genuine.reading⟩

theorem tail {tier : Tier} {walked : List Tier} (genuine : GenuineWalk texts (tier :: walked)) :
    GenuineWalk texts walked where
  linked := genuine.linked.tail
  known other member := genuine.known other (List.mem_cons_of_mem _ member)
  reading other member := genuine.reading other (List.mem_cons_of_mem _ member)

/-- A template is determined by its name and its text. -/
theorem head_eq {first second : Tier} {rest rest' : List Tier}
    (one : GenuineWalk texts (first :: rest)) (other : GenuineWalk more (second :: rest'))
    (names : first.name = second.name) (sameText : first.source.text = second.source.text) :
    first = second := by
  have sources := Source.eq_of_text sameText
  have firstReading := one.reading first List.mem_cons_self
  have secondReading := other.reading second List.mem_cons_self
  clear one other
  obtain ⟨firstName, firstSource, firstParsed⟩ := first
  obtain ⟨secondName, secondSource, secondParsed⟩ := second
  dsimp only at names sources firstReading secondReading
  subst names sources
  rw [Except.ok.inj (firstReading.symm.trans secondReading)]

/-- Two walks from templates of the same name agree if the texts do.  The induction goes from the
leaf to the root, since the name of the next template is the parent that the last one names. -/
theorem unique {first second : List Tier} (one : GenuineWalk texts first)
    (other : GenuineWalk more second)
    (names : first.head?.map (·.name) = second.head?.map (·.name))
    (same : first.map (·.source.text) = second.map (·.source.text)) : first = second := by
  induction first generalizing second with
  | nil => simpa using same.symm
  | cons tier rest ih =>
      cases second with
      | nil => simp at same
      | cons tier' rest' =>
          rw [List.map_cons, List.map_cons, List.cons.injEq] at same
          obtain rfl : tier = tier' := head_eq one other (by simpa using names) same.1
          have above : rest.head?.map (·.name) = rest'.head?.map (·.name) := by
            cases rest with
            | nil =>
                cases rest' with
                | nil => rfl
                | cons _ _ => simp at same
            | cons next _ =>
                cases rest' with
                | nil => simp at same
                | cons next' _ =>
                    have parent := (List.isChain_cons_cons.mp one.linked).1
                    have parent' := (List.isChain_cons_cons.mp other.linked).1
                    simpa using parent.symm.trans parent'
          rw [ih one.tail other.tail above same.2]

end GenuineWalk

namespace Chain

/-- The chain is the reverse of a walk over readings of the texts. -/
def Genuine (chain : Chain) (texts : List String) : Prop :=
  GenuineWalk texts chain.tiers.reverse

theorem identities_eq (chain : Chain) : chain.identities = chain.texts.map contentIdentity := by
  rw [identities, Chain.texts, List.map_map]
  exact List.map_congr_left fun tier _ => tier.source.identity_eq

theorem head?_reverse_tiers (chain : Chain) : chain.tiers.reverse.head? = some chain.leaf := by
  rw [List.head?_reverse]
  exact List.getLast?_eq_some_getLast chain.tiers_ne_nil

variable {first second chain : Chain}

theorem Genuine.texts_subset (genuine : chain.Genuine texts) : chain.texts ⊆ texts := by
  intro text member
  obtain ⟨tier, inChain, rfl⟩ := List.mem_map.mp member
  exact genuine.known tier (List.mem_reverse.mpr inChain)

/-- The name of the leaf and the texts determine a chain. -/
theorem Genuine.eq_of_texts (one : first.Genuine texts) (other : second.Genuine more)
    (leaves : first.leaf.name = second.leaf.name) (same : first.texts = second.texts) :
    first = second := by
  have tiers : first.tiers.reverse = second.tiers.reverse := by
    apply GenuineWalk.unique one other
    · rw [first.head?_reverse_tiers, second.head?_reverse_tiers]
      exact congrArg some leaves
    · rw [List.map_reverse, List.map_reverse]
      exact congrArg List.reverse same
  cases first
  cases second
  cases List.reverse_injective tiers
  rfl

/-- The name of the leaf and the identities determine a chain. -/
theorem Genuine.unique (distinct : Distinguishable texts) (one : first.Genuine texts)
    (other : second.Genuine texts) (leaves : first.leaf.name = second.leaf.name)
    (identities : first.identities = second.identities) : first = second := by
  rw [first.identities_eq, second.identities_eq] at identities
  exact one.eq_of_texts other leaves
    (distinct.eq_of_map_eq one.texts_subset other.texts_subset identities)

end Chain

namespace Resolution.Settles

variable {resolution : Resolution} {chain : Chain}

/-- A chain that a resolution finds is made of its own texts. -/
theorem genuine (settled : resolution.Settles (.ok chain)) : chain.Genuine chain.texts where
  linked := settled.1.isChain
  known tier member := List.mem_map_of_mem (List.mem_reverse.mp member)
  reading tier member := by
    obtain ⟨_, _, parsed⟩ := Lookup.tier_eq_some_iff.mp (settled.1.reading tier member)
    exact parsed

/-- The look-up knows the texts of a chain that a resolution finds. -/
theorem texts_subset (settled : resolution.Settles (.ok chain))
    (known : ∀ name source, resolution.lookup name = .ok (some source) → source.text ∈ texts) :
    chain.texts ⊆ texts := by
  intro text member
  obtain ⟨tier, inChain, rfl⟩ := List.mem_map.mp member
  have read := settled.1.reading tier (List.mem_reverse.mpr inChain)
  obtain ⟨_, looked, _⟩ := Lookup.tier_eq_some_iff.mp read
  exact known tier.name tier.source looked

end Resolution.Settles

/-! ## The reports that are kept -/

namespace ReportCache

/-- Every report that is kept is the report on a chain that was read from the texts, under the name
of its leaf and its identities. -/
def Faithful (cache : ReportCache) (texts : List String) : Prop :=
  ∀ record ∈ cache.records, ∃ chain : Chain, chain.Genuine texts ∧
    chain.leaf.name = record.leaf ∧ chain.identities = record.identities ∧
      Report.ofChain chain = .ok record.report

variable {cache : ReportCache}

theorem faithful_empty (texts : List String) : empty.Faithful texts := by
  intro record member
  simp [empty] at member

theorem Faithful.mono (faithful : cache.Faithful texts) (subset : texts ⊆ more) :
    cache.Faithful more := by
  intro record member
  obtain ⟨chain, genuine, kept⟩ := faithful record member
  exact ⟨chain, genuine.mono subset, kept⟩

theorem Faithful.add (faithful : cache.Faithful texts) {chain : Chain}
    (genuine : chain.Genuine texts) {report : Report} (made : Report.ofChain chain = .ok report) :
    (cache.add chain.leaf.name chain.identities report).2.Faithful texts := by
  intro record member
  simp only [ReportCache.add, List.mem_cons, List.mem_filter] at member
  rcases member with rfl | ⟨old, _⟩
  · exact ⟨chain, genuine, rfl, rfl, made⟩
  · exact faithful record old

/-- The report that is found for a chain is the report on it. -/
theorem Faithful.find? (faithful : cache.Faithful texts) (distinct : Distinguishable texts)
    {chain : Chain} (genuine : chain.Genuine texts) {record : ReportRecord}
    (found : cache.find? chain.leaf.name chain.identities = some record) :
    Report.ofChain chain = .ok record.report := by
  have key := List.find?_some found
  simp only [Bool.and_eq_true, beq_iff_eq] at key
  obtain ⟨other, otherGenuine, leaf, identities, report⟩ :=
    faithful record (List.mem_of_find?_eq_some found)
  have chains : chain = other :=
    genuine.unique distinct otherGenuine (key.1.symm.trans leaf.symm)
      (key.2.symm.trans identities.symm)
  rw [chains, report]

end ReportCache

/-! ## Inspectors -/

namespace Inspector

/-- An inspector with the same settings that has not been used. -/
def renewed (inspector : Inspector) : Inspector :=
  { inspector with reports := .empty }

/-- The chain of a leaf, found without a cache. -/
def chainOf (inspector : Inspector) (lookup : Lookup) (leaf : String) : Except Failure Chain :=
  if inspector.cancelled then .error (.cancelled leaf)
  else Resolution.ascend ⟨lookup, leaf, inspector.maxDepth⟩ inspector.maxDepth leaf []

/-- The report on a leaf, made without a cache. -/
def reportOn (inspector : Inspector) (lookup : Lookup) (leaf : String) : Except Failure Report :=
  (inspector.chainOf lookup leaf).bind Report.ofChain

variable {inspector : Inspector} {lookup : Lookup} {intake : Intake}

/-- A report is kept, or made, or cannot be made. -/
theorem analyze_cases (inspector : Inspector) (chain : Chain) :
    (∃ record, inspector.reports.find? chain.leaf.name chain.identities = some record ∧
      inspector.analyze chain = .ok (record, inspector)) ∨
    (inspector.reports.find? chain.leaf.name chain.identities = none ∧
      ∃ report, Report.ofChain chain = .ok report ∧
        let added := inspector.reports.add chain.leaf.name chain.identities report
        inspector.analyze chain = .ok (added.1, { inspector with reports := added.2 })) ∨
    (inspector.reports.find? chain.leaf.name chain.identities = none ∧
      ∃ failure, Report.ofChain chain = .error failure ∧
        inspector.analyze chain = .error failure) := by
  unfold analyze
  cases inspector.reports.find? chain.leaf.name chain.identities with
  | some record => exact Or.inl ⟨record, rfl, rfl⟩
  | none =>
      cases Report.ofChain chain with
      | ok report => exact Or.inr (Or.inl ⟨rfl, report, rfl, rfl⟩)
      | error failure => exact Or.inr (Or.inr ⟨rfl, failure, rfl, rfl⟩)

/-- A request for a report fails where there is no chain, or as the analysis of the chain does. -/
theorem introspect_cases (inspector : Inspector) (lookup : Lookup) (leaf : String)
    (intake : Intake) :
    let resolved := inspector.resolve lookup leaf intake
    (∃ failure, resolved.1 = .error failure ∧
      inspector.introspect lookup leaf intake = ⟨.error failure, inspector, resolved.2⟩) ∨
    ∃ chain, resolved.1 = .ok chain ∧
      ((∃ failure, inspector.analyze chain = .error failure ∧
        inspector.introspect lookup leaf intake = ⟨.error failure, inspector, resolved.2⟩) ∨
      ∃ record after, inspector.analyze chain = .ok (record, after) ∧
        inspector.introspect lookup leaf intake = ⟨.ok record, after, resolved.2⟩) := by
  intro resolved
  unfold introspect
  cases request : inspector.resolve lookup leaf intake with
  | mk result after =>
      have same : resolved = (result, after) := request
      rw [same]
      cases result with
      | error failure => exact Or.inl ⟨failure, rfl, rfl⟩
      | ok chain =>
          refine Or.inr ⟨chain, rfl, ?_⟩
          cases analyzed : inspector.analyze chain with
          | error failure => exact Or.inl ⟨failure, rfl, by simp [analyzed]⟩
          | ok found => exact Or.inr ⟨found.1, found.2, rfl, by simp [analyzed]⟩

theorem resolve_fst (truthful : intake.parses.Truthful lookup) (leaf : String) :
    (inspector.resolve lookup leaf intake).1 = inspector.chainOf lookup leaf := by
  unfold resolve chainOf
  split
  · rfl
  · exact Resolution.run_fst truthful

theorem resolve_leaf_name {leaf : String} {chain : Chain}
    (found : (inspector.resolve lookup leaf intake).1 = .ok chain) : chain.leaf.name = leaf := by
  unfold resolve at found
  split at found
  · cases found
  · exact Resolution.run_leaf_name found

theorem chainOf_genuine {leaf : String} {chain : Chain}
    (known : ∀ name source, lookup name = .ok (some source) → source.text ∈ texts)
    (found : inspector.chainOf lookup leaf = .ok chain) : chain.Genuine texts := by
  unfold chainOf at found
  split at found
  · cases found
  · have settled := Resolution.ascend_leaf_settles ⟨lookup, leaf, inspector.maxDepth⟩
    rw [found] at settled
    exact settled.genuine.mono (settled.texts_subset known)

/-- The caches that an inspector uses hold what was made from the texts. -/
structure Faithful (inspector : Inspector) (intake : Intake) (texts : List String) : Prop where
  reports : inspector.reports.Faithful texts
  parses : intake.parses.Faithful texts

theorem faithful_renewed (inspector : Inspector) (texts : List String) :
    inspector.renewed.Faithful .empty texts :=
  ⟨ReportCache.faithful_empty texts, ParseCache.faithful_empty texts⟩

theorem resolve_parses (parses : intake.parses.Faithful texts)
    (known : ∀ name source, lookup name = .ok (some source) → source.text ∈ texts)
    (leaf : String) : (inspector.resolve lookup leaf intake).2.parses.Faithful texts := by
  unfold resolve
  split
  · exact parses
  · apply Resolution.climb_snd fun intake => intake.parses.Faithful texts
    · exact fun _ kept => kept
    · exact fun _ name source looked kept => kept.get name (known name source looked)
    · exact parses

/-- The report on a chain is the same whether it was kept or is made. -/
theorem analyze_report (reports : inspector.reports.Faithful texts)
    (distinct : Distinguishable texts) {chain : Chain} (genuine : chain.Genuine texts) :
    (inspector.analyze chain).map (·.1.report) = Report.ofChain chain := by
  rcases inspector.analyze_cases chain with
    ⟨record, found, analyzed⟩ | ⟨_, report, made, analyzed⟩ | ⟨_, failure, made, analyzed⟩
  · rw [analyzed, reports.find? distinct genuine found]
    rfl
  · rw [analyzed, made]
    rfl
  · rw [analyzed, made]
    rfl

theorem analyze_after (reports : inspector.reports.Faithful texts) {chain : Chain}
    (genuine : chain.Genuine texts) {record : ReportRecord} {after : Inspector}
    (analyzed : inspector.analyze chain = .ok (record, after)) :
    after.reports.Faithful texts ∧ after.renewed = inspector.renewed := by
  rcases inspector.analyze_cases chain with
    ⟨_, _, kept⟩ | ⟨_, report, made, added⟩ | ⟨_, failure, _, failed⟩
  · cases kept.symm.trans analyzed
    exact ⟨reports, rfl⟩
  · cases added.symm.trans analyzed
    exact ⟨reports.add genuine made, rfl⟩
  · cases failed.symm.trans analyzed

section Requests

variable (faithful : inspector.Faithful intake texts) (distinct : Distinguishable texts)
  (known : ∀ name source, lookup name = .ok (some source) → source.text ∈ texts)

include faithful distinct known

/-- The chain of a leaf is the one that is found without a cache. -/
theorem resolve_chain (leaf : String) :
    (inspector.resolve lookup leaf intake).1 = inspector.chainOf lookup leaf :=
  resolve_fst (faithful.parses.truthful distinct known) leaf

/-- The report on a leaf is the one that is made without a cache. -/
theorem introspect_report (leaf : String) :
    (inspector.introspect lookup leaf intake).result.map (·.report) =
      inspector.reportOn lookup leaf := by
  have chains := resolve_chain faithful distinct known leaf
  rw [reportOn, ← chains]
  rcases inspector.introspect_cases lookup leaf intake with
    ⟨failure, failed, answered⟩ | ⟨chain, found, further⟩
  · rw [answered, failed]
    rfl
  · have genuine := chainOf_genuine known (chains.symm.trans found)
    have report := analyze_report faithful.reports distinct genuine
    rw [found, Except.bind, ← report]
    rcases further with ⟨failure, analyzed, answered⟩ | ⟨record, after, analyzed, answered⟩
    · rw [answered, analyzed]
      rfl
    · rw [answered, analyzed]
      rfl

/-- A request for a report leaves the caches faithful and the settings as they were. -/
theorem introspect_after (leaf : String) :
    let answered := inspector.introspect lookup leaf intake
    answered.inspector.Faithful answered.intake texts ∧
      answered.inspector.renewed = inspector.renewed := by
  have chains := resolve_chain faithful distinct known leaf
  have parses : (inspector.resolve lookup leaf intake).2.parses.Faithful texts :=
    resolve_parses faithful.parses known leaf
  dsimp only
  rcases inspector.introspect_cases lookup leaf intake with
    ⟨failure, _, answered⟩ | ⟨chain, found, ⟨failure, _, answered⟩ | further⟩
  · rw [answered]
    exact ⟨⟨faithful.reports, parses⟩, rfl⟩
  · rw [answered]
    exact ⟨⟨faithful.reports, parses⟩, rfl⟩
  · obtain ⟨record, after, analyzed, answered⟩ := further
    have genuine := chainOf_genuine known (chains.symm.trans found)
    have kept := analyze_after faithful.reports genuine analyzed
    rw [answered]
    exact ⟨⟨kept.1, parses⟩, kept.2⟩

/-- The evaluation of the rules of a leaf is the one by the report without a cache. -/
theorem validate_result (leaf : String) (content : Option String) :
    (inspector.validate lookup leaf content intake).result =
      (inspector.reportOn lookup leaf).map fun report => report.analysis.validate leaf content := by
  rw [← introspect_report faithful distinct known]
  unfold validate
  dsimp only
  cases (inspector.introspect lookup leaf intake).result <;> rfl

end Requests

/-- The reports on several leaves are those that are made without a cache. -/
theorem introspectAll_reports (distinct : Distinguishable texts)
    (known : ∀ name source, lookup name = .ok (some source) → source.text ∈ texts)
    (faithful : inspector.Faithful intake texts) (leaves : List String) :
    let answered := inspector.introspectAll lookup intake leaves
    answered.results.map (·.map (·.report)) = leaves.map (inspector.reportOn lookup) ∧
      answered.inspector.Faithful answered.intake texts ∧
        answered.inspector.renewed = inspector.renewed := by
  induction leaves generalizing inspector intake with
  | nil => exact ⟨rfl, faithful, rfl⟩
  | cons leaf leaves ih =>
      have report := introspect_report faithful distinct known leaf
      obtain ⟨after, settings⟩ := introspect_after faithful distinct known leaf
      obtain ⟨reports, kept, same⟩ := ih after
      refine ⟨?_, kept, same.trans settings⟩
      have unchanged : (inspector.introspect lookup leaf intake).inspector.reportOn lookup =
          inspector.reportOn lookup := by
        change (inspector.introspect lookup leaf intake).inspector.renewed.reportOn lookup = _
        rw [settings]
        rfl
      rw [unchanged] at reports
      simp only [introspectAll, List.map_cons, report, reports]

end Inspector

end Lineage
