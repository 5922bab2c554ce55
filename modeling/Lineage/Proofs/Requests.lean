import Lineage.Proofs.BlockSites
import Lineage.Proofs.Inheritance
import Lineage.Proofs.Sessions

/-!
# The requests for one leaf

A request for the report on a leaf begins as the request for its chain does, and the evaluation of
its rules begins as the request for the report does.  So a failure on the way is the failure of all
of them (`Inspector.introspect_of_resolve_error`, `Inspector.introspect_error_iff_validate`).

The texts of a chain that was found are cut into segments a second time for what they declare.  They
are the texts that were read for the chain, although the readings may come from a cache, and so this
fails no more.  What is left are the failures that `Chain.HasFault` lists.
-/

namespace Lineage

open Lineage.Template

/-! ## Reports on chains that were read -/

/-- The failure is about a block of a template of the chain that calls `super()` without an
ancestor, or about what such a template declares. -/
def Chain.HasFault (chain : Chain) (failure : Failure) : Prop :=
  ∃ tier ∈ chain.tiers, (∃ block, failure = .superWithoutAncestor tier.name block) ∨
    ∃ reason, failure = .malformedMetadata tier.name reason

/-- The report shows the chain and what its classification and the index of its blocks hold. -/
structure Report.IsOn (report : Report) (chain : Chain) : Prop where
  template : report.template = chain.leaf.name
  links : report.chain = chain.links
  classification : report.analysis.classification = .ofChain chain
  blocks : BlockIndex.ofChain chain = .ok report.analysis.blocks
  metadata : Metadata.ofChain chain = .ok report.analysis.metadata
  required : report.required = (Classification.ofChain chain).required
  optional : report.optional = (Classification.ofChain chain).optional
  warnings : ∀ index, BlockIndex.ofChain chain = .ok index → report.warnings = index.warnings

theorem Report.isOn_of_ofChain {chain : Chain} {report : Report}
    (made : Report.ofChain chain = .ok report) : report.IsOn chain := by
  obtain ⟨analysis, analyzed, same⟩ := bind_eq_ok_iff.mp made
  obtain rfl := Except.ok.inj same
  obtain ⟨blocks, indexed, further⟩ := bind_eq_ok_iff.mp analyzed
  obtain ⟨metadata, collected, same⟩ := bind_eq_ok_iff.mp further
  obtain rfl := Except.ok.inj same
  refine ⟨rfl, rfl, rfl, indexed, collected, rfl, rfl, ?_⟩
  intro index other
  rw [← Except.ok.inj (indexed.symm.trans other)]
  rfl

namespace Chain.Genuine

variable {chain : Chain} {texts : List String} {failure : Failure}

theorem parsed (genuine : chain.Genuine texts) {tier : Tier} (member : tier ∈ chain.tiers) :
    Parsed.ofTemplate tier.name tier.source.text.toList = .ok tier.parsed :=
  genuine.reading tier (List.mem_reverse.mpr member)

/-- Only a block that calls `super()` without an ancestor stands in the way of an index. -/
theorem hasFault_of_blocks (genuine : chain.Genuine texts)
    (failed : BlockIndex.ofChain chain = .error failure) : chain.HasFault failure := by
  have distinct : ∀ tier ∈ chain.tiers, tier.blockNames.Nodup := fun tier member =>
    Parsed.ofTemplate_blockNames_nodup (genuine.parsed member)
  obtain ⟨site, orphan, rfl⟩ := (BlockIndex.answers_ofChain distinct).eq_error_iff.mp failed
  have member := tier_mem_of_mem_blockSites (List.mem_of_find?_eq_some orphan)
  exact ⟨site.tier, member, Or.inl ⟨site.block.name, rfl⟩⟩

/-- A text that was read can be cut into segments once more, so it is what a template declares that
is rejected. -/
theorem hasFault_of_metadata (genuine : chain.Genuine texts)
    (failed : Metadata.ofChain chain = .error failure) : chain.HasFault failure := by
  obtain ⟨above, tier, below, tiers, rejected, _⟩ := Metadata.ofChain_eq_error_iff.mp failed
  have member : tier ∈ chain.tiers := by simp [tiers]
  obtain ⟨_, isTemplate, _⟩ := Parsed.ofTemplate_eq_ok_iff.mp (genuine.parsed member)
  obtain ⟨parts, _, cut, _⟩ := Node.ofTemplate_eq_ok_iff.mp isTemplate
  obtain ⟨defect, _, rfl⟩ := (Metadata.declaration_eq_error_iff cut).mp rejected
  exact ⟨tier, member, Or.inr ⟨defect.message, rfl⟩⟩

theorem hasFault_of_error (genuine : chain.Genuine texts)
    (failed : Report.ofChain chain = .error failure) : chain.HasFault failure := by
  rcases bind_eq_error_iff.mp failed with unanalyzed | ⟨_, _, impossible⟩
  · rcases bind_eq_error_iff.mp unanalyzed with notIndexed | ⟨_, _, further⟩
    · exact genuine.hasFault_of_blocks notIndexed
    · rcases bind_eq_error_iff.mp further with notCollected | ⟨_, _, impossible⟩
      · exact genuine.hasFault_of_metadata notCollected
      · cases impossible
  · cases impossible

end Chain.Genuine

/-! ## The requests to an inspector -/

namespace Inspector

variable {inspector : Inspector} {lookup : Lookup} {leaf : String} {intake : Intake}
  {failure : Failure}

/-- Whatever the caches hold, the evaluation of the rules fails as the request for the report. -/
theorem introspect_error_iff_validate (content : Option String) :
    (inspector.introspect lookup leaf intake).result = .error failure ↔
      (inspector.validate lookup leaf content intake).result = .error failure := by
  unfold validate
  dsimp only
  rw [map_eq_error_iff]

/-- Whatever the caches hold, there is no report where there is no chain. -/
theorem introspect_of_resolve_error
    (failed : (inspector.resolve lookup leaf intake).1 = .error failure) :
    (inspector.introspect lookup leaf intake).result = .error failure := by
  rcases inspector.introspect_cases lookup leaf intake with
    ⟨other, same, answered⟩ | ⟨chain, found, _⟩
  · rw [answered, ← Except.error.inj (same.symm.trans failed)]
  · cases found.symm.trans failed

/-- For a leaf with a chain, the answer is the report on that chain, or the failure to make one. -/
theorem introspect_of_resolve {texts : List String} (faithful : inspector.Faithful intake texts)
    (distinct : Distinguishable texts)
    (known : ∀ name source, lookup name = .ok (some source) → source.text ∈ texts) {chain : Chain}
    (found : (inspector.resolve lookup leaf intake).1 = .ok chain) :
    chain.Genuine texts ∧ (inspector.introspect lookup leaf intake).result.map (·.report) =
      Report.ofChain chain := by
  have chains := (resolve_chain faithful distinct known leaf).symm.trans found
  refine ⟨chainOf_genuine known chains, ?_⟩
  rw [introspect_report faithful distinct known, reportOn, chains]
  rfl

end Inspector

/-! ## The requests in a session -/

namespace Session

/-- In any state of a session the requests for one leaf agree.  The report cannot be made exactly if
the rules cannot be evaluated, and the failures are the same.  Where there is no chain, both fail as
the request for the chain does.

Let the session have begun without any requests, and let no two different texts that are used in it
have the same identity.  Then the report on a leaf with a chain fails only for a block that calls
`super()` without an ancestor or for what some template declares, and names a template of the chain.
If there is a report, there is a chain, and the report is on that chain and on the leaf. -/
theorem requests_agree (session : Session) (steps : List (Nat × SessionStep)) (place : Nat)
    (seat : Seat) (seated : (session.after steps).seats[place]? = some seat) (leaf : String)
    (content : Option String) :
    let lookup := (session.after steps).library.lookup
    let intake := (session.after steps).intake seat
    let resolved := (seat.inspector.resolve lookup leaf intake).1
    let introspected := (seat.inspector.introspect lookup leaf intake).result
    let validated := (seat.inspector.validate lookup leaf content intake).result
    (∀ failure, introspected = .error failure ↔ validated = .error failure) ∧
    (∀ failure, resolved = .error failure →
      introspected = .error failure ∧ validated = .error failure) ∧
    (session.Unused → Distinguishable (session.library.texts ++ insertedTexts steps) →
      (∀ chain failure, resolved = .ok chain → introspected = .error failure →
        chain.HasFault failure) ∧
      ∀ record, introspected = .ok record → ∃ chain, resolved = .ok chain ∧
        record.report.template = leaf ∧ record.report.IsOn chain) := by
  intro lookup intake resolved introspected validated
  have agree : ∀ failure, introspected = .error failure ↔ validated = .error failure :=
    fun _ => Inspector.introspect_error_iff_validate content
  have noChain : ∀ failure, resolved = .error failure → introspected = .error failure :=
    fun _ => Inspector.introspect_of_resolve_error
  refine ⟨agree, fun failure failed =>
    ⟨noChain failure failed, (agree failure).mp (noChain failure failed)⟩, ?_⟩
  intro unused distinct
  have faithful := unused.faithful.after distinct
  have used := faithful.seat (Array.mem_of_getElem? seated)
  have known : ∀ name source, lookup name = .ok (some source) →
      source.text ∈ session.library.texts ++ insertedTexts steps :=
    fun _ _ looked => faithful.library.lookup looked
  constructor
  · intro chain failure found failed
    obtain ⟨genuine, report⟩ := Inspector.introspect_of_resolve used distinct known found
    apply genuine.hasFault_of_error
    rw [← report]
    exact congrArg (·.map (·.report)) failed
  · intro record reported
    cases found : resolved with
    | error failure => cases (noChain failure found).symm.trans reported
    | ok chain =>
        obtain ⟨_, report⟩ := Inspector.introspect_of_resolve used distinct known found
        have made : Report.ofChain chain = .ok record.report :=
          report.symm.trans (congrArg (·.map (·.report)) reported)
        have isOn := Report.isOn_of_ofChain made
        exact ⟨chain, rfl, isOn.template.trans (Inspector.resolve_leaf_name found), isOn⟩

/-- Between the requests of two inspectors that share a cache the root gets two declarations.  The
second one finds the chain, and cannot report on it. -/
theorem requests_agree_after_edit :
    let library := Library.ofList
      [("root", Sample.output "one"), ("leaf", Sample.extendsTag "root")]
    let session := start library [⟨16, false⟩, ⟨16, false⟩]
    let steps := [(0, SessionStep.introspect "leaf"), (1, .insert "root"
      (Sample.comment "scaffold:metadata" ++ Sample.comment "scaffold:metadata"))]
    let lookup := (session.after steps).library.lookup
    let seat : Seat := ⟨.fresh 16, 0⟩
    let intake := (session.after steps).intake seat
    let failure := Failure.malformedMetadata "root"
      "second metadata block at line 1; only one is allowed per template"
    session.Unused ∧ Distinguishable (session.library.texts ++ insertedTexts steps) ∧
      (session.after steps).seats[1]? = some seat ∧
      (seat.inspector.validate lookup "leaf" none intake).result = .error failure ∧
      ∃ chain, (seat.inspector.resolve lookup "leaf" intake).1 = .ok chain ∧
        chain.names = ["root", "leaf"] ∧ chain.HasFault failure := by
  intro library session steps lookup seat intake failure
  have unused : session.Unused := start_unused _ _
  have distinct : Distinguishable (session.library.texts ++ insertedTexts steps) := by
    unfold Distinguishable
    decide +kernel
  have seated : (session.after steps).seats[1]? = some seat := rfl
  obtain ⟨agree, _, further⟩ := requests_agree session steps 1 seat seated "leaf" none
  have answers : ((seat.inspector.introspect lookup "leaf" intake).result.map (·.serial),
      (seat.inspector.resolve lookup "leaf" intake).1.map Chain.names) =
        (.error failure, .ok ["root", "leaf"]) := by decide +kernel
  obtain ⟨failed, names⟩ := Prod.mk.inj answers
  cases introspected : (seat.inspector.introspect lookup "leaf" intake).result with
  | ok record =>
      rw [introspected] at failed
      cases failed
  | error other =>
      rw [introspected] at failed
      obtain rfl := Except.error.inj failed
      cases resolved : (seat.inspector.resolve lookup "leaf" intake).1 with
      | error other =>
          rw [resolved] at names
          cases names
      | ok chain =>
          rw [resolved] at names
          refine ⟨unused, distinct, seated, (agree _).mp introspected, chain, rfl, ?_, ?_⟩
          · exact Except.ok.inj names
          · exact (further unused distinct).1 chain _ resolved introspected

end Session

end Lineage
