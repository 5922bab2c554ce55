import Lineage.Proofs.Ancestors
import Lineage.Proofs.Concatenation
import Mathlib.Data.List.Nodup

/-!
# The names of the blocks of a template

An effect adds to the names of the blocks the one that it defines, if it defines one, and that has
to be a new one (`Outline.blockNames_apply`).  So no template that is accepted contains two blocks
of the same name (`Parsed.ofTemplate_blockNames_nodup`).  The same holds of every template of a
chain, as long as the records of the cache are readings at all, be it of other texts
(`Resolution.run_blockNames_nodup`).
-/

namespace Lineage

open Lineage.Template

/-! ## The blocks after a step -/

/-- The name of the block that an effect defines. -/
def Template.Effect.defined? : Effect → Option String
  | .define block => some block
  | _ => none

namespace Template.Outline

variable {outline after : Outline} {line : Nat}

@[simp]
theorem blockNames_reads (outline : Outline) (line : Nat) (expression : Expression)
    (context : Context) : blockNames (outline.reads line expression context) = [] := by
  simp [blockNames, reads, readNode, Node.block?]

theorem blockNames_bind (outline : Outline) (line : Nat) (names : List String) :
    blockNames (outline.bind line names).nodes = blockNames outline.nodes := by
  have assigns : blockNames (names.map (.assign · line)) = [] := by
    simp [blockNames, Node.block?]
  unfold bind
  split
  · rfl
  · rw [add, blockNames_append, assigns, List.append_nil]

theorem blockNames_read {expression : Expression} {context : Context}
    (done : outline.read line expression context = .ok after) :
    blockNames after.nodes = blockNames outline.nodes := by
  rcases read_eq_ok_iff.mp done with ⟨_, rfl⟩ | ⟨_, block, _, rfl⟩
  · simp [add]
  · simp

theorem blockNames_extend {expression : Expression}
    (done : outline.extend line expression = .ok after) :
    blockNames after.nodes = blockNames outline.nodes := by
  rcases extend_eq_ok_iff.mp done with ⟨_, rfl⟩ | ⟨_, _, rfl⟩
  · simp [blockNames, Node.block?]
  · exact blockNames_addParent _ _

theorem blockNames_leave {expected : Structure} (done : outline.leave line expected = .ok after) :
    blockNames after.nodes = blockNames outline.nodes := by
  obtain ⟨frame, frames, _, _, rfl⟩ := leave_eq_ok_iff.mp done
  cases frame.opened with
  | capture names => exact blockNames_bind _ _ _
  | _ => rfl

/-- After an effect the blocks are those from before and the one that it defines, which is new. -/
theorem blockNames_apply {effect : Effect} (done : outline.apply line effect = .ok after) :
    blockNames after.nodes = blockNames outline.nodes ++ effect.defined?.toList ∧
      ∀ name, effect.defined? = some name → name ∉ blockNames outline.nodes := by
  cases effect with
  | define block =>
      obtain ⟨new, rfl⟩ := define_eq_ok_iff.mp done
      refine ⟨blockNames_append _ _, ?_⟩
      intro name named
      exact Option.some.inj named ▸ new
  | refuse cause => cases done
  | read expression context => simp [blockNames_read done, Effect.defined?]
  | test expression =>
      obtain ⟨middle, isRead, rfl⟩ := test_eq_ok_iff.mp done
      simp [blockNames_read isRead, Effect.defined?]
  | expectBranch =>
      obtain ⟨rfl, _⟩ := expectBranch_eq_ok_iff.mp done
      simp [Effect.defined?]
  | otherwise =>
      rcases otherwise_eq_ok_iff.mp done with ⟨_, _, _, _, _, rfl⟩ | ⟨_, rfl⟩
      · simp [Effect.defined?]
      · simp [Effect.defined?]
  | extend expression => simp [blockNames_extend done, Effect.defined?]
  | enter opened names =>
      cases done
      simp [enter, Effect.defined?]
  | leaveBlock block =>
      simp [blockNames_leave (leaveBlock_eq_ok_iff.mp done).2, Effect.defined?]
  | leave kind => simp [blockNames_leave done, Effect.defined?]
  | bind names =>
      cases done
      simp [blockNames_bind, Effect.defined?]

/-- The step leaves no two blocks of the same name where there were none. -/
def KeepsDistinct (outline after : Outline) : Prop :=
  (blockNames outline.nodes).Nodup → (blockNames after.nodes).Nodup

theorem KeepsDistinct.refl (outline : Outline) : outline.KeepsDistinct outline :=
  id

theorem KeepsDistinct.trans {middle : Outline} (first : outline.KeepsDistinct middle)
    (second : middle.KeepsDistinct after) : outline.KeepsDistinct after :=
  second ∘ first

theorem apply_keepsDistinct {effect : Effect} (done : outline.apply line effect = .ok after) :
    outline.KeepsDistinct after := by
  intro distinct
  obtain ⟨names, new⟩ := blockNames_apply done
  rw [names]
  cases defined : effect.defined? with
  | none => simpa using distinct
  | some name =>
      rw [Option.toList_some, ← List.concat_eq_append]
      exact List.Nodup.concat (new name defined) distinct

theorem applyAll_keepsDistinct {effects : List Effect}
    (done : outline.applyAll line effects = .ok after) : outline.KeepsDistinct after := by
  apply foldlM_keeps KeepsDistinct.refl KeepsDistinct.trans _ (applyAll_eq_ok_iff.mp done)
  intro effect _ _ _ applied
  exact apply_keepsDistinct applied

theorem segments_keepsDistinct {parts : List Segment}
    (done : outline.segments parts = .ok after) : outline.KeepsDistinct after := by
  apply foldlM_keeps KeepsDistinct.refl KeepsDistinct.trans _ done
  intro part _ outline after ran
  cases part with
  | text run line =>
      cases ran
      intro distinct
      simpa [add, blockNames, Node.block?] using distinct
  | output body line => exact applyAll_keepsDistinct ran
  | tag body line => exact applyAll_keepsDistinct ran
  | comment body line =>
      cases ran
      exact KeepsDistinct.refl _

end Template.Outline

/-- A template that is accepted contains no two blocks of the same name. -/
theorem Template.Parsed.ofTemplate_blockNames_nodup {name : String} {text : List Char}
    {parsed : Parsed} (read : Parsed.ofTemplate name text = .ok parsed) :
    (parsed.blocks.map (·.name)).Nodup := by
  obtain ⟨_, found, _⟩ := Parsed.ofTemplate_eq_ok_iff.mp read
  obtain ⟨parts, outline, _, done, _, nodes⟩ := Node.ofTemplate_eq_ok_iff.mp found
  rw [← blockNames_eq_map, ← nodes]
  exact Outline.segments_keepsDistinct done List.nodup_nil

/-! ## Caches whose records are readings -/

namespace ParseCache

/-- Every record of the cache is the reading of some text under its name. -/
def HoldsReadings (cache : ParseCache) : Prop :=
  ∀ record ∈ cache.records, ∃ text, record.outcome = Parsed.ofTemplate record.name text

variable {cache : ParseCache}

theorem holdsReadings_empty : empty.HoldsReadings := by
  intro record member
  simp [empty] at member

theorem Faithful.holdsReadings {texts : List String} (faithful : cache.Faithful texts) :
    cache.HoldsReadings := by
  intro record member
  obtain ⟨text, _, _, reading⟩ := faithful record member
  exact ⟨text.toList, reading⟩

/-- A reading is the reading of some text, and leaves only readings in the cache. -/
theorem HoldsReadings.get (readings : cache.HoldsReadings) (name : String) (source : Source) :
    (∃ text, (cache.get name source).1.outcome = Parsed.ofTemplate name text) ∧
      (cache.get name source).2.HoldsReadings := by
  rcases cache.get_cases name source with ⟨record, found, _, answered⟩ | ⟨_, answered⟩
  · rw [answered]
    obtain ⟨text, reading⟩ := readings record (mem_of_find? found)
    rw [name_of_find? found] at reading
    exact ⟨⟨text, reading⟩, readings⟩
  · rw [answered]
    refine ⟨⟨source.text.toList, rfl⟩, ?_⟩
    intro record member
    rcases mem_records_read member with rfl | old
    · exact ⟨source.text.toList, rfl⟩
    · exact readings record old

end ParseCache

/-! ## The templates of a chain -/

/-- The names of the blocks that the template contains, in source order. -/
def Tier.blockNames (tier : Tier) : List String :=
  tier.parsed.blocks.map (·.name)

namespace Resolution

variable {resolution : Resolution}

/-- Every template of a chain that a resolution finds is the reading of some text. -/
theorem run_readings {intake : Intake} {chain : Chain}
    (readings : intake.parses.HoldsReadings) (found : (resolution.run intake).1 = .ok chain) :
    ∀ tier ∈ chain.tiers, ∃ text, Parsed.ofTemplate tier.name text = .ok tier.parsed := by
  let read := fun tiers : List Tier =>
    ∀ tier ∈ tiers, ∃ text, Parsed.ofTemplate tier.name text = .ok tier.parsed
  refine climb_found (fun _ below intake => intake.parses.HoldsReadings ∧ read below) read
    ?_ ⟨readings, List.forall_mem_nil _⟩ found
  rintro name below intake source parsed _ ⟨readings, kept⟩ outcome
  obtain ⟨⟨text, reading⟩, further⟩ := readings.get name source
  have next : read (⟨name, source, parsed⟩ :: below) :=
    List.forall_mem_cons.mpr ⟨⟨text, reading.symm.trans outcome⟩, kept⟩
  cases parsed.parent with
  | none => exact next
  | some parent => exact ⟨further, next⟩

/-- No template of a chain that a resolution finds contains two blocks of the same name. -/
theorem run_blockNames_nodup {intake : Intake} {chain : Chain}
    (readings : intake.parses.HoldsReadings) (found : (resolution.run intake).1 = .ok chain) :
    ∀ tier ∈ chain.tiers, tier.blockNames.Nodup := by
  intro tier member
  obtain ⟨text, reading⟩ := run_readings readings found tier member
  exact Parsed.ofTemplate_blockNames_nodup reading

end Resolution

end Lineage
