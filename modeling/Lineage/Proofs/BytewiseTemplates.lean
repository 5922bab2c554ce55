import Lineage.Proofs.BytewiseSegments
import Lineage.Proofs.BytewiseTags

/-!
# Templates by positions

A template that is read by positions in its bytes and in its lists of tokens is read to the same
outcome as without them (`parseTemplate_run`).  So no reading breaks off: every index is inside,
every slice is in range and cuts no character, and no difference is below zero.
-/

namespace Lineage.Bytewise

open Lineage.Text Lineage.Template

section Segments

variable {outline after : Outline} {line : Nat}

/-- An outline is valid if the one before it is. -/
def KeepsValid (outline after : Outline) : Prop :=
  Valid outline → Valid after

theorem KeepsValid.refl (outline : Outline) : KeepsValid outline outline :=
  id

theorem KeepsValid.trans {first middle last : Outline} (one : KeepsValid first middle)
    (other : KeepsValid middle last) : KeepsValid first last :=
  fun valid => other (one valid)

/-- The effects of a tag leave a valid outline. -/
theorem keepsValid_applyAll {name : String} {effects : List Effect}
    (belong : MayHave name effects) (done : outline.applyAll line effects = .ok after) :
    KeepsValid outline after := by
  apply Outline.foldlM_keeps KeepsValid.refl KeepsValid.trans _
    (Outline.applyAll_eq_ok_iff.mp done)
  intro effect member _ _ applied valid
  exact valid.apply (belong effect member) applied

/-- Every segment leaves a valid outline. -/
theorem Valid.segment (valid : Valid outline) {part : Segment}
    (done : outline.segment part = .ok after) : Valid after := by
  cases part with
  | text run line =>
      cases done
      have added : blockNames (outline.nodes ++ [.text (byteLength run) line]) =
          blockNames outline.nodes := by
        rw [blockNames_append]
        exact List.append_nil _
      have addedParents : parents (outline.nodes ++ [.text (byteLength run) line]) =
          parents outline.nodes := by
        rw [parents_append]
        exact List.append_nil _
      exact ⟨valid.sound.grows (Outline.add_grows outline _), added ▸ valid.distinct,
        addedParents ▸ valid.single⟩
  | output body line => exact keepsValid_applyAll (mayHave_ofOutput "" body) done valid
  | tag body line => exact keepsValid_applyAll (mayHave_ofTag body) done valid
  | comment body line =>
      cases done
      exact valid

/-- The fault of a tag is at the line of the tag. -/
theorem adapt_applied (outline : Outline) (line : Nat) (effects : List Effect) :
    (applied outline line effects).adapt (Fault.mk line) =
      settled ((outline.applyAll line effects).map placeOutline) := by
  rw [applied, Outline.applyAll]
  cases effects.foldlM (fun (current : Outline) effect => current.apply line effect) outline <;> rfl

theorem segment_place (valid : Valid outline) (part : Segment) :
    (placeOutline outline).segment part = settled ((outline.segment part).map placeOutline) := by
  cases part with
  | text run line => exact congrArg (pure (f := Checked Fault)) (add_place valid rfl rfl)
  | output body line =>
      rw [Parser.segment, output_place valid, adapt_applied]
      rfl
  | tag body line =>
      rw [Parser.segment, tag_place valid, adapt_applied]
      rfl
  | comment body line => rfl

theorem segments_place (valid : Valid outline) (parts : List Segment) :
    parts.foldlM Parser.segment (placeOutline outline) =
      settled ((outline.segments parts).map placeOutline) := by
  induction parts generalizing outline with
  | nil => rfl
  | cons part parts ih =>
      rw [List.foldlM_cons, segment_place valid, Outline.segments, List.foldlM_cons]
      cases done : outline.segment part with
      | error fault => rfl
      | ok after => exact ih (valid.segment done)

end Segments

/-- The nodes of a template are the same by positions. -/
theorem nodesOf_eq (text : List Char) :
    Parser.nodesOf text = settled (Node.ofTemplate text) := by
  have cut : segmentsFrom text 0 1 = settled (Segment.ofTemplate text) :=
    segmentsFrom_eq [] text 1
  rw [Parser.nodesOf, cut, Node.ofTemplate]
  cases Segment.ofTemplate text with
  | error fault => rfl
  | ok parts =>
      have ran := segments_place valid_empty parts
      change (parts.foldlM Parser.segment (placeOutline .empty) >>= _) =
        settled (Outline.empty.segments parts >>= Outline.finish)
      rw [ran]
      cases Outline.empty.segments parts with
      | error fault => rfl
      | ok outline =>
          rcases outline with ⟨nodes, _ | ⟨frame, frames⟩, nested⟩ <;> rfl

/-- A template that is read by positions is read, or refused, as it is without them. -/
theorem parseTemplate_run (name : String) (text : List Char) :
    (parseTemplate name text).run = some (Parsed.ofTemplate name text) := by
  rw [parseTemplate, nodesOf_eq, Parsed.ofTemplate]
  cases Node.ofTemplate text with
  | error fault => rfl
  | ok nodes =>
      simp only [settled_ok, adapt_pure, pure_bind]
      cases nodes.findSome? Node.dynamicParent? <;> rfl

end Lineage.Bytewise
