import Lineage.Stamp
import Lineage.Text.Split
import Mathlib.Data.List.Infix

/-!
# Stamps that are written and read back

A stamp is written in a line behind anything that does not hold its marker.  The marker does not
begin with an end of itself (`eq_nil_or_eq_marker`), so it is found where it was written and not
before, and then the identifier and the version reach up to the next blank.  The main result says
that the stamps of a text with one such line each are read back, in their order and with the numbers
of their lines.
-/

namespace Lineage

open Lineage.Text

/-! ## Lines -/

/-- The pieces between line breaks are the parts of the text. -/
theorem Text.splitLines_eq_splitAt : splitLines = splitAt '\n' := by
  funext text
  induction text with
  | nil => rfl
  | cons c rest ih =>
      cases pieces : splitAt '\n' rest <;> simp only [splitLines, splitAt, ih, pieces]

/-- The lines of a text are its pieces without the carriage returns of their breaks, and what stands
behind the last break if that is something. -/
theorem Text.lines_of_splitLines {text last : List Char} {pieces : List (List Char)}
    (split : splitLines text = pieces ++ [last]) :
    lines text = pieces.map dropCarriageReturn ++ if last.isEmpty then [] else [last] := by
  rw [lines, split, List.reverse_append, List.reverse_singleton, List.singleton_append]
  dsimp only
  rw [List.reverse_reverse]
  split
  · rw [List.append_nil]
  · rfl

namespace Stamp

/-- What stands in front of the text of a stamp. -/
def marker : List Char :=
  "SCAFFOLD:".toList

/-- What an identifier and a version in a stamp consist of: at least one character, and no blank. -/
structure IsPart (part : String) : Prop where
  filled : part ≠ ""
  noBlank : ∀ c ∈ part.toList, isBlank c = false

instance (part : String) : Decidable (IsPart part) :=
  decidable_of_iff (part ≠ "" ∧ part.toList.all (!isBlank ·) = true) <| by
    simp only [List.all_eq_true, Bool.not_eq_true']
    exact ⟨fun ⟨filled, noBlank⟩ => ⟨filled, noBlank⟩, fun ⟨filled, noBlank⟩ => ⟨filled, noBlank⟩⟩

end Stamp

/-- A line with a stamp behind a lead. -/
structure StampLine where
  lead : List Char
  template : String
  version : Option String

namespace StampLine

/-- The stamp, if the line has the given number. -/
def stamp (line : StampLine) (number : Nat) : Stamp :=
  ⟨line.template, line.version, number⟩

/-- The line as it is written. -/
def text (line : StampLine) : List Char :=
  line.lead ++ (Stamp.marker ++ ' ' :: (line.stamp 0).toText.toList)

/-- The lead is part of one line and has no marker, and the stamp has only parts that a stamp can
have. -/
structure IsReadable (line : StampLine) : Prop where
  oneLine : '\n' ∉ line.lead
  noMarker : ¬ Stamp.marker <:+: line.lead
  template : Stamp.IsPart line.template
  version : ∀ version ∈ line.version, Stamp.IsPart version

/-- The stamps of the lines, numbered from one. -/
def stamps (lines : List StampLine) : List Stamp :=
  (lines.zipIdx 1).map fun (line, number) => line.stamp number

/-- The lines with a break between them. -/
def content (lines : List StampLine) : List Char :=
  joinWith '\n' (lines.map text)

end StampLine

namespace Stamp

/-! ## The marker -/

/-- What the marker both begins and ends with is nothing or the whole marker. -/
theorem eq_nil_or_eq_marker {part : List Char} (isSuffix : part <:+ marker)
    (isPrefix : part <+: marker) : part = [] ∨ part = marker := by
  have all : ∀ part ∈ marker.tails, part.isPrefixOf marker = true → part = [] ∨ part = marker := by
    decide
  exact all part ((List.mem_tails _ _).mpr isSuffix) (List.isPrefixOf_iff_prefix.mpr isPrefix)

/-- In front of a marker none begins behind which another one would have to go on. -/
theorem not_marker_isPrefix {lead more : List Char} (noMarker : ¬ marker <:+: lead)
    (filled : lead ≠ []) : ¬ marker <+: lead ++ (marker ++ more) := by
  intro isPrefix
  rcases List.prefix_or_prefix_of_prefix isPrefix (List.prefix_append lead _) with inLead | leadIn
  · exact noMarker inLead.isInfix
  · obtain ⟨rest, whole⟩ := leadIn
    have ahead : lead ++ rest <+: lead ++ (marker ++ more) := by rwa [whole]
    have begins : rest <+: marker := by
      apply List.prefix_of_prefix_length_le ((List.prefix_append_right_inj lead).mp ahead)
        (List.prefix_append marker more)
      rw [← whole, List.length_append]
      exact Nat.le_add_left _ _
    rcases eq_nil_or_eq_marker ⟨lead, whole⟩ begins with rfl | rfl
    · rw [List.append_nil] at whole
      exact noMarker (whole ▸ List.infix_refl lead)
    · exact filled (List.append_left_eq_self.mp whole)

/-! ## One stamp -/

variable {part : String} {rest lead more : List Char}

theorem IsPart.oneLine (isPart : IsPart part) : '\n' ∉ part.toList := by
  intro member
  have noBlank := isPart.noBlank _ member
  revert noBlank
  decide

/-- The text of a stamp ends with one of its parts. -/
theorem exists_last_part (stamp : Stamp) (template : IsPart stamp.template)
    (version : ∀ version ∈ stamp.version, IsPart version) :
    ∃ front last, stamp.toText.toList = front ++ last.toList ∧ '\n' ∉ front ∧ IsPart last := by
  obtain ⟨name, wanted, line⟩ := stamp
  cases wanted with
  | none =>
      refine ⟨"template=".toList, name, ?_, by decide, template⟩
      simp only [toText, String.toList_append, String.append_empty]
  | some wanted =>
      refine ⟨"template=".toList ++ name.toList ++ " version=".toList, wanted, ?_, ?_,
        version wanted rfl⟩
      · simp only [toText, String.toList_append, List.append_assoc]
      · simp only [List.mem_append, not_or]
        exact ⟨⟨by decide, template.oneLine⟩, by decide⟩

/-- A part of a stamp reaches up to a blank. -/
theorem word?_part (isPart : IsPart part) (ends : ∀ c ∈ rest.head?, isBlank c = true) :
    word? (part.toList ++ rest) = some (part.toList, rest) := by
  have continues : ∀ c ∈ part.toList, (!isBlank c) = true := by
    intro c member
    rw [isPart.noBlank c member, Bool.not_false]
  have stops : rest.takeWhile (!isBlank ·) = [] ∧ rest.dropWhile (!isBlank ·) = rest := by
    cases rest with
    | nil => exact ⟨rfl, rfl⟩
    | cons c rest => simp [ends c rfl]
  have filled : part.toList ≠ [] := mt String.toList_eq_nil_iff.mp isPart.filled
  rw [word?, List.takeWhile_append_of_pos continues, List.dropWhile_append_of_pos continues,
    stops.1, stops.2, List.append_nil, if_neg (by simpa using filled)]

theorem version?_part (isPart : IsPart part) :
    version? (" version=".toList ++ part.toList) = some (part.toList, []) := by
  have reads : version? (" version=".toList ++ part.toList) = word? part.toList := by
    have blank : isBlank ' ' = true := by decide
    have trimmed : trimStart (" version=".toList ++ part.toList) =
        "version=".toList ++ part.toList := rfl
    rw [version?, trimmed, after?_eq_some_iff.mpr rfl]
    exact if_pos blank
  have whole : word? (part.toList ++ []) = some (part.toList, []) := word?_part isPart nofun
  rw [reads]
  rwa [List.append_nil] at whole

/-- Behind the marker stands an identifier, and perhaps a version. -/
theorem first?_marker (isPart : IsPart part) (ends : ∀ c ∈ rest.head?, isBlank c = true)
    (number : Nat) :
    first? number (marker ++ ' ' :: ("template=".toList ++ (part.toList ++ rest))) =
      match version? rest with
      | some (version, after) => some (⟨part, some (String.ofList version), number⟩, after)
      | none => some (⟨part, none, number⟩, rest) := by
  have marked : after? "SCAFFOLD:".toList
      (marker ++ ' ' :: ("template=".toList ++ (part.toList ++ rest))) =
        some (' ' :: ("template=".toList ++ (part.toList ++ rest))) :=
    after?_eq_some_iff.mpr rfl
  have named : after? "template=".toList
      (trimStart (' ' :: ("template=".toList ++ (part.toList ++ rest)))) =
        some (part.toList ++ rest) :=
    after?_eq_some_iff.mpr rfl
  simp only [first?, Option.bind_eq_bind, marked, named, word?_part isPart ends,
    Option.bind_some, String.ofList_toList]
  cases version? rest <;> rfl

/-- A stamp is read where its marker stands. -/
theorem first?_written {stamp : Stamp} (template : IsPart stamp.template)
    (version : ∀ version ∈ stamp.version, IsPart version) (number : Nat) :
    first? number (marker ++ ' ' :: stamp.toText.toList) =
      some ({ stamp with line := number }, []) := by
  obtain ⟨name, wanted, line⟩ := stamp
  cases wanted with
  | none =>
      have written : (Stamp.toText ⟨name, none, line⟩).toList =
          "template=".toList ++ (name.toList ++ []) := by
        simp only [toText, String.toList_append, String.append_empty, List.append_nil]
      have nothing : ∀ c ∈ ([] : List Char).head?, isBlank c = true := nofun
      rw [written, first?_marker template nothing]
      rfl
  | some wanted =>
      have written : (Stamp.toText ⟨name, some wanted, line⟩).toList =
          "template=".toList ++ (name.toList ++ (" version=".toList ++ wanted.toList)) := by
        simp only [toText, String.toList_append, List.append_assoc]
      have blank : ∀ c ∈ (" version=".toList ++ wanted.toList).head?, isBlank c = true := by
        rintro _ ⟨⟩
        decide
      rw [written, first?_marker template blank, version?_part (version wanted rfl)]
      simp only [String.ofList_toList]

/-- Where no marker stands, no stamp is read. -/
theorem first?_eq_none (noMarker : ¬ marker <+: rest) (number : Nat) :
    first? number rest = none := by
  have absent : after? marker rest = none := by
    rw [after?, if_neg (mt List.isPrefixOf_iff_prefix.mp noMarker)]
  change (after? marker rest).bind _ = none
  rw [absent, Option.bind_none]

theorem inLine_nil (number fuel : Nat) : inLine number fuel [] = [] := by
  cases fuel <;> rfl

/-- Behind a stamp the line is read on. -/
theorem inLine_of_first? {number : Nat} {stamp : Stamp}
    (found : first? number rest = some (stamp, more)) (fuel : Nat) :
    inLine number (fuel + 1) rest = stamp :: inLine number fuel more := by
  cases rest with
  | nil => cases found
  | cons c rest => rw [inLine, found]

/-- What has no marker is passed over. -/
theorem inLine_behind (noMarker : ¬ marker <:+: lead) (number fuel : Nat) :
    inLine number (lead.length + fuel) (lead ++ (marker ++ more)) =
      inLine number fuel (marker ++ more) := by
  induction lead with
  | nil => rw [List.length_nil, Nat.zero_add, List.nil_append]
  | cons c lead ih =>
      have none : first? number (c :: (lead ++ (marker ++ more))) = none :=
        first?_eq_none (not_marker_isPrefix noMarker (List.cons_ne_nil c lead)) number
      rw [List.length_cons, Nat.succ_add, List.cons_append, inLine, none]
      exact ih fun inTail => noMarker (List.infix_cons inTail)

end Stamp

/-! ## The lines of a text -/

namespace StampLine

variable {line : StampLine} {lines : List StampLine}

theorem IsReadable.oneLine_text (readable : line.IsReadable) : '\n' ∉ line.text := by
  obtain ⟨front, last, written, oneLine, isPart⟩ :=
    Stamp.exists_last_part (line.stamp 0) readable.template readable.version
  simp only [text, written, List.mem_append, List.mem_cons, not_or]
  exact ⟨readable.oneLine, by decide, by decide, oneLine, isPart.oneLine⟩

/-- A written line does not end with a blank. -/
theorem IsReadable.exists_getLast? (readable : line.IsReadable) :
    ∃ c, line.text.getLast? = some c ∧ isBlank c = false := by
  obtain ⟨front, last, written, _, isPart⟩ :=
    Stamp.exists_last_part (line.stamp 0) readable.template readable.version
  have filled : last.toList ≠ [] := mt String.toList_eq_nil_iff.mp isPart.filled
  refine ⟨last.toList.getLast filled, ?_, isPart.noBlank _ (List.getLast_mem filled)⟩
  rw [text, written, ← List.cons_append, ← List.append_assoc, ← List.append_assoc,
    List.getLast?_append_of_ne_nil _ filled, List.getLast?_eq_getLast_of_ne_nil filled]

/-- The stamp of a line is all that is read there. -/
theorem IsReadable.inLine_text (readable : line.IsReadable) (number : Nat) :
    Stamp.inLine number line.text.length line.text = [line.stamp number] := by
  have read : Stamp.first? number (Stamp.marker ++ ' ' :: (line.stamp 0).toText.toList) =
      some (line.stamp number, []) :=
    Stamp.first?_written readable.template readable.version number
  have fuel : line.text.length =
      line.lead.length + ((Stamp.marker ++ (line.stamp 0).toText.toList).length + 1) := by
    simp only [text, List.length_append, List.length_cons]
    omega
  rw [fuel, text, Stamp.inLine_behind readable.noMarker, Stamp.inLine_of_first? read,
    Stamp.inLine_nil]

/-- The lines of a content are those that were written, whether the last one is ended or not. -/
theorem lines_content (readable : ∀ line ∈ lines, line.IsReadable) (filled : lines ≠ []) :
    Text.lines (content lines) = lines.map text ∧
      Text.lines (content lines ++ ['\n']) = lines.map text := by
  have split : splitAt '\n' (content lines) = lines.map text := by
    apply splitAt_joinWith (mt List.map_eq_nil_iff.mp filled)
    exact List.forall_mem_map.mpr fun line member => (readable line member).oneLine_text
  have kept : ∀ line ∈ lines, dropCarriageReturn line.text = line.text := by
    intro line member
    obtain ⟨c, isLast, noBlank⟩ := (readable line member).exists_getLast?
    rw [dropCarriageReturn, if_neg]
    intro isReturn
    rw [isLast] at isReturn
    cases isReturn
    cases noBlank
  constructor
  · have whole : lines.dropLast ++ [lines.getLast filled] = lines :=
      List.dropLast_concat_getLast filled
    have pieces : splitLines (content lines) =
        lines.dropLast.map text ++ [(lines.getLast filled).text] := by
      rw [splitLines_eq_splitAt, split, ← List.map_singleton, ← List.map_append, whole]
    have same : (lines.dropLast.map text).map dropCarriageReturn = lines.dropLast.map text := by
      rw [List.map_map]
      exact List.map_congr_left fun line member => kept line (List.mem_of_mem_dropLast member)
    have notEmpty : (lines.getLast filled).text.isEmpty = false := by
      obtain ⟨c, isLast, _⟩ := (readable _ (List.getLast_mem filled)).exists_getLast?
      rw [List.isEmpty_eq_false_iff]
      rintro empty
      rw [empty] at isLast
      cases isLast
    rw [lines_of_splitLines pieces, same, notEmpty, if_neg Bool.false_ne_true,
      ← List.map_singleton, ← List.map_append, whole]
  · have pieces : splitLines (content lines ++ ['\n']) = lines.map text ++ [[]] := by
      rw [splitLines_eq_splitAt, splitAt_append_separator, split]
      rfl
    have same : (lines.map text).map dropCarriageReturn = lines.map text := by
      rw [List.map_map]
      exact List.map_congr_left kept
    rw [lines_of_splitLines pieces, same, List.isEmpty_nil, if_pos rfl, List.append_nil]

end StampLine

/-- A stamp is read in each of the lines of a content, and the numbers of the lines are those of the
content. -/
theorem Stamp.all_of_lines {content : List Char} {lines : List StampLine}
    (readable : ∀ line ∈ lines, line.IsReadable)
    (cut : Text.lines content = lines.map StampLine.text) :
    Stamp.all content = StampLine.stamps lines := by
  rw [all, cut, List.zipIdx_map, List.flatMap_map, StampLine.stamps]
  have each : ∀ entry ∈ lines.zipIdx 1,
      inLine entry.2 entry.1.text.length entry.1.text = [entry.1.stamp entry.2] := by
    rintro ⟨line, number⟩ member
    exact (readable line (List.fst_mem_of_mem_zipIdx member)).inLine_text number
  exact (List.flatMap_congr each).trans List.map_eq_flatMap.symm

/-- The stamps of lines that hold one stamp each are read back as they were written, with the
numbers of their lines, whether the last line is ended or not. -/
theorem Stamp.all_content {lines : List StampLine}
    (readable : ∀ line ∈ lines, line.IsReadable) :
    Stamp.all (StampLine.content lines) = StampLine.stamps lines ∧
      Stamp.all (StampLine.content lines ++ ['\n']) = StampLine.stamps lines := by
  by_cases filled : lines = []
  · subst filled
    exact ⟨rfl, rfl⟩
  · obtain ⟨notEnded, ended⟩ := StampLine.lines_content readable filled
    exact ⟨Stamp.all_of_lines readable notEnded, Stamp.all_of_lines readable ended⟩

/-- A lead with a beginning of the marker, and an identifier and a version that look like parts of
another stamp. -/
theorem Stamp.all_content_lookalikes :
    let lines : List StampLine := [
      ⟨"# SCAFFOLD".toList, "template=a", some "version=SCAFFOLD:template=b"⟩, ⟨[], "c", none⟩,
      ⟨"\t// ".toList, "SCAFFOLD:", some "="⟩]
    (∀ line ∈ lines, line.IsReadable) ∧
      StampLine.content lines =
        ("# SCAFFOLDSCAFFOLD: template=template=a version=version=SCAFFOLD:template=b\n" ++
          "SCAFFOLD: template=c\n\t// SCAFFOLD: template=SCAFFOLD: version==").toList ∧
      Stamp.all (StampLine.content lines) =
        [⟨"template=a", some "version=SCAFFOLD:template=b", 1⟩, ⟨"c", none, 2⟩,
          ⟨"SCAFFOLD:", some "=", 3⟩] := by
  intro lines
  have readable : ∀ line ∈ lines, line.IsReadable := by
    simp only [lines, List.forall_mem_cons]
    exact ⟨⟨by decide, by decide, by decide +kernel, by decide +kernel⟩,
      ⟨by decide, by decide, by decide +kernel, by decide +kernel⟩,
      ⟨by decide, by decide, by decide +kernel, by decide +kernel⟩, nofun⟩
  exact ⟨readable, by decide +kernel, (Stamp.all_content readable).1⟩

end Lineage
