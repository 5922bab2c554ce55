import Lineage.Proofs.Listings

/-!
# Extensions with a dot

A look-up adds a whole extension to the name of a template, while a file is listed for what is
behind the last dot of its name (`Path.extension?_extended`).  So a file that is found with an
extension is listed exactly if the part of this extension behind its last dot is known as well.
-/

namespace Lineage

open Lineage.Text

namespace Path

variable {stem extension name : String}

/-- The part of an extension behind its last dot. -/
def shortExtension (extension : String) : String :=
  String.ofList ((splitAt '.' extension.toList).getLastD [])

theorem shortExtension_of_notMem (whole : '.' ∉ extension.toList) :
    shortExtension extension = extension := by
  rw [shortExtension, splitAt_of_notMem whole]
  exact String.ofList_toList

/-- Of an extension that is added to a file name, only the part behind its last dot counts as the
extension of the file. -/
theorem extension?_extended (filled : stem ≠ "") (extension : String) :
    extension? (stem ++ ("." ++ extension)) = some (shortExtension extension) := by
  have parts : splitAt '.' (stem ++ ("." ++ extension)).toList =
      splitAt '.' stem.toList ++ splitAt '.' extension.toList := by
    rw [String.toList_append, String.toList_append]
    exact splitAt_append_separator '.' stem.toList extension.toList
  have notNil := splitAt_ne_nil '.' extension.toList
  obtain ⟨before, last, behind⟩ := (List.eq_nil_or_concat' _).resolve_left notNil
  have front : splitAt '.' stem.toList ++ before ≠ [[]] := by
    intro same
    obtain ⟨c, rest, split⟩ := List.exists_cons_of_ne_nil (mt String.toList_eq_nil_iff.mp filled)
    rcases List.append_eq_singleton_iff.mp same with ⟨none, _⟩ | ⟨single, _⟩
    · exact splitAt_ne_nil _ _ none
    · have whole := joinWith_splitAt '.' stem.toList
      rw [single, split] at whole
      cases whole
  rw [extension?, parts, shortExtension, behind, ← List.append_assoc]
  simp only [List.dropLast_concat, List.getLast?_concat, List.getLastD_concat]
  split
  · rename_i none
    exact absurd (List.append_eq_nil_iff.mp none).1 (splitAt_ne_nil _ _)
  · contradiction
  · rename_i same _ _
    rw [Option.some.inj same]
  · contradiction

/-- A step to something in a directory. -/
structure LeadsDown (step : String) : Prop where
  filled : step ≠ ""
  notHere : step ≠ "."
  notUp : step ≠ parentStep

/-- With an extension a step leads down as before. -/
theorem LeadsDown.extended {step : String} (down : LeadsDown step) (extension : String) :
    LeadsDown (step ++ ("." ++ extension)) := by
  obtain ⟨c, rest, split⟩ :=
    List.exists_cons_of_ne_nil (mt String.toList_eq_nil_iff.mp down.filled)
  have spelled : (step ++ ("." ++ extension)).toList = c :: (rest ++ '.' :: extension.toList) := by
    rw [String.toList_append, String.toList_append, split]
    rfl
  refine ⟨?_, ?_, ?_⟩
  · intro same
    rw [same] at spelled
    cases spelled
  · intro same
    rw [same] at spelled
    obtain ⟨_, behind⟩ := List.cons.inj spelled
    cases rest <;> cases behind
  · -- two dots are left only of a single one, with an empty extension
    intro same
    rw [same] at spelled
    obtain ⟨rfl, behind⟩ := List.cons.inj spelled
    cases rest with
    | nil => exact down.notHere (String.toList_inj.mp split)
    | cons d rest =>
        obtain ⟨_, further⟩ := List.cons.inj behind
        cases rest <;> cases further

end Path

/-- Steps that lead down are the names of the place to which they lead. -/
theorem FileTree.descend?_of_leadsDown {above : List FileTree} {current tree : FileTree}
    {steps : List String} (down : ∀ step ∈ steps, Path.LeadsDown step)
    (led : follow above current steps = .ok tree) : descend? steps current = some tree := by
  have noUp : Path.parentStep ∉ steps := fun member => (down _ member).notUp rfl
  have allMove : steps.filter (fun step => step != "" && step != ".") = steps := by
    rw [List.filter_eq_self]
    intro step member
    simp [(down step member).filled, (down step member).notHere]
  have descends := descend?_of_follow noUp led
  rwa [allMove] at descends

namespace TemplateName

variable {name : String}

/-- The steps of a normalized name lead down. -/
theorem leadsDown_of_normalize (accepted : defect? name = none)
    (normal : normalize name = name) : ∀ step ∈ Path.parts name, Path.LeadsDown step := by
  obtain ⟨_, _, noUp⟩ := TemplateDirectory.defect?_eq_none_iff.mp accepted
  have steps : (Path.steps name).filter (· != Path.parentStep) = Path.steps name := by
    rw [List.filter_eq_self]
    intro step member
    rw [bne_iff_ne]
    exact fun up => noUp (up ▸ member)
  rw [normalize, steps] at normal
  have filled : Path.steps name ≠ [] := by
    intro none
    rw [none] at normal
    exact TemplateDirectory.name_ne_empty accepted normal.symm
  have noSlash : ∀ step ∈ Path.steps name, '/' ∉ step.toList := by
    intro step member
    rw [Path.steps_eq_filter] at member
    obtain ⟨part, inside, rfl⟩ := List.mem_map.mp (List.mem_filter.mp member).1
    rw [String.toList_ofList]
    exact notMem_of_mem_splitAt inside
  have same : Path.parts name = Path.steps name := by
    rw [← Path.parts_intercalate filled noSlash, normal]
  intro step member
  rw [same] at member
  have moves := (List.mem_filter.mp (Path.steps_eq_filter name ▸ member)).2
  rw [Bool.and_eq_true, bne_iff_ne, bne_iff_ne] at moves
  exact ⟨moves.1, moves.2, fun up => noUp (up ▸ member)⟩

/-- So do its steps if an extension is added, which lengthens the last one. -/
theorem exists_parts_extended {extension : String} (accepted : defect? name = none)
    (normal : normalize name = name) (noSlash : '/' ∉ extension.toList) :
    ∃ before last, last ≠ "" ∧
      Path.parts (name ++ ("." ++ extension)) = before ++ [last ++ ("." ++ extension)] ∧
      ∀ step ∈ before ++ [last ++ ("." ++ extension)], Path.LeadsDown step := by
  have plain : '/' ∉ ("." ++ extension).toList := by
    rw [String.toList_append, List.mem_append, not_or]
    exact ⟨by decide, noSlash⟩
  obtain ⟨before, last, parts, longer⟩ := Path.parts_extended plain name
  have down := leadsDown_of_normalize accepted normal
  rw [parts] at down
  obtain ⟨downBefore, downLast⟩ := List.forall_mem_append.mp down
  have here := downLast last (List.mem_singleton_self last)
  refine ⟨before, last, here.filled, longer, ?_⟩
  rw [List.forall_mem_append, List.forall_mem_singleton]
  exact ⟨downBefore, here.extended extension⟩

end TemplateName

namespace TemplateDirectory

variable {directory : TemplateDirectory} {entries : List (String × FileTree)}
  {name extension : String} {content : ByteArray}

/-- The file that stands at a normalized name with an extension. -/
theorem exists_place_extended
    (found : directory.files.find directory.root = .ok (.directory entries))
    (accepted : TemplateName.defect? name = none) (normal : TemplateName.normalize name = name)
    (noSlash : '/' ∉ extension.toList)
    (there : directory.files.find (Path.join directory.root (name ++ ("." ++ extension))) =
      .ok (.file content)) :
    ∃ before last, last ≠ "" ∧
      Path.parts (name ++ ("." ++ extension)) = before ++ [last ++ ("." ++ extension)] ∧
      FileTree.descend? (before ++ [last ++ ("." ++ extension)]) (.directory entries) =
        some (.file content) := by
  obtain ⟨before, last, filled, parts, down⟩ :=
    TemplateName.exists_parts_extended accepted normal noSlash
  refine ⟨before, last, filled, parts, ?_⟩
  have filledName := name_ne_empty accepted
  have filledPath : name ++ ("." ++ extension) ≠ "" := by simp
  have relative : Path.isAbsolute (name ++ ("." ++ extension)) = false := by
    rw [Path.isAbsolute_append filledName]
    exact (defect?_eq_none_iff.mp accepted).2.1
  have noNul : '\x00' ∉ (name ++ ("." ++ extension)).toList := by
    obtain ⟨lead, _, leads⟩ := directory.exists_lead
    have whole := (FileTree.find_eq_ok_iff.mp there).1
    rw [leads _ filledPath relative, String.toList_append, List.mem_append, not_or] at whole
    exact whole.2
  obtain ⟨above, finds⟩ := exists_find_join found
  rw [finds _ ⟨filledPath, relative, noNul⟩] at there
  split at there
  · rw [parts] at there
    exact FileTree.descend?_of_leadsDown down there
  · cases there

/-- Where the look-up of a normalized name is answered by the file at the name with a known
extension, this file is listed exactly if what is behind the last dot of the extension is a known
extension as well.  So it is listed if the extension has no dot.  The list fails if a directory is
too far away to be opened. -/
theorem list_extended (directory : TemplateDirectory) {entries : List (String × FileTree)}
    {name extension text : String} {content : ByteArray}
    (found : directory.files.find directory.root = .ok (.directory entries))
    (sound : (FileTree.directory entries).IsSound)
    (accepted : TemplateName.defect? name = none) (normal : TemplateName.normalize name = name)
    (configured : extension ∈ directory.extensions) (noSlash : '/' ∉ extension.toList)
    (comes : ComesTo directory.files (directory.candidates name)
      (Path.join directory.root (name ++ "." ++ extension)))
    (there : directory.files.find (Path.join directory.root (name ++ "." ++ extension)) =
      .ok (.file content))
    (decoded : String.fromUTF8? content = some text) :
    directory.lookup name = .ok (some (Source.ofText text)) ∧
    ((∃ names ∈ (FileTree.directory entries).directories, ¬ directory.Reaches names ∧
        directory.list =
          .error (directory.listingFailure (directory.pathOf names) .nameTooLong)) ∨
      ∃ listed, directory.list = .ok listed ∧
        (name ++ "." ++ extension ∈ listed ↔
          Path.shortExtension extension ∈ directory.extensions) ∧
        ('.' ∉ extension.toList → name ++ "." ++ extension ∈ listed)) := by
  refine ⟨(Answers.text comes there decoded).lookup_eq accepted, ?_⟩
  rw [String.append_assoc] at there ⊢
  obtain ⟨before, last, filled, parts, descends⟩ :=
    exists_place_extended found accepted normal noSlash there
  have known : directory.isKnown ((before ++ [last ++ ("." ++ extension)]).getLastD "") = true ↔
      Path.shortExtension extension ∈ directory.extensions := by
    rw [List.getLastD_concat, isKnown, Path.extension?_extended filled, Option.any_some,
      List.contains_iff_mem]
  generalize shown : directory.list = result
  cases shown ▸ lists_list found sound with
  | closed member far => exact Or.inl ⟨_, member, far, rfl⟩
  | @listed listed _ _ exact =>
      have listedIff : name ++ ("." ++ extension) ∈ listed ↔
          Path.shortExtension extension ∈ directory.extensions := by
        rw [exact, ← known]
        constructor
        · rintro ⟨names, content, ⟨descendsThere, isKnown⟩, same⟩
          have samePlace := parts_of_descend? sound descendsThere
          rw [← same, parts] at samePlace
          rwa [samePlace]
        · exact fun isKnown => ⟨_, content, ⟨descends, isKnown⟩, by
            rw [← parts, Path.intercalate_parts]⟩
      refine Or.inr ⟨listed, rfl, listedIff, fun noDot => listedIff.mpr ?_⟩
      rwa [Path.shortExtension_of_notMem noDot]

/-- An extension whose part behind the last dot is known as well, and a directory with the name. -/
theorem list_extended_both :
    let entries := [("page", .directory []), ("page.html.j2", FileTree.file "x".toUTF8)]
    let directory : TemplateDirectory :=
      ⟨⟨.directory [("t", .directory entries)], "/"⟩, "/t", ["html.j2", "j2"]⟩
    directory.files.find directory.root = .ok (.directory entries) ∧
      (FileTree.directory entries).IsSound ∧ TemplateName.defect? "page" = none ∧
      TemplateName.normalize "page" = "page" ∧ "html.j2" ∈ directory.extensions ∧
      '/' ∉ "html.j2".toList ∧
      ComesTo directory.files (directory.candidates "page") (Path.join "/t" "page.html.j2") ∧
      directory.files.find (Path.join "/t" "page.html.j2") = .ok (.file "x".toUTF8) ∧
      String.fromUTF8? "x".toUTF8 = some "x" ∧
      directory.lookup "page" = .ok (some (Source.ofText "x")) ∧
      ∃ listed, directory.list = .ok listed ∧ "page.html.j2" ∈ listed := by
  intro entries directory
  have parts : Path.parts (directory.files.absolute directory.root) = ["", "t"] := by
    decide +kernel
  have found : directory.files.find directory.root = .ok (.directory entries) := by
    rw [FileSystem.find, FileTree.find_of_isTaken ⟨by decide +kernel, by decide +kernel,
      by decide +kernel⟩, parts]
    rfl
  have sound : (FileTree.directory entries).IsSound := by
    refine .directory (by decide +kernel) (by decide +kernel) ?_
    simp only [entries, List.forall_mem_cons]
    exact ⟨.directory nofun .nil nofun, .file _, nofun⟩
  have accepted : TemplateName.defect? "page" = none := by decide +kernel
  have normal : TemplateName.normalize "page" = "page" := by decide +kernel
  have configured : "html.j2" ∈ directory.extensions := List.mem_cons_self
  have finds : ∀ names {tree}, FileTree.descend? names (.directory entries) = some tree →
      directory.Reaches names → directory.files.find (directory.pathOf names) = .ok tree :=
    fun _ _ descends reaches => (find_pathOf found sound descends).trans (if_pos reaches)
  have comes : ComesTo directory.files (directory.candidates "page")
      (Path.join "/t" "page.html.j2") := by
    refine ⟨[Path.join "/t" "page"], [Path.join "/t" "page.j2"], by decide +kernel, ?_⟩
    rw [List.forall_mem_singleton]
    exact .directory (finds ["page"] rfl (by decide +kernel))
  have there : directory.files.find (Path.join "/t" "page.html.j2") = .ok (.file "x".toUTF8) :=
    finds ["page.html.j2"] rfl (by decide +kernel)
  have decoded : String.fromUTF8? "x".toUTF8 = some "x" := by decide +kernel
  obtain ⟨looked, closed | ⟨listed, isList, listedIff, _⟩⟩ :=
    list_extended directory found sound accepted normal configured (by decide) comes there decoded
  · obtain ⟨names, member, far, _⟩ := closed
    have reaches : ∀ names ∈ (FileTree.directory entries).directories,
        directory.Reaches names := by
      decide +kernel
    exact absurd (reaches names member) far
  · exact ⟨found, sound, accepted, normal, configured, by decide, comes, there, decoded, looked,
      listed, isList, listedIff.mpr (by decide +kernel)⟩

/-- The file that a look-up finds with the only extension is not listed. -/
theorem list_extended_html :
    let entries := [("page.html.j2", FileTree.file "x".toUTF8)]
    let directory : TemplateDirectory :=
      ⟨⟨.directory [("t", .directory entries)], "/"⟩, "/t", ["html.j2"]⟩
    (FileTree.directory entries).IsSound ∧ (FileTree.directory entries).IsText ∧
      TemplateName.defect? "page" = none ∧ TemplateName.normalize "page" = "page" ∧
      directory.files.readText (Path.join "/t" "page.html.j2") = .ok "x" ∧
      directory.lookup "page" = .ok (some (Source.ofText "x")) ∧
      directory.list = .ok [] := by
  intro entries directory
  have sound : (FileTree.directory entries).IsSound := by
    refine .directory (by decide +kernel) (by decide +kernel) ?_
    simp only [entries, List.forall_mem_cons]
    exact ⟨.file _, nofun⟩
  have accepted : TemplateName.defect? "page" = none := by decide +kernel
  have read : firstText directory.files (directory.candidates "page") = .ok (some "x") := by
    decide +kernel
  have looked : directory.lookup "page" = .ok (some (Source.ofText "x")) := by
    rw [lookup, accepted, read]
    rfl
  exact ⟨sound, by decide +kernel, accepted, by decide +kernel, by decide +kernel, looked,
    by decide +kernel⟩

end TemplateDirectory

end Lineage
