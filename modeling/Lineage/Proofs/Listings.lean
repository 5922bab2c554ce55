import Lineage.Proofs.SoundTrees

/-!
# Listing the templates of a directory

The list of a directory is made from the files that stand in it, and a look-up follows paths.  Both
come together in the names of a place: with slashes between them they are the name in the list, and
as a path they lead back to the file (`TemplateDirectory.find_pathOf`).  What can go wrong is that
the whole path gets too long for the system, for a file that is read or a directory that is opened.
-/

namespace Lineage

open Lineage.Text

/-! ## Places below the root -/

/-- A file name with an extension has a dot. -/
theorem Path.dot_mem_of_extension? {name extension : String}
    (found : Path.extension? name = some extension) : '.' ∈ name.toList := by
  by_contra whole
  rw [Path.extension?, splitAt_of_notMem whole] at found
  cases found

namespace TemplateDirectory

variable {directory : TemplateDirectory} {base tree : FileTree} {names : List String}
  {content : ByteArray}

/-- The path to a place below the root is one that the system follows. -/
def Reaches (directory : TemplateDirectory) (names : List String) : Prop :=
  (directory.files.absolute (directory.pathOf names)).utf8ByteSize < FileTree.pathLimit

instance (directory : TemplateDirectory) (names : List String) :
    Decidable (directory.Reaches names) :=
  inferInstanceAs (Decidable (_ < _))

/-- The path to a place leads there, unless it is too long. -/
theorem find_pathOf (found : directory.files.find directory.root = .ok base)
    (sound : base.IsSound) (descends : FileTree.descend? names base = some tree) :
    directory.files.find (directory.pathOf names) =
      if directory.Reaches names then .ok tree else .error .nameTooLong := by
  cases names with
  | nil =>
      cases descends
      have reaches : directory.Reaches [] := (FileTree.find_eq_ok_iff.mp found).2.2.1
      rw [if_pos reaches]
      exact found
  | cons name names =>
      have named := sound.isEntryName_of_descend? descends
      have onward := Path.isOnward_intercalate (List.cons_ne_nil name names) named
      have parts := Path.parts_intercalate (List.cons_ne_nil name names)
        fun name member => (named name member).noSlash
      obtain ⟨above, finds⟩ := exists_find_join found
      have steps : FileTree.follow above base (name :: names) = .ok tree :=
        FileTree.follow_of_descend? (fun name member => (named name member).toIsStep) descends
      rw [pathOf, finds _ onward, parts, steps]
      · rfl
      · exact List.cons_ne_nil name names

theorem ne_nil_of_descend? {entries : List (String × FileTree)}
    (descends : FileTree.descend? names (.directory entries) = some (.file content)) :
    names ≠ [] := by
  rintro rfl
  cases descends

/-- The name of a file is a path with the names that lead to it as its steps. -/
theorem parts_of_descend? {entries : List (String × FileTree)}
    (sound : (FileTree.directory entries).IsSound)
    (descends : FileTree.descend? names (.directory entries) = some (.file content)) :
    Path.parts (String.intercalate "/" names) = names :=
  Path.parts_intercalate (ne_nil_of_descend? descends)
    fun name member => (sound.isEntryName_of_descend? descends name member).noSlash

/-! ## The list -/

/-- A file that is listed, by the names that lead to it from the root. -/
structure IsListed (directory : TemplateDirectory) (base : FileTree) (names : List String)
    (content : ByteArray) : Prop where
  descends : FileTree.descend? names base = some (.file content)
  known : directory.isKnown (names.getLastD "") = true

/-- What the list of a directory with the given tree is. -/
inductive Lists (directory : TemplateDirectory) (base : FileTree) :
    Except Failure (List String) → Prop where
  /-- A directory cannot be opened, as its path is too long. -/
  | closed {names : List String} (member : names ∈ base.directories)
    (far : ¬ directory.Reaches names) : directory.Lists base
      (.error (directory.listingFailure (directory.pathOf names) .nameTooLong))
  | listed {listed : List String} (opens : ∀ names ∈ base.directories, directory.Reaches names)
    (ascending : listed.Pairwise (· < ·))
    (exact : ∀ name, name ∈ listed ↔
      ∃ names content, directory.IsListed base names content ∧
        name = String.intercalate "/" names) :
    directory.Lists base (.ok listed)

/-- Each directory is opened, or one of them has a path that is too long. -/
theorem openFailure?_cases (found : directory.files.find directory.root = .ok base)
    (sound : base.IsSound) :
    (directory.openFailure? base = none ∧ ∀ names ∈ base.directories, directory.Reaches names) ∨
      ∃ names ∈ base.directories, ¬ directory.Reaches names ∧ directory.openFailure? base =
        some (directory.listingFailure (directory.pathOf names) .nameTooLong) := by
  have opened : ∀ names ∈ base.directories, ∃ tree, directory.files.find (directory.pathOf names) =
      if directory.Reaches names then .ok tree else .error .nameTooLong := by
    intro names member
    obtain ⟨entries, descends⟩ := sound.mem_directories_iff.mp member
    exact ⟨_, find_pathOf found sound descends⟩
  cases result : directory.openFailure? base with
  | none =>
      refine Or.inl ⟨rfl, fun names member => ?_⟩
      obtain ⟨tree, finds⟩ := opened names member
      have passed := List.findSome?_eq_none_iff.mp result names member
      by_contra far
      rw [finds, if_neg far] at passed
      cases passed
  | some failure =>
      obtain ⟨names, member, failed⟩ := List.exists_of_findSome?_eq_some result
      obtain ⟨tree, finds⟩ := opened names member
      refine Or.inr ⟨names, member, ?_⟩
      by_cases reaches : directory.Reaches names
      · rw [finds, if_pos reaches] at failed
        cases failed
      · rw [finds, if_neg reaches] at failed
        exact ⟨reaches, failed.symm⟩

/-- Names that differ are put in ascending order. -/
theorem ascending_mergeSort (distinct : names.Nodup) :
    (names.mergeSort fun a b => !(b < a)).Pairwise (· < ·) := by
  have sorted : (names.mergeSort fun a b => !(b < a)).Pairwise
      fun a b => (!decide (b < a)) = true := by
    apply List.pairwise_mergeSort
    · intro a b c first second
      simp only [Bool.not_eq_true', decide_eq_false_iff_not, String.not_lt] at first second ⊢
      exact String.le_trans first second
    · intro a b
      simp only [Bool.or_eq_true, Bool.not_eq_true', decide_eq_false_iff_not, String.not_lt]
      exact String.le_total a b
  have differ := ((names.mergeSort_perm fun a b => !(b < a)).nodup_iff).mpr distinct
  refine (sorted.and differ).imp fun {a b} ⟨notAfter, notSame⟩ => ?_
  rw [Bool.not_eq_true', decide_eq_false_iff_not, String.not_lt] at notAfter
  exact String.not_le.mp fun before => notSame (String.le_antisymm notAfter before)

theorem listedName?_eq_some_iff (filled : names ≠ []) {name : String} :
    directory.listedName? names = some name ↔
      directory.isKnown (names.getLastD "") = true ∧ name = String.intercalate "/" names := by
  obtain ⟨before, last, rfl⟩ := (List.eq_nil_or_concat' names).resolve_left filled
  have isLast : ((before ++ [last]).getLast? <|> Path.fileName? directory.root).getD "" = last := by
    rw [List.getLast?_concat]
    rfl
  rw [listedName?, isLast, List.getLastD_concat]
  by_cases known : directory.isKnown last = true
  · simp only [known, if_true, Option.some.injEq, true_and]
    exact eq_comm
  · simp [known]

/-- A directory is listed by the names of its files with a known extension. -/
theorem lists_list {entries : List (String × FileTree)}
    (found : directory.files.find directory.root = .ok (.directory entries))
    (sound : (FileTree.directory entries).IsSound) :
    directory.Lists (.directory entries) directory.list := by
  rw [list, found]
  rcases openFailure?_cases found sound with ⟨none, opens⟩ | ⟨names, member, far, failed⟩
  · simp only [none]
    have isListed : ∀ {entry name}, entry ∈ (FileTree.directory entries).files →
        directory.listedName? entry.1 = some name →
        directory.IsListed (.directory entries) entry.1 entry.2 ∧
          name = String.intercalate "/" entry.1 := by
      intro entry name member listed
      have descends := sound.mem_files_iff.mp member
      obtain ⟨known, named⟩ := (listedName?_eq_some_iff (ne_nil_of_descend? descends)).mp listed
      exact ⟨⟨descends, known⟩, named⟩
    refine .listed opens (ascending_mergeSort ?_) ?_
    · rw [List.Nodup, List.pairwise_filterMap]
      refine sound.files_distinct.imp_of_mem fun {first second} inFirst inSecond differ => ?_
      rintro name listed other listedOther rfl
      obtain ⟨⟨descends, _⟩, named⟩ := isListed inFirst listed
      obtain ⟨⟨descendsOther, _⟩, namedOther⟩ := isListed inSecond listedOther
      have parts := parts_of_descend? sound descends
      have partsOther := parts_of_descend? sound descendsOther
      rw [← named] at parts
      rw [← namedOther] at partsOther
      exact differ (parts.symm.trans partsOther)
    · intro name
      rw [List.mem_mergeSort, List.mem_filterMap]
      constructor
      · rintro ⟨entry, member, listed⟩
        exact ⟨entry.1, entry.2, isListed member listed⟩
      · rintro ⟨names, content, ⟨descends, known⟩, named⟩
        exact ⟨(names, content), sound.mem_files_iff.mpr descends,
          (listedName?_eq_some_iff (ne_nil_of_descend? descends)).mpr ⟨known, named⟩⟩
  · simp only [failed]
    exact .closed member far

end TemplateDirectory

/-! ## Looking up what is listed -/

namespace TemplateDirectory

variable {directory : TemplateDirectory} {entries : List (String × FileTree)}
  {names : List String} {content : ByteArray}

/-- The name of a listed file is accepted. -/
theorem IsListed.defect?_eq_none (sound : (FileTree.directory entries).IsSound)
    (listed : directory.IsListed (.directory entries) names content) :
    TemplateName.defect? (String.intercalate "/" names) = none := by
  have filled := ne_nil_of_descend? listed.descends
  have named := sound.isEntryName_of_descend? listed.descends
  rw [defect?_eq_none_iff]
  refine ⟨?_, (Path.isOnward_intercalate filled named).relative, ?_⟩
  · obtain ⟨before, last, rfl⟩ := (List.eq_nil_or_concat' names).resolve_left filled
    have known := listed.known
    rw [List.getLastD_concat, isKnown, Option.any_eq_true] at known
    obtain ⟨extension, found, _⟩ := known
    have dot : '.' ∈ (String.intercalate "/" (before ++ [last])).toList := by
      rw [Path.toList_intercalate]
      exact mem_joinWith_of_mem (List.mem_map_of_mem (List.mem_append_right _ List.mem_cons_self))
        (Path.dot_mem_of_extension? found)
    rw [isBlankText, ← Bool.not_eq_true, List.all_eq_true]
    exact fun blank => absurd (blank '.' dot) (by decide)
  · rw [Path.parentStep_mem_steps_iff, parts_of_descend? sound listed.descends]
    exact fun member => (named _ member).notUp rfl

/-- A listed file is read first of all when its name is looked up. -/
theorem IsListed.lookup_eq {text : String}
    (found : directory.files.find directory.root = .ok (.directory entries))
    (sound : (FileTree.directory entries).IsSound)
    (listed : directory.IsListed (.directory entries) names content)
    (decoded : String.fromUTF8? content = some text) :
    directory.lookup (String.intercalate "/" names) =
      if directory.Reaches names then .ok (some (Source.ofText text))
      else .error (.sourceUnavailable (String.intercalate "/" names)
        (directory.pathOf names ++ ": " ++ FileError.nameTooLong.message)) := by
  have accepted := listed.defect?_eq_none sound
  have path : directory.pathOf names =
      Path.join directory.root (String.intercalate "/" names) := by
    rw [pathOf]
    exact ne_nil_of_descend? listed.descends
  have finds := find_pathOf found sound listed.descends
  have comes : ComesTo directory.files (directory.candidates (String.intercalate "/" names))
      (directory.pathOf names) := by
    rw [path]
    exact ⟨[], _, rfl, nofun⟩
  split
  · rename_i reaches
    rw [if_pos reaches] at finds
    exact (Answers.text comes finds decoded).lookup_eq accepted
  · rename_i far
    rw [if_neg far] at finds
    have filled : directory.pathOf names ≠ "" := by
      rw [path]
      exact Path.join_ne_empty (name_ne_empty accepted) _
    rcases (FileTree.find_eq_error_iff (FileSystem.absolute_ne_empty filled)).mp finds with
      ⟨_, same⟩ | blocked
    · cases same
    · exact (Answers.blocked comes blocked).lookup_eq accepted

/-- So many slashes are at the end of the root that the root is found, and the path to a file in it
is too long. -/
theorem slashes_faraway {count : Nat} (near : "/t".utf8ByteSize + count < FileTree.pathLimit)
    (far : FileTree.pathLimit ≤ "/t".utf8ByteSize + count + "page.j2".utf8ByteSize) :
    let entries := [("page.j2", FileTree.file "x".toUTF8)]
    let directory : TemplateDirectory :=
      ⟨⟨.directory [("t", .directory entries)], "/"⟩,
        "/t" ++ String.ofList (List.replicate count '/'), ["j2"]⟩
    directory.files.find directory.root = .ok (.directory entries) ∧
      (FileTree.directory entries).IsSound ∧ (FileTree.directory entries).IsText ∧
      directory.list = .ok ["page.j2"] ∧
      ∃ reason, directory.lookup "page.j2" = .error (.sourceUnavailable "page.j2" reason) := by
  intro entries directory
  have sound : (FileTree.directory entries).IsSound := by
    refine .directory (by decide +kernel) (by decide +kernel) ?_
    simp only [entries, List.forall_mem_cons]
    exact ⟨.file _, nofun⟩
  have isRoot : Path.isAbsolute directory.root = true := by
    rw [Path.isAbsolute_append (by decide)]
    rfl
  have found : directory.files.find directory.root = .ok (.directory entries) := by
    have place : directory.files.root.find "/t" = .ok (.directory entries) := by
      have parts : Path.parts "/t" = ["", "t"] := by decide +kernel
      rw [FileTree.find_of_isTaken ⟨by decide, by decide +kernel, by decide +kernel⟩, parts]
      rfl
    rw [FileSystem.find, FileSystem.absolute_of_isAbsolute isRoot]
    exact FileTree.find_append_slashes place near
  have known : (Path.extension? "page.j2").any ["j2"].contains = true := by decide +kernel
  have listed : directory.IsListed (.directory entries) ["page.j2"] "x".toUTF8 := ⟨rfl, known⟩
  have unreached : ¬ directory.Reaches ["page.j2"] := by
    have relative : Path.isAbsolute "page.j2" = false := by decide +kernel
    have filled : directory.root ≠ "" := by simp [directory]
    have path : directory.pathOf ["page.j2"] = Path.join directory.root "page.j2" := rfl
    have longer := Path.utf8ByteSize_le_join directory.root relative
    rw [String.utf8ByteSize_append, Path.utf8ByteSize_slashes] at longer
    rw [Reaches, path, FileSystem.absolute_of_isAbsolute
      ((Path.isAbsolute_join filled relative).trans isRoot)]
    omega
  refine ⟨found, sound, by decide +kernel, ?_, ?_⟩
  · have opened : directory.openFailure? (.directory entries) = none := by
      have here : directory.files.find (directory.pathOf []) = .ok (.directory entries) := found
      have single : (FileTree.directory entries).directories = [[]] := rfl
      rw [openFailure?, single, List.findSome?_singleton, here]
    have named : directory.listedName? ["page.j2"] = some "page.j2" :=
      (listedName?_eq_some_iff (List.cons_ne_nil _ _)).mpr ⟨listed.known, rfl⟩
    have single : (FileTree.directory entries).files = [(["page.j2"], "x".toUTF8)] := rfl
    rw [list, found]
    simp only [opened, single, List.filterMap_cons, named, List.filterMap_nil,
      List.mergeSort_singleton]
  · have looked := listed.lookup_eq found sound (by decide +kernel : _ = some "x")
    rw [if_neg unreached] at looked
    exact ⟨_, looked⟩

end TemplateDirectory

end Lineage
