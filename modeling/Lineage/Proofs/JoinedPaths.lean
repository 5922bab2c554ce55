import Lineage.Proofs.PathObstacles

/-!
# Joined paths

A relative path that is joined to another one is followed from the place to which that one leads
(`FileTree.exists_above`).  Below the root of a directory of templates nothing but the length of the
whole path comes between (`TemplateDirectory.exists_find_join`).
-/

namespace Lineage

open Lineage.Text

namespace Path

variable {path first second : String}

/-- A path that leads on from a directory. -/
structure IsOnward (path : String) : Prop where
  filled : path ≠ ""
  relative : isAbsolute path = false
  noNul : '\x00' ∉ path.toList

theorem join_of_ends (filled : first ≠ "") (ends : first.toList.getLast? = some '/')
    (relative : isAbsolute path = false) : join first path = first ++ path := by
  simp [join, relative, filled, ends]

theorem join_of_not_ends (filled : first ≠ "") (ends : first.toList.getLast? ≠ some '/')
    (relative : isAbsolute path = false) : join first path = first ++ "/" ++ path := by
  simp [join, relative, filled, ends]

/-- What is put in front of a path stays the same when the path gets longer. -/
theorem join_append (filled : path ≠ "") (directory more : String) :
    join directory (path ++ more) = join directory path ++ more := by
  rw [join, join, isAbsolute_append filled]
  split
  · rfl
  · split <;> simp only [String.append_assoc]

theorem join_ends_iff (filled : path ≠ "") (directory : String) :
    (join directory path).toList.getLast? = some '/' ↔ path.toList.getLast? = some '/' := by
  have notNil : path.toList ≠ [] := mt String.toList_eq_nil_iff.mp filled
  rw [join]
  split
  · rfl
  · split <;>
      rw [String.toList_append, List.getLast?_append_of_ne_nil _ notNil]

/-- A path is followed from a directory, and that from another one. -/
theorem join_join (filled : second ≠ "") (relative : isAbsolute path = false) (first : String) :
    join first (join second path) = join (join first second) path := by
  have joined := join_ne_empty filled first
  have sameEnd := join_ends_iff filled first
  by_cases ends : second.toList.getLast? = some '/'
  · rw [join_of_ends filled ends relative, join_of_ends joined (sameEnd.mpr ends) relative,
      join_append filled]
  · rw [join_of_not_ends filled ends relative,
      join_of_not_ends joined (mt sameEnd.mp ends) relative, String.append_assoc,
      join_append filled, String.append_assoc]

theorem isAbsolute_join (filled : first ≠ "")
    (relative : isAbsolute path = false) : isAbsolute (join first path) = isAbsolute first := by
  by_cases ends : first.toList.getLast? = some '/'
  · rw [join_of_ends filled ends relative, isAbsolute_append filled]
  · rw [join_of_not_ends filled ends relative, String.append_assoc, isAbsolute_append filled]

theorem utf8ByteSize_le_join (first : String)
    (relative : isAbsolute path = false) :
    first.utf8ByteSize + path.utf8ByteSize ≤ (join first path).utf8ByteSize := by
  by_cases empty : first = ""
  · rw [empty, join]
    simp
  · by_cases ends : first.toList.getLast? = some '/'
    · refine Nat.le_of_eq ?_
      rw [join_of_ends empty ends relative, String.utf8ByteSize_append]
    · rw [join_of_not_ends empty ends relative, String.utf8ByteSize_append,
        String.utf8ByteSize_append]
      omega

theorem notMem_join {c : Char} (other : c ≠ '/') (inFirst : c ∉ first.toList)
    (inSecond : c ∉ second.toList) : c ∉ (join first second).toList := by
  rw [join]
  split
  · exact inSecond
  · split <;> simp [other, inFirst, inSecond]

theorem utf8ByteSize_slashes (count : Nat) :
    (String.ofList (List.replicate count '/')).utf8ByteSize = count := by
  induction count with
  | zero => rfl
  | succ count ih =>
      rw [List.replicate_succ, ← List.singleton_append, String.ofList_append,
        String.utf8ByteSize_append, ih, Nat.add_comm]
      rfl

end Path

namespace FileTree

variable {root base current middle : FileTree} {above : List FileTree} {steps : List String}
  {path whole : String}

/-- Steps that lead nowhere stay at the directory. -/
theorem follow_of_stays (isDirectory : current.isDirectory = true)
    (stays : ∀ step ∈ steps, step = "" ∨ step = ".") :
    follow above current steps = .ok current := by
  induction steps with
  | nil => rfl
  | cons step steps ih =>
      obtain ⟨here, further⟩ := List.forall_mem_cons.mp stays
      have nowhere : (step == "" || step == ".") = true := by simpa using here
      rw [follow.eq_def]
      simp only [isDirectory, nowhere, Bool.not_true, Bool.false_eq_true, if_false, if_true]
      exact ih further

/-- A path goes on from where its first steps lead. -/
theorem exists_follow_append (led : follow above current steps = .ok middle) :
    ∃ higher, ∀ further,
      follow above current (steps ++ further) = follow higher middle further := by
  rw [← List.append_nil steps] at led
  rcases follow_append above current steps with ⟨error, failed⟩ | ⟨higher, tree, _, goesOn⟩
  · rw [failed] at led
    cases led
  · rw [goesOn] at led
    cases led
    exact ⟨higher, goesOn⟩

/-- A path that is joined to another one is followed from where that one leads. -/
theorem exists_above (filled : whole ≠ "")
    (led : follow [] root (Path.parts whole) = .ok base) :
    ∃ above, ∀ path, Path.isAbsolute path = false →
      follow [] root (Path.parts (Path.join whole path)) =
        follow above base (Path.parts path) := by
  by_cases ends : whole.toList.getLast? = some '/'
  · obtain ⟨front, parts⟩ := Path.IsLead.parts_append (Or.inr ends)
    have wholeParts : Path.parts whole = front ++ [""] := by
      rw [← String.append_empty (s := whole), parts]
      rfl
    rw [wholeParts] at led
    rcases follow_append [] root front with ⟨error, failed⟩ | ⟨above, middle, _, goesOn⟩
    · rw [failed] at led
      cases led
    · -- the last step is empty and stays at the directory
      rw [goesOn] at led
      have isDirectory := follow_cons_isDirectory led
      rw [follow_of_stays isDirectory (by simp)] at led
      cases led
      refine ⟨above, fun path relative => ?_⟩
      rw [Path.join_of_ends filled ends relative, parts, goesOn]
  · obtain ⟨above, goesOn⟩ := exists_follow_append led
    refine ⟨above, fun path relative => ?_⟩
    have parts : Path.parts (whole ++ "/" ++ path) = Path.parts whole ++ Path.parts path := by
      have slash : "/".toList = ['/'] := rfl
      rw [Path.parts, String.toList_append, String.toList_append, slash, List.append_assoc,
        List.singleton_append, splitAt_append_separator, List.map_append, Path.parts, Path.parts]
    rw [Path.join_of_not_ends filled ends relative, parts, goesOn]

/-- Slashes at its end do not change what a path to a directory leads to. -/
theorem find_append_slashes {count : Nat} {entries : List (String × FileTree)}
    (found : root.find path = .ok (.directory entries))
    (short : path.utf8ByteSize + count < pathLimit) :
    root.find (path ++ String.ofList (List.replicate count '/')) = .ok (.directory entries) := by
  obtain ⟨noNul, filled, _, led⟩ := find_eq_ok_iff.mp found
  have parts : Path.parts (path ++ String.ofList (List.replicate count '/')) =
      Path.parts path ++ List.replicate count "" := by
    rw [Path.parts, String.toList_append, String.toList_ofList]
    cases count with
    | zero => simp only [List.replicate_zero, List.append_nil, Path.parts]
    | succ count =>
        rw [List.replicate_succ, splitAt_append_separator, splitAt_replicate, List.map_append,
          List.map_replicate, Path.parts]
  refine find_eq_ok_iff.mpr ⟨?_, by simp [filled], ?_, ?_⟩
  · rw [String.toList_append, String.toList_ofList, List.mem_append, not_or]
    exact ⟨noNul, by simp⟩
  · rwa [String.utf8ByteSize_append, Path.utf8ByteSize_slashes]
  · obtain ⟨above, goesOn⟩ := exists_follow_append led
    rw [parts, goesOn]
    exact follow_of_stays rfl (by simp)

end FileTree

namespace FileSystem

/-- An absolute path is followed as it is. -/
theorem absolute_of_isAbsolute {files : FileSystem} {path : String}
    (absolute : Path.isAbsolute path = true) : files.absolute path = path := by
  rw [FileSystem.absolute, Path.join, absolute]
  simp

end FileSystem

/-- A path below the root is followed from what is there, unless it is too long. -/
theorem TemplateDirectory.exists_find_join {directory : TemplateDirectory} {base : FileTree}
    (found : directory.files.find directory.root = .ok base) :
    ∃ above, ∀ path, Path.IsOnward path →
      directory.files.find (Path.join directory.root path) =
        if (directory.files.absolute (Path.join directory.root path)).utf8ByteSize <
            FileTree.pathLimit then
          FileTree.follow above base (Path.parts path)
        else .error .nameTooLong := by
  obtain ⟨noNul, filled, _, led⟩ := FileTree.find_eq_ok_iff.mp found
  have filledRoot : directory.root ≠ "" := by
    intro empty
    rw [empty] at filled
    exact filled rfl
  have absolute : directory.files.absolute directory.root =
      Path.join directory.files.workingDirectory directory.root := by
    rw [FileSystem.absolute, if_neg (by simpa using filledRoot)]
  obtain ⟨above, goesOn⟩ := FileTree.exists_above filled led
  refine ⟨above, fun path onward => ?_⟩
  have filledWhole := Path.join_ne_empty onward.filled directory.root
  have joined : directory.files.absolute (Path.join directory.root path) =
      Path.join (directory.files.absolute directory.root) path := by
    rw [absolute, FileSystem.absolute, if_neg (by simpa using filledWhole),
      Path.join_join filledRoot onward.relative]
  have noNulWhole := Path.notMem_join (by decide) noNul onward.noNul
  rw [FileSystem.find, joined]
  split
  · rename_i short
    have taken : Path.IsTaken _ := ⟨Path.join_ne_empty onward.filled _, noNulWhole, short⟩
    rw [FileTree.find_of_isTaken taken, goesOn path onward.relative]
  · rename_i long
    rw [FileTree.find_eq_error_iff (Path.join_ne_empty onward.filled _)]
    exact Or.inr (.longPath noNulWhole (Nat.not_lt.mp long))

end Lineage
