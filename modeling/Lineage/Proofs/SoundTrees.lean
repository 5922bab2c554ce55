import Lineage.Proofs.JoinedPaths

/-!
# Trees that a file system holds

In a file system no two entries of a directory have the same name, and a name is a single step of a
path.  The files and the directories of such a tree are the places to which names lead
(`FileTree.IsSound.mem_files_iff`, `FileTree.IsSound.mem_directories_iff`).  The names of a place,
with slashes between them, are a path with just these steps, and to follow it comes to the same
place (`FileTree.IsSound.follow_of_descend?`).
-/

namespace Lineage

open Lineage.Text

namespace FileTree

/-- A name that an entry of a directory can have. -/
structure IsEntryName (name : String) : Prop extends IsStep name where
  noSlash : '/' ∉ name.toList
  noNul : '\x00' ∉ name.toList

instance (name : String) : Decidable (IsEntryName name) :=
  decidable_of_iff
    ((name ≠ "" ∧ name ≠ "." ∧ name ≠ Path.parentStep ∧ name.utf8ByteSize ≤ nameLimit) ∧
      '/' ∉ name.toList ∧ '\x00' ∉ name.toList)
    ⟨fun ⟨⟨filled, notHere, notUp, short⟩, noSlash, noNul⟩ =>
      ⟨⟨filled, notHere, notUp, short⟩, noSlash, noNul⟩,
    fun ⟨⟨filled, notHere, notUp, short⟩, noSlash, noNul⟩ =>
      ⟨⟨filled, notHere, notUp, short⟩, noSlash, noNul⟩⟩

/-- The names in each directory of the tree differ, and entries can have them. -/
inductive IsSound : FileTree → Prop where
  | file (content : ByteArray) : IsSound (.file content)
  | directory {entries : List (String × FileTree)}
    (named : ∀ entry ∈ entries, IsEntryName entry.1)
    (distinct : entries.Pairwise (·.1 ≠ ·.1))
    (below : ∀ entry ∈ entries, IsSound entry.2) : IsSound (.directory entries)

/-- Every file of the tree is a text. -/
def IsText (tree : FileTree) : Prop :=
  ∀ entry ∈ tree.files, (String.fromUTF8? entry.2).isSome = true

instance (tree : FileTree) : Decidable tree.IsText :=
  inferInstanceAs (Decidable (∀ entry ∈ tree.files, _))

variable {entries : List (String × FileTree)} {current tree next : FileTree}
  {above : List FileTree} {names : List String} {name : String} {content : ByteArray}

/-! ## The places in a tree -/

theorem filesOf_eq_flatMap (entries : List (String × FileTree)) :
    filesOf entries = entries.flatMap fun entry =>
      entry.2.files.map fun (names, content) => (entry.1 :: names, content) := by
  induction entries with
  | nil => rfl
  | cons entry entries ih => rw [filesOf, ih, List.flatMap_cons]

theorem directoriesOf_eq_flatMap (entries : List (String × FileTree)) :
    directoriesOf entries = entries.flatMap fun entry =>
      entry.2.directories.map (entry.1 :: ·) := by
  induction entries with
  | nil => rfl
  | cons entry entries ih => rw [directoriesOf, ih, List.flatMap_cons]

/-- The entries of a directory with different names are looked up by their names. -/
theorem lookup_eq_some_iff_mem (distinct : entries.Pairwise (·.1 ≠ ·.1)) :
    entries.lookup name = some next ↔ (name, next) ∈ entries := by
  induction distinct with
  | nil => simp
  | @cons entry entries differs _ ih =>
      obtain ⟨other, tree⟩ := entry
      rw [List.lookup_cons, List.mem_cons, Prod.mk.injEq]
      by_cases same : name = other
      · subst same
        have absent : (name, next) ∉ entries := fun member => differs _ member rfl
        rw [beq_self_eq_true]
        simp only [absent, or_false, true_and]
        exact ⟨fun found => (Option.some.inj found).symm, fun found => congrArg some found.symm⟩
      · rw [beq_eq_false_iff_ne.mpr same]
        simp only [same, false_and, false_or]
        exact ih

/-- A place below a directory is one below an entry of it. -/
theorem descend?_cons_iff (distinct : entries.Pairwise (·.1 ≠ ·.1)) :
    descend? (name :: names) (.directory entries) = some tree ↔
      ∃ next, (name, next) ∈ entries ∧ descend? names next = some tree := by
  rw [descend?, Option.bind_eq_some_iff, child?]
  simp only [lookup_eq_some_iff_mem distinct]

namespace IsSound

/-- A file of the tree is what its names lead to. -/
theorem mem_files_iff (sound : tree.IsSound) :
    (names, content) ∈ tree.files ↔ descend? names tree = some (.file content) := by
  induction sound generalizing names with
  | file other =>
      cases names with
      | nil => simp [files, descend?, eq_comm]
      | cons name names => simp [files, descend?, child?]
  | directory named distinct _ ih =>
      rw [files, filesOf_eq_flatMap]
      simp only [List.mem_flatMap, List.mem_map]
      cases names with
      | nil => simp [descend?]
      | cons name names =>
          rw [descend?_cons_iff distinct]
          constructor
          · rintro ⟨⟨other, next⟩, member, ⟨rest, inner⟩, inside, same⟩
            cases same
            exact ⟨next, member, (ih _ member).mp inside⟩
          · rintro ⟨next, member, descends⟩
            exact ⟨(name, next), member, (names, content), (ih _ member).mpr descends, rfl⟩

/-- A directory of the tree is what its names lead to. -/
theorem mem_directories_iff (sound : tree.IsSound) :
    names ∈ tree.directories ↔ ∃ entries, descend? names tree = some (.directory entries) := by
  induction sound generalizing names with
  | file other =>
      cases names with
      | nil => simp [directories, descend?]
      | cons name names => simp [directories, descend?, child?]
  | directory named distinct _ ih =>
      rw [directories, directoriesOf_eq_flatMap]
      cases names with
      | nil => simp [descend?]
      | cons name names =>
          simp only [descend?_cons_iff distinct, List.mem_cons,
            reduceCtorEq, false_or, List.mem_flatMap, List.mem_map]
          constructor
          · rintro ⟨⟨other, next⟩, member, rest, inside, same⟩
            cases same
            obtain ⟨inner, descends⟩ := (ih _ member).mp inside
            exact ⟨inner, next, member, descends⟩
          · rintro ⟨inner, next, member, descends⟩
            exact ⟨(name, next), member, names, (ih _ member).mpr ⟨inner, descends⟩, rfl⟩

/-- No two files of the tree are at the same place. -/
theorem files_distinct (sound : tree.IsSound) : tree.files.Pairwise (·.1 ≠ ·.1) := by
  induction sound with
  | file content => exact List.pairwise_singleton _ _
  | directory named distinct _ ih =>
      rw [files, filesOf_eq_flatMap, List.pairwise_flatMap]
      constructor
      · intro entry member
        rw [List.pairwise_map]
        exact (ih entry member).imp fun differ same => differ (List.cons.inj same).2
      · refine distinct.imp fun {first second} differ => ?_
        simp only [List.forall_mem_map]
        exact fun _ _ _ _ same => differ (List.cons.inj same).1

/-! ## The way to a place -/

/-- The names that lead to a place are names of entries. -/
theorem isEntryName_of_descend? (sound : current.IsSound)
    (descends : descend? names current = some tree) : ∀ name ∈ names, IsEntryName name := by
  induction sound generalizing names with
  | file content =>
      cases names with
      | nil => exact nofun
      | cons name names => cases descends
  | directory named distinct _ ih =>
      cases names with
      | nil => exact nofun
      | cons name names =>
          obtain ⟨next, member, inside⟩ := (descend?_cons_iff distinct).mp descends
          exact List.forall_mem_cons.mpr ⟨named _ member, ih _ member inside⟩

end IsSound

/-- The name of an entry is a step to it. -/
theorem follow_entry (isStep : IsStep name) (found : current.child? name = some next)
    (steps : List String) :
    follow above current (name :: steps) = follow (current :: above) next steps := by
  have isDirectory : current.isDirectory = true := by
    cases current with
    | file content => cases found
    | directory entries => rfl
  have moves : (name == "" || name == ".") = false := by simp [isStep.filled, isStep.notHere]
  have notUp : (name == Path.parentStep) = false := beq_eq_false_iff_ne.mpr isStep.notUp
  have short : ¬ name.utf8ByteSize > nameLimit := Nat.not_lt.mpr isStep.short
  rw [follow.eq_def]
  simp only [isDirectory, moves, notUp, short, found, Bool.not_true, Bool.false_eq_true, if_false]

/-- The names of a place are the steps of a path to it. -/
theorem follow_of_descend? (steps : ∀ name ∈ names, IsStep name)
    (descends : descend? names current = some tree) :
    follow above current names = .ok tree := by
  induction names generalizing above current with
  | nil =>
      cases descends
      rfl
  | cons name names ih =>
      obtain ⟨here, further⟩ := List.forall_mem_cons.mp steps
      obtain ⟨next, found, inside⟩ := Option.bind_eq_some_iff.mp descends
      rw [follow_entry here found]
      exact ih further inside

end FileTree

/-! ## The name of a template and the names of its file -/

namespace Path

variable {names : List String}

theorem toList_intercalate (names : List String) :
    (String.intercalate "/" names).toList = joinWith '/' (names.map String.toList) := by
  rw [String.toList_intercalate]
  generalize names.map String.toList = parts
  induction parts with
  | nil => rfl
  | cons part parts ih =>
      cases parts with
      | nil => simp [joinWith]
      | cons next more =>
          have slash : "/".toList = ['/'] := rfl
          rw [List.intercalate_cons_cons, ih, slash, List.append_assoc, List.singleton_append]
          rfl

/-- The steps of joined names are these names. -/
theorem parts_intercalate (filled : names ≠ []) (noSlash : ∀ name ∈ names, '/' ∉ name.toList) :
    parts (String.intercalate "/" names) = names := by
  have whole : ∀ part ∈ names.map String.toList, '/' ∉ part := by
    simpa only [List.forall_mem_map] using noSlash
  rw [parts, toList_intercalate, splitAt_joinWith (by simpa using filled) whole, List.map_map]
  exact List.map_id'' (fun name => String.ofList_toList) names

theorem isOnward_intercalate (filled : names ≠ [])
    (named : ∀ name ∈ names, FileTree.IsEntryName name) :
    IsOnward (String.intercalate "/" names) := by
  cases names with
  | nil => contradiction
  | cons name names =>
      have here := named name List.mem_cons_self
      have starts : ∃ more, (String.intercalate "/" (name :: names)).toList =
          name.toList ++ more := by
        rw [toList_intercalate]
        cases names with
        | nil => exact ⟨[], (List.append_nil _).symm⟩
        | cons next names => exact ⟨_, rfl⟩
      obtain ⟨more, starts⟩ := starts
      obtain ⟨c, rest, split⟩ := List.exists_cons_of_ne_nil
        (mt String.toList_eq_nil_iff.mp here.filled)
      refine ⟨?_, ?_, ?_⟩
      · intro empty
        rw [empty, split] at starts
        cases starts
      · have notSlash : c ≠ '/' := by
          rintro rfl
          exact here.noSlash (split ▸ List.mem_cons_self)
        rw [isAbsolute, starts, split]
        simpa using notSlash
      · intro nul
        rw [toList_intercalate] at nul
        rcases mem_joinWith nul with slash | ⟨part, member, inside⟩
        · cases slash
        · obtain ⟨other, otherMember, rfl⟩ := List.mem_map.mp member
          exact (named other otherMember).noNul inside

/-- A path is its steps with slashes between them. -/
theorem intercalate_parts (path : String) : String.intercalate "/" (parts path) = path := by
  rw [← String.toList_inj, toList_intercalate, parts, List.map_map]
  have same : String.toList ∘ String.ofList = id := by
    funext part
    exact String.toList_ofList
  rw [same, List.map_id, joinWith_splitAt]

end Path

end Lineage
