import Lineage.Proofs.Containment
import Lineage.Proofs.Outcomes

/-!
# What stands in the way of a path

A path that leads nowhere comes to a step that cannot be taken: the step is missing from the
directory to which the steps before it lead, it is too long, or what is there is no directory
(`FileTree.follow_eq_error_iff`).

The look-up of a template passes over paths that lead to a directory or on which a step is missing.
The main result says that the first other path decides the answer: the text is the one of the file
to which it leads, and if something blocks it, a file in the middle of it for example, the look-up
fails and no later path is tried.
-/

namespace Lineage

open Lineage.Text

/-! ## Paths that lead nowhere -/

/-- A path that the system follows at all: it has some characters and not too many, and none of them
is NUL. -/
structure Path.IsTaken (path : String) : Prop where
  filled : path ≠ ""
  noNul : '\x00' ∉ path.toList
  short : path.utf8ByteSize < FileTree.pathLimit

theorem Path.isAbsolute_append {path : String} (filled : path ≠ "") (more : String) :
    isAbsolute (path ++ more) = isAbsolute path := by
  rw [isAbsolute, isAbsolute, String.toList_append]
  cases split : path.toList with
  | nil => exact absurd (String.toList_eq_nil_iff.mp split) filled
  | cons c rest => rfl

theorem Path.join_ne_empty {path : String} (filled : path ≠ "") (directory : String) :
    join directory path ≠ "" := by
  rw [join]
  split
  · exact filled
  · split <;> simp [filled]

namespace FileTree

/-- A step that leads to the entry of a directory, if there is one with this name. -/
structure IsStep (step : String) : Prop where
  filled : step ≠ ""
  notHere : step ≠ "."
  notUp : step ≠ Path.parentStep
  short : step.utf8ByteSize ≤ nameLimit

/-- A step of the path is missing from the directory to which the steps before it lead. -/
def Lacks (root : FileTree) (path : String) : Prop :=
  Path.IsTaken path ∧ ∃ front step behind entries, Path.parts path = front ++ step :: behind ∧
    follow [] root front = .ok (.directory entries) ∧ IsStep step ∧ entries.lookup step = none

/-- Something other than a missing step keeps the path from leading anywhere. -/
inductive Blocks (root : FileTree) (path : String) : FileError → Prop where
  | nul (nul : '\x00' ∈ path.toList) : Blocks root path .nulCharacter
  | longPath (noNul : '\x00' ∉ path.toList) (long : pathLimit ≤ path.utf8ByteSize) :
    Blocks root path .nameTooLong
  | longStep {front behind : List String} {step : String} {entries : List (String × FileTree)}
    (taken : Path.IsTaken path) (parts : Path.parts path = front ++ step :: behind)
    (led : follow [] root front = .ok (.directory entries))
    (long : nameLimit < step.utf8ByteSize) : Blocks root path .nameTooLong
  /-- The path runs through a file. -/
  | file {front behind : List String} {step : String} {content : ByteArray}
    (taken : Path.IsTaken path) (parts : Path.parts path = front ++ step :: behind)
    (led : follow [] root front = .ok (.file content)) : Blocks root path .notDirectory

variable {root current tree : FileTree} {above : List FileTree} {steps : List String}
  {path step : String} {error : FileError}

/-! ## One step -/

/-- Why a step cannot be taken from a tree, if it cannot. -/
def obstacle? (current : FileTree) (step : String) : Option FileError :=
  if !current.isDirectory then some .notDirectory
  else if step == "" || step == "." || step == Path.parentStep then none
  else if step.utf8ByteSize > nameLimit then some .nameTooLong
  else if (current.child? step).isNone then some .missing
  else none

/-- The first step of a path meets an obstacle, or it leads to where the path goes on. -/
theorem follow_cons (above : List FileTree) (current : FileTree) (step : String) :
    (∃ error, current.obstacle? step = some error ∧
        ∀ steps, follow above current (step :: steps) = .error error) ∨
      current.obstacle? step = none ∧ ∃ higher next,
        ∀ steps, follow above current (step :: steps) = follow higher next steps := by
  simp only [follow, obstacle?]
  split
  · exact Or.inl ⟨_, rfl, fun _ => rfl⟩
  · cases stays : step == "" || step == "." with
    | true => exact Or.inr ⟨rfl, above, current, fun _ => rfl⟩
    | false =>
        cases up : step == Path.parentStep with
        | true =>
            cases above with
            | nil => exact Or.inr ⟨rfl, [], current, fun _ => rfl⟩
            | cons parent further => exact Or.inr ⟨rfl, further, parent, fun _ => rfl⟩
        | false =>
            simp only [Bool.or_false, Bool.false_eq_true, if_false]
            split
            · exact Or.inl ⟨_, rfl, fun _ => rfl⟩
            · cases current.child? step with
              | none => exact Or.inl ⟨_, rfl, fun _ => rfl⟩
              | some next => exact Or.inr ⟨rfl, current :: above, next, fun _ => rfl⟩

/-- A path that leads nowhere comes to an obstacle. -/
theorem follow_eq_error_iff : follow above current steps = .error error ↔
    ∃ front step behind middle, steps = front ++ step :: behind ∧
      follow above current front = .ok middle ∧ middle.obstacle? step = some error := by
  induction steps generalizing above current with
  | nil => simp [follow]
  | cons step steps ih =>
      rcases follow_cons above current step with
        ⟨found, obstacle, failed⟩ | ⟨free, higher, next, led⟩
      · rw [failed, Except.error.injEq]
        constructor
        · rintro rfl
          exact ⟨[], step, steps, current, rfl, rfl, obstacle⟩
        · rintro ⟨front, other, behind, middle, split, ledFront, obstacleThere⟩
          cases front with
          | nil =>
              cases ledFront
              cases split
              exact Option.some.inj (obstacle.symm.trans obstacleThere)
          | cons first front =>
              cases split
              rw [failed] at ledFront
              cases ledFront
      · rw [led, ih]
        constructor
        · rintro ⟨front, other, behind, middle, rfl, ledFront, obstacleThere⟩
          exact ⟨step :: front, other, behind, middle, rfl, (led front).trans ledFront,
            obstacleThere⟩
        · rintro ⟨front, other, behind, middle, split, ledFront, obstacleThere⟩
          cases front with
          | nil =>
              cases ledFront
              cases split
              rw [free] at obstacleThere
              cases obstacleThere
          | cons first front =>
              cases split
              exact ⟨front, other, behind, middle, rfl, (led front).symm.trans ledFront,
                obstacleThere⟩

/-- A step that does not lead to an entry leads nowhere or up, or it is too long. -/
theorem isStep_iff : IsStep step ↔
    (step == "" || step == "." || step == Path.parentStep) = false ∧
      ¬ nameLimit < step.utf8ByteSize := by
  simp only [Bool.or_eq_false_iff, beq_eq_false_iff_ne, Nat.not_lt]
  constructor
  · exact fun isStep => ⟨⟨⟨isStep.filled, isStep.notHere⟩, isStep.notUp⟩, isStep.short⟩
  · exact fun ⟨⟨⟨filled, notHere⟩, notUp⟩, short⟩ => ⟨filled, notHere, notUp, short⟩

theorem not_long_of_special
    (special : (step == "" || step == "." || step == Path.parentStep) = true) :
    ¬ nameLimit < step.utf8ByteSize := by
  simp only [Bool.or_eq_true, beq_iff_eq] at special
  rcases special with (rfl | rfl) | rfl <;> decide

theorem obstacle?_directory_eq_some_iff {entries : List (String × FileTree)} :
    (directory entries).obstacle? step = some error ↔
      nameLimit < step.utf8ByteSize ∧ error = .nameTooLong ∨
        (IsStep step ∧ entries.lookup step = none) ∧ error = .missing := by
  rw [isStep_iff]
  simp only [obstacle?, isDirectory, child?, Bool.not_true, Bool.false_eq_true, if_false]
  cases special : step == "" || step == "." || step == Path.parentStep with
  | true => simp [not_long_of_special special]
  | false =>
      rw [if_neg Bool.false_ne_true]
      by_cases long : nameLimit < step.utf8ByteSize
      · rw [if_pos long, Option.some.injEq]
        simp only [long, not_true, and_false, false_and, or_false, true_and]
        exact eq_comm
      · rw [if_neg long]
        by_cases absent : entries.lookup step = none
        · simp only [absent, long, Option.isNone_none, if_true, Option.some.injEq, not_false_eq_true,
            false_and, false_or, true_and]
          exact eq_comm
        · simp [absent, long]

/-! ## Whole paths -/

theorem find_of_isTaken (taken : Path.IsTaken path) :
    root.find path = follow [] root (Path.parts path) := by
  have noNul : path.toList.contains '\x00' = false := by simpa using taken.noNul
  have filled : path.isEmpty = false := by simpa using taken.filled
  have short : ¬ path.utf8ByteSize ≥ pathLimit := Nat.not_le.mpr taken.short
  rw [find, noNul, filled, if_neg short]
  rfl

/-- A path leads nowhere if a step is missing or something blocks it. -/
theorem find_eq_error_iff (filled : path ≠ "") : root.find path = .error error ↔
    Lacks root path ∧ error = .missing ∨ Blocks root path error := by
  constructor
  · intro failed
    by_cases nul : '\x00' ∈ path.toList
    · have contains : path.toList.contains '\x00' = true := by simpa using nul
      rw [find, contains] at failed
      cases failed
      exact Or.inr (.nul nul)
    by_cases long : pathLimit ≤ path.utf8ByteSize
    · rw [find, if_neg (by simpa using nul), if_neg (by simpa using filled), if_pos long] at failed
      cases failed
      exact Or.inr (.longPath nul long)
    have taken : Path.IsTaken path := ⟨filled, nul, Nat.not_le.mp long⟩
    rw [find_of_isTaken taken, follow_eq_error_iff] at failed
    obtain ⟨front, step, behind, middle, parts, led, obstacle⟩ := failed
    cases middle with
    | file content =>
        cases obstacle
        exact Or.inr (.file taken parts led)
    | directory entries =>
        rcases obstacle?_directory_eq_some_iff.mp obstacle with
          ⟨tooLong, rfl⟩ | ⟨⟨isStep, absent⟩, rfl⟩
        · exact Or.inr (.longStep taken parts led tooLong)
        · exact Or.inl ⟨⟨taken, front, step, behind, entries, parts, led, isStep, absent⟩, rfl⟩
  · rintro (⟨⟨taken, front, step, behind, entries, parts, led, isStep, absent⟩, rfl⟩ | blocked)
    · rw [find_of_isTaken taken, follow_eq_error_iff]
      exact ⟨front, step, behind, _, parts, led,
        obstacle?_directory_eq_some_iff.mpr (Or.inr ⟨⟨isStep, absent⟩, rfl⟩)⟩
    · cases blocked with
      | nul nul => rw [find, if_pos (by simpa using nul)]
      | longPath noNul long =>
          rw [find, if_neg (by simpa using noNul), if_neg (by simpa using filled), if_pos long]
      | longStep taken parts led long =>
          rw [find_of_isTaken taken, follow_eq_error_iff]
          exact ⟨_, _, _, _, parts, led,
            obstacle?_directory_eq_some_iff.mpr (Or.inl ⟨long, rfl⟩)⟩
      | file taken parts led =>
          rw [find_of_isTaken taken, follow_eq_error_iff]
          exact ⟨_, _, _, _, parts, led, rfl⟩

namespace Blocks

/-- What blocks a path is no missing step. -/
theorem ne_missing (blocked : Blocks root path error) : error ≠ .missing := by
  cases blocked <;> exact nofun

/-- Where a path runs through a file, so does any other one with the same steps before the last. -/
theorem of_append {suffix : String} (noSlash : '/' ∉ suffix.toList) (filled : path ≠ "")
    (blocked : Blocks root (path ++ suffix) .notDirectory) : Blocks root path .notDirectory := by
  cases blocked with
  | @file front behind step content taken parts led =>
      obtain ⟨before, last, whole, longer⟩ := Path.parts_extended noSlash path
      have ahead : before = front ++ (step :: behind).dropLast := by
        have same := congrArg List.dropLast (longer.symm.trans parts)
        rwa [List.dropLast_concat, List.dropLast_append_of_ne_nil (List.cons_ne_nil _ _)] at same
      obtain ⟨next, further, split⟩ :=
        List.exists_cons_of_ne_nil (List.concat_ne_nil last (step :: behind).dropLast)
      have isTaken : Path.IsTaken path := by
        obtain ⟨_, noNul, short⟩ := taken
        rw [String.toList_append, List.mem_append, not_or] at noNul
        rw [String.utf8ByteSize_append] at short
        exact ⟨filled, noNul.1, Nat.lt_of_le_of_lt (Nat.le_add_right _ _) short⟩
      have partsHere : Path.parts path = front ++ next :: further := by
        rw [whole, ahead, List.append_assoc, split]
      exact .file isTaken partsHere led

end Blocks

end FileTree

/-! ## The paths that a look-up tries -/

namespace FileSystem

variable {files : FileSystem} {path text : String} {error : FileError}

/-- A path is passed over if it leads to a directory, or if one of its steps is missing. -/
inductive Passes (files : FileSystem) (path : String) : Prop where
  | directory {entries : List (String × FileTree)}
    (found : files.find path = .ok (.directory entries))
  | missing (lacks : files.root.Lacks (files.absolute path))

theorem absolute_ne_empty (filled : path ≠ "") : files.absolute path ≠ "" := by
  have notEmpty : path.isEmpty = false := by simpa using filled
  rw [absolute, notEmpty, if_neg Bool.false_ne_true]
  exact Path.join_ne_empty filled _

/-- A path leads to a directory or to a file, or a step is missing, or something blocks it. -/
theorem find_cases (filled : path ≠ "") : files.Passes path ∨
    (∃ content, files.find path = .ok (.file content)) ∨
      ∃ error, files.root.Blocks (files.absolute path) error := by
  cases found : files.find path with
  | error error =>
      rcases (FileTree.find_eq_error_iff (absolute_ne_empty filled)).mp found with
        ⟨lacks, _⟩ | blocked
      · exact Or.inl (.missing lacks)
      · exact Or.inr (Or.inr ⟨error, blocked⟩)
  | ok tree =>
      cases tree with
      | directory entries => exact Or.inl (.directory found)
      | file content => exact Or.inr (Or.inl ⟨content, rfl⟩)

end FileSystem

namespace TemplateDirectory

variable {directory : TemplateDirectory} {files : FileSystem} {paths before : List String}
  {path text name : String} {content : ByteArray} {error : FileError}

theorem firstText_of_passes (filled : path ≠ "") (passes : files.Passes path) :
    firstText files (path :: paths) = firstText files paths := by
  cases passes with
  | directory found =>
      have read : files.readText path = .error .isDirectory := by
        rw [FileSystem.readText, FileTree.readText, ← FileSystem.find, found]
      have isDirectory : files.hasDirectory path = true := by
        rw [FileSystem.hasDirectory, FileTree.hasDirectory, ← FileSystem.find, found]
        rfl
      rw [firstText, read]
      exact if_pos isDirectory
  | missing lacks =>
      have found := (FileTree.find_eq_error_iff (FileSystem.absolute_ne_empty filled)).mpr
        (Or.inl ⟨lacks, rfl⟩)
      have read : files.readText path = .error .missing := by
        rw [FileSystem.readText, FileTree.readText, found]
      rw [firstText, read]

theorem firstText_of_file (found : files.find path = .ok (.file content))
    (decoded : String.fromUTF8? content = some text) :
    firstText files (path :: paths) = .ok (some text) := by
  have read : files.readText path = .ok text :=
    FileTree.readText_eq_ok_iff.mpr ⟨content, found, decoded⟩
  rw [firstText, read]

theorem firstText_of_noText (found : files.find path = .ok (.file content))
    (undecoded : String.fromUTF8? content = none) :
    firstText files (path :: paths) = .error (path, .notText) := by
  have read : files.readText path = .error .notText := by
    rw [FileSystem.readText, FileTree.readText, ← FileSystem.find, found]
    simp only [undecoded]
  have notDirectory : files.hasDirectory path = false := by
    rw [FileSystem.hasDirectory, FileTree.hasDirectory, ← FileSystem.find, found]
    rfl
  rw [firstText, read]
  exact if_neg (by rw [notDirectory]; exact Bool.false_ne_true)

theorem firstText_of_blocks (filled : path ≠ "")
    (blocked : files.root.Blocks (files.absolute path) error) :
    firstText files (path :: paths) = .error (path, error) := by
  have found := (FileTree.find_eq_error_iff (FileSystem.absolute_ne_empty filled)).mpr
    (Or.inr blocked)
  have read : files.readText path = .error error := by
    rw [FileSystem.readText, FileTree.readText, found]
  have notDirectory : files.hasDirectory path = false := by
    rw [FileSystem.hasDirectory, FileTree.hasDirectory, found]
  rw [firstText, read]
  split
  · contradiction
  · rename_i same
    exact absurd (Except.error.inj same) blocked.ne_missing
  · rename_i other _ same
    rw [notDirectory, if_neg Bool.false_ne_true, Except.error.inj same]

/-- Paths that are passed over do not change what is found behind them. -/
theorem firstText_append (filled : ∀ path ∈ before, path ≠ "")
    (passed : ∀ path ∈ before, files.Passes path) :
    firstText files (before ++ paths) = firstText files paths := by
  induction before with
  | nil => rfl
  | cons path before ih =>
      obtain ⟨filledHere, filledBehind⟩ := List.forall_mem_cons.mp filled
      obtain ⟨here, behind⟩ := List.forall_mem_cons.mp passed
      rw [List.cons_append, firstText_of_passes filledHere here, ih filledBehind behind]

/-- The paths in front of the path are passed over. -/
def ComesTo (files : FileSystem) (paths : List String) (path : String) : Prop :=
  ∃ before after, paths = before ++ path :: after ∧ ∀ earlier ∈ before, files.Passes earlier

/-- What a look-up of an accepted name answers. -/
inductive Answers (directory : TemplateDirectory) (name : String) :
    Except Failure (Option Source) → Prop where
  | absent (passed : ∀ path ∈ directory.candidates name, directory.files.Passes path) :
    directory.Answers name (.ok none)
  | text {path text : String} {content : ByteArray}
    (comes : ComesTo directory.files (directory.candidates name) path)
    (found : directory.files.find path = .ok (.file content))
    (decoded : String.fromUTF8? content = some text) :
    directory.Answers name (.ok (some (Source.ofText text)))
  | noText {path : String} {content : ByteArray}
    (comes : ComesTo directory.files (directory.candidates name) path)
    (found : directory.files.find path = .ok (.file content))
    (undecoded : String.fromUTF8? content = none) :
    directory.Answers name
      (.error (.sourceUnavailable name (path ++ ": " ++ FileError.notText.message)))
  | blocked {path : String} {error : FileError}
    (comes : ComesTo directory.files (directory.candidates name) path)
    (blocked : directory.files.root.Blocks (directory.files.absolute path) error) :
    directory.Answers name
      (.error (.sourceUnavailable name (path ++ ": " ++ error.message)))

/-- Either all paths are passed over, or the first other one leads to a file or is blocked. -/
theorem exists_comesTo (files : FileSystem) (filled : ∀ path ∈ paths, path ≠ "") :
    (∀ path ∈ paths, files.Passes path) ∨ ∃ path, ComesTo files paths path ∧
      ((∃ content, files.find path = .ok (.file content)) ∨
        ∃ error, files.root.Blocks (files.absolute path) error) := by
  induction paths with
  | nil => exact Or.inl nofun
  | cons path paths ih =>
      obtain ⟨filledHere, filledBehind⟩ := List.forall_mem_cons.mp filled
      rcases files.find_cases filledHere with passes | decided
      · rcases ih filledBehind with all | ⟨other, ⟨before, after, split, passed⟩, decided⟩
        · exact Or.inl (List.forall_mem_cons.mpr ⟨passes, all⟩)
        · refine Or.inr ⟨other, ⟨path :: before, after, ?_, ?_⟩, decided⟩
          · rw [split, List.cons_append]
          · exact List.forall_mem_cons.mpr ⟨passes, passed⟩
      · exact Or.inr ⟨path, ⟨[], paths, rfl, nofun⟩, decided⟩

theorem name_ne_empty (accepted : TemplateName.defect? name = none) : name ≠ "" := by
  rintro rfl
  cases (defect?_eq_none_iff.mp accepted).1

/-- An extension lengthens the path that is followed. -/
theorem absolute_extended (accepted : TemplateName.defect? name = none) (suffix : String) :
    directory.files.absolute (Path.join directory.root (name ++ suffix)) =
      directory.files.absolute (Path.join directory.root name) ++ suffix := by
  have filled := name_ne_empty accepted
  have relative := (defect?_eq_none_iff.mp accepted).2.1
  have filledLonger : name ++ suffix ≠ "" := by simp [filled]
  have relativeLonger : Path.isAbsolute (name ++ suffix) = false :=
    (Path.isAbsolute_append filled suffix).trans relative
  obtain ⟨lead, _, leads⟩ := directory.exists_lead
  rw [leads _ filledLonger relativeLonger, leads name filled relative, String.append_assoc]

theorem candidates_filled (directory : TemplateDirectory)
    (accepted : TemplateName.defect? name = none) :
    ∀ path ∈ directory.candidates name, path ≠ "" := by
  intro path member
  obtain ⟨inner, rfl, tried⟩ := exists_of_mem_candidates member
  apply Path.join_ne_empty
  rcases tried with rfl | ⟨extension, _, rfl⟩ <;> simp [name_ne_empty accepted]

theorem lookup_of_accepted (accepted : TemplateName.defect? name = none) :
    directory.lookup name =
      match firstText directory.files (directory.candidates name) with
      | .ok text => .ok (text.map Source.ofText)
      | .error (path, error) =>
        .error (.sourceUnavailable name (path ++ ": " ++ error.message)) := by
  cases first : firstText directory.files (directory.candidates name) with
  | ok text => simp only [lookup, accepted, first]
  | error failure => simp only [lookup, accepted, first]

/-- A look-up answers nothing else. -/
theorem Answers.lookup_eq {answer : Except Failure (Option Source)}
    (accepted : TemplateName.defect? name = none) (answers : directory.Answers name answer) :
    directory.lookup name = answer := by
  have filled := directory.candidates_filled accepted
  rw [lookup_of_accepted accepted]
  cases answers with
  | absent passed =>
      rw [← List.append_nil (directory.candidates name), firstText_append filled passed]
      rfl
  | text comes found decoded =>
      obtain ⟨before, after, split, passed⟩ := comes
      rw [split] at filled
      rw [split, firstText_append (List.forall_mem_append.mp filled).1 passed,
        firstText_of_file found decoded]
      rfl
  | noText comes found undecoded =>
      obtain ⟨before, after, split, passed⟩ := comes
      rw [split] at filled
      rw [split, firstText_append (List.forall_mem_append.mp filled).1 passed,
        firstText_of_noText found undecoded]
  | @blocked path error comes blocked =>
      obtain ⟨before, after, split, passed⟩ := comes
      rw [split] at filled
      obtain ⟨filledBefore, filledBehind⟩ := List.forall_mem_append.mp filled
      rw [split, firstText_append filledBefore passed,
        firstText_of_blocks (filledBehind path List.mem_cons_self) blocked]

/-- There is an answer to each accepted name. -/
theorem exists_answers (directory : TemplateDirectory)
    (accepted : TemplateName.defect? name = none) : ∃ answer, directory.Answers name answer := by
  rcases exists_comesTo directory.files (directory.candidates_filled accepted) with
    passed | ⟨path, comes, ⟨content, found⟩ | ⟨error, blocked⟩⟩
  · exact ⟨_, .absent passed⟩
  · cases decoded : String.fromUTF8? content with
    | none => exact ⟨_, .noText comes found decoded⟩
    | some text => exact ⟨_, .text comes found decoded⟩
  · exact ⟨_, .blocked comes blocked⟩

/-- The answer to an accepted name is decided by the first of its paths that is not passed over: it
is the text of the file to which this path leads, or the failure that says what blocks the path or
that the file is no text.  There is no template if all paths are passed over.  If the extensions
have no slash, a path runs through a file only if the first one does. -/
theorem lookup_eq_iff_answers (directory : TemplateDirectory) {name : String}
    (accepted : TemplateName.defect? name = none) :
    (∀ answer, directory.lookup name = answer ↔ directory.Answers name answer) ∧
    ((∀ extension ∈ directory.extensions, '/' ∉ extension.toList) →
      ∀ path ∈ directory.candidates name,
        directory.files.root.Blocks (directory.files.absolute path) .notDirectory →
          directory.files.root.Blocks
            (directory.files.absolute (Path.join directory.root name)) .notDirectory) := by
  constructor
  · intro answer
    constructor
    · rintro rfl
      obtain ⟨answer, answers⟩ := directory.exists_answers accepted
      rwa [answers.lookup_eq accepted]
    · exact fun answers => answers.lookup_eq accepted
  · intro noSlash path member blocked
    obtain ⟨inner, rfl, tried⟩ := exists_of_mem_candidates member
    obtain ⟨suffix, rfl, plain⟩ := exists_suffix noSlash tried
    rw [absolute_extended accepted] at blocked
    exact blocked.of_append plain (FileSystem.absolute_ne_empty
      (Path.join_ne_empty (name_ne_empty accepted) _))

/-- Two directories with the name of the template, and a file with the name and an extension. -/
theorem lookup_eq_iff_answers_directories :
    let page := FileTree.file "x".toUTF8
    let root := FileTree.directory [("t", .directory [("python", .directory [("a.j2", page)]),
      ("python.j2", .directory []), ("python.jinja", page)])]
    let directory : TemplateDirectory := ⟨⟨root, "/"⟩, "t", ["j2", "html", "jinja"]⟩
    TemplateName.defect? "python" = none ∧
      directory.lookup "python" = .ok (some (Source.ofText "x")) ∧
      directory.Answers "python" (.ok (some (Source.ofText "x"))) := by
  intro page root directory
  have accepted : TemplateName.defect? "python" = none := by decide +kernel
  have read : firstText directory.files (directory.candidates "python") = .ok (some "x") := by
    decide +kernel
  have found : directory.lookup "python" = .ok (some (Source.ofText "x")) := by
    rw [lookup, accepted, read]
    rfl
  exact ⟨accepted, found, ((lookup_eq_iff_answers directory accepted).1 _).mp found⟩

/-- No file stands at any path that is tried, as all of them run through one, and yet the look-up
fails. -/
theorem lookup_through_file :
    let directory : TemplateDirectory :=
      ⟨⟨.directory [("t", .directory [("base.j2", .file "x".toUTF8)])], "/"⟩, "/t",
        defaultExtensions⟩
    TemplateName.defect? "base.j2/footer" = none ∧
      (∀ path ∈ directory.candidates "base.j2/footer",
        '\x00' ∉ path.toList ∧ path.utf8ByteSize < 50 ∧
          directory.files.readText path = .error .notDirectory) ∧
      directory.lookup "base.j2/footer" = .error (.sourceUnavailable "base.j2/footer"
        "/t/base.j2/footer: Not a directory (os error 20)") := by
  intro directory
  have accepted : TemplateName.defect? "base.j2/footer" = none := by decide +kernel
  have read : firstText directory.files (directory.candidates "base.j2/footer") =
      .error ("/t/base.j2/footer", .notDirectory) := by
    decide +kernel
  refine ⟨accepted, by decide +kernel, ?_⟩
  rw [lookup, accepted, read]
  rfl

end TemplateDirectory

end Lineage
