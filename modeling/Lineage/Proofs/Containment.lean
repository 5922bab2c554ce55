import Lineage.Proofs.Readings
import Lineage.TemplateDirectory

/-!
# Templates stay below their directory

The name of a template is checked before an extension is added to it, so the path that is followed
is not the one that was checked.  An extension without a slash changes the last step of a path only
(`parts_extended`).  It may turn that step into one up to the parent directory, but such a path
leads to a directory (`FileTree.isDirectory_of_follow_parent`) and never to a text.  So whatever is
read stands below the root, and only steps down lead there.
-/

namespace Lineage

open Lineage.Text

/-! ## Steps of a path -/

namespace Path

/-- All steps of a path, those that lead nowhere included. -/
def parts (path : String) : List String :=
  (splitAt '/' path.toList).map String.ofList

theorem parts_ne_nil (path : String) : parts path ≠ [] :=
  mt List.map_eq_nil_iff.mp (splitAt_ne_nil '/' path.toList)

theorem steps_eq_filter (path : String) :
    steps path = (parts path).filter fun step => step != "" && step != "." :=
  rfl

theorem parentStep_mem_steps_iff {path : String} :
    parentStep ∈ steps path ↔ parentStep ∈ parts path := by
  rw [steps_eq_filter, List.mem_filter]
  exact and_iff_left (by decide)

/-- What stands in front of a path: nothing, or a text that ends with a slash. -/
def IsLead (lead : String) : Prop :=
  lead = "" ∨ lead.toList.getLast? = some '/'

/-- The steps of a path stand behind those of what leads to it. -/
theorem IsLead.parts_append {lead : String} (isLead : IsLead lead) :
    ∃ front, ∀ path, parts (lead ++ path) = front ++ parts path := by
  rcases isLead with rfl | ends
  · exact ⟨[], fun path => by rw [String.empty_append, List.nil_append]⟩
  · obtain ⟨before, split⟩ := List.getLast?_eq_some_iff.mp ends
    refine ⟨(splitAt '/' before).map String.ofList, fun path => ?_⟩
    rw [parts, String.toList_append, split, List.append_assoc, List.singleton_append,
      splitAt_append_separator, List.map_append, parts]

theorem IsLead.append {first second : String} (isFirst : IsLead first) (isSecond : IsLead second) :
    IsLead (first ++ second) := by
  rcases isSecond with rfl | ends
  · rwa [String.append_empty]
  · right
    rw [String.toList_append, List.getLast?_append, ends, Option.some_or]

/-- A relative path is followed from a directory by putting something in front of it. -/
theorem exists_lead_join (directory : String) : ∃ lead, IsLead lead ∧
    ∀ path, isAbsolute path = false → join directory path = lead ++ path := by
  by_cases empty : directory.isEmpty = true
  · refine ⟨"", Or.inl rfl, fun path _ => ?_⟩
    rw [join, empty, Bool.or_true, if_pos rfl, String.empty_append]
  · rw [Bool.not_eq_true] at empty
    by_cases ends : directory.toList.getLast? = some '/'
    · refine ⟨directory, Or.inr ends, fun path relative => ?_⟩
      simp [join, relative, empty, ends]
    · refine ⟨directory ++ "/", Or.inr (by simp), fun path relative => ?_⟩
      simp [join, relative, empty, ends]

/-- An extension changes the last step only. -/
theorem parts_extended {suffix : String} (noSlash : '/' ∉ suffix.toList) (name : String) :
    ∃ before last, parts name = before ++ [last] ∧
      parts (name ++ suffix) = before ++ [last ++ suffix] := by
  obtain ⟨before, last, whole, longer⟩ := splitAt_append_of_notMem noSlash name.toList
  refine ⟨before.map String.ofList, String.ofList last, ?_, ?_⟩
  · rw [parts, whole, List.map_append, List.map_singleton]
  · rw [parts, String.toList_append, longer, List.map_append, List.map_singleton,
      String.ofList_append, String.ofList_toList]

end Path

namespace FileTree

variable {above : List FileTree} {current tree : FileTree}

/-- What the names of entries lead to, one inside the other. -/
def descend? : List String → FileTree → Option FileTree
  | [], tree => some tree
  | name :: names, tree => (tree.child? name).bind (descend? names)

/-- What a path leads to depends on where its first steps lead. -/
theorem follow_append (above : List FileTree) (current : FileTree) (first : List String) :
    (∃ error, ∀ second, follow above current (first ++ second) = .error error) ∨
      ∃ higher middle, ((∀ tree ∈ above, tree.isDirectory) → ∀ tree ∈ higher, tree.isDirectory) ∧
        ∀ second, follow above current (first ++ second) = follow higher middle second := by
  induction first generalizing above current with
  | nil => exact Or.inr ⟨above, current, id, fun _ => rfl⟩
  | cons step steps ih =>
      simp only [List.cons_append, follow]
      split
      · exact Or.inl ⟨_, fun _ => rfl⟩
      · rename_i isDirectory
        simp only [Bool.not_eq_true, Bool.not_eq_false'] at isDirectory
        split
        · exact ih above current
        · split
          · cases above with
            | nil => exact ih [] current
            | cons parent further =>
                rcases ih further parent with failed | ⟨higher, middle, kept, led⟩
                · exact Or.inl failed
                · refine Or.inr ⟨higher, middle, fun directories => kept ?_, led⟩
                  exact fun tree member => directories tree (List.mem_cons_of_mem _ member)
          · split
            · exact Or.inl ⟨_, fun _ => rfl⟩
            · split
              · rename_i next _
                rcases ih (current :: above) next with failed | ⟨higher, middle, kept, led⟩
                · exact Or.inl failed
                · refine Or.inr ⟨higher, middle, fun directories => kept ?_, led⟩
                  exact List.forall_mem_cons.mpr ⟨isDirectory, directories⟩
              · exact Or.inl ⟨_, fun _ => rfl⟩

/-- A step at the end that leads nowhere leads to a directory. -/
theorem follow_cons_isDirectory {step : String} {steps : List String}
    (led : follow above current (step :: steps) = .ok tree) : current.isDirectory = true := by
  unfold follow at led
  split at led
  · cases led
  · rename_i isDirectory
    simpa using isDirectory

/-- A step up to the parent directory leads to a directory. -/
theorem isDirectory_of_follow_parent (directories : ∀ tree ∈ above, tree.isDirectory = true)
    (led : follow above current [Path.parentStep] = .ok tree) : tree.isDirectory = true := by
  have here := follow_cons_isDirectory led
  have goesUp : (Path.parentStep == "" || Path.parentStep == ".") = false := by decide
  unfold follow at led
  simp only [here, goesUp, Bool.not_true, Bool.false_eq_true, if_false, beq_self_eq_true,
    if_true] at led
  cases above with
  | nil =>
      cases led
      exact here
  | cons parent further =>
      have isParent : parent = tree := Except.ok.inj led
      exact isParent ▸ directories parent List.mem_cons_self

/-- Without a step up a path leads down, by the steps that lead anywhere. -/
theorem descend?_of_follow {steps : List String} (down : Path.parentStep ∉ steps)
    (led : follow above current steps = .ok tree) :
    descend? (steps.filter fun step => step != "" && step != ".") current = some tree := by
  induction steps generalizing above current with
  | nil =>
      cases led
      rfl
  | cons step steps ih =>
      have further : Path.parentStep ∉ steps := fun member => down (List.mem_cons_of_mem _ member)
      have notUp : (step == Path.parentStep) = false := by
        rw [beq_eq_false_iff_ne]
        exact fun same => down (same ▸ List.mem_cons_self)
      have moves : (step != "" && step != ".") = !(step == "" || step == ".") :=
        (Bool.not_or _ _).symm
      unfold follow at led
      rw [List.filter_cons, moves]
      split at led
      · cases led
      · cases stays : step == "" || step == "." with
        | true =>
            rw [stays, if_pos rfl] at led
            exact ih further led
        | false =>
            simp only [stays, notUp, Bool.false_eq_true, if_false] at led
            rw [Bool.not_false, if_pos rfl, descend?]
            split at led
            · cases led
            · split at led
              · rename_i next found
                rw [found]
                exact ih further led
              · cases led

/-- A path leads somewhere if it is one that the system takes, and its steps lead there. -/
theorem find_eq_ok_iff {root : FileTree} {path : String} :
    root.find path = .ok tree ↔ '\x00' ∉ path.toList ∧ path ≠ "" ∧
      path.utf8ByteSize < pathLimit ∧ follow [] root (Path.parts path) = .ok tree := by
  unfold find
  split
  · rename_i nul
    simp only [List.contains_iff_mem] at nul
    simp [nul]
  · rename_i noNul
    simp only [List.contains_iff_mem] at noNul
    split
    · rename_i empty
      simp only [String.isEmpty_iff] at empty
      simp [empty]
    · rename_i filled
      simp only [String.isEmpty_iff] at filled
      split
      · rename_i long
        simp only [reduceCtorEq, false_iff]
        omega
      · rename_i short
        have fits : path.utf8ByteSize < pathLimit := by omega
        simp [noNul, filled, fits, Path.parts]

/-- The text that a path leads to is that of a file. -/
theorem readText_eq_ok_iff {root : FileTree} {path text : String} :
    root.readText path = .ok text ↔ ∃ content, root.find path = .ok (.file content) ∧
      String.fromUTF8? content = some text := by
  unfold readText
  split
  · rename_i failed
    simp [failed]
  · rename_i found
    simp [found]
  · rename_i content found
    simp only [found, Except.ok.injEq, file.injEq, exists_eq_left']
    cases String.fromUTF8? content with
    | none => simp
    | some text => simp

end FileTree

namespace TemplateDirectory

variable {directory : TemplateDirectory}

/-- What stands in front of every relative path that is followed from the root. -/
theorem exists_lead (directory : TemplateDirectory) : ∃ lead, Path.IsLead lead ∧
    ∀ path, path ≠ "" → Path.isAbsolute path = false →
      directory.files.absolute (Path.join directory.root path) = lead ++ path := by
  obtain ⟨inner, isInner, joinsInner⟩ := Path.exists_lead_join directory.root
  obtain ⟨outer, isOuter, joinsOuter⟩ := Path.exists_lead_join directory.files.workingDirectory
  have follows : ∀ path, path ≠ "" → Path.isAbsolute path = false →
      directory.files.absolute (Path.join directory.root path) =
        Path.join directory.files.workingDirectory (inner ++ path) := by
    intro path filled relative
    have longer : (inner ++ path).isEmpty = false := by simp [filled]
    rw [FileSystem.absolute, joinsInner path relative, longer, if_neg Bool.false_ne_true]
  by_cases absolute : Path.isAbsolute inner = true
  · refine ⟨inner, isInner, fun path filled relative => ?_⟩
    have longer : Path.isAbsolute (inner ++ path) = true := by
      rw [Path.isAbsolute, beq_iff_eq] at absolute ⊢
      rw [String.toList_append, List.head?_append, absolute, Option.some_or]
    rw [follows path filled relative, Path.join, longer, Bool.true_or, if_pos rfl]
  · rw [Bool.not_eq_true] at absolute
    refine ⟨outer ++ inner, isOuter.append isInner, fun path filled relative => ?_⟩
    have longer : Path.isAbsolute (inner ++ path) = false := by
      rw [Path.isAbsolute, String.toList_append] at *
      cases whole : inner.toList with
      | nil => rwa [List.nil_append]
      | cons c rest => rwa [whole] at absolute
    rw [follows path filled relative, joinsOuter _ longer, String.append_assoc]

/-- Whatever is followed from the root and leads to a file stands below the root, and no step up
leads there. -/
theorem descends_of_readText {path text : String} (filled : path ≠ "")
    (relative : Path.isAbsolute path = false)
    (noFront : Path.parentStep ∉ (Path.parts path).dropLast)
    (read : directory.files.readText (Path.join directory.root path) = .ok text) :
    Path.parentStep ∉ Path.steps path ∧ Path.steps path ≠ [] ∧ ∃ base content,
      directory.files.find (Path.join directory.root ".") = .ok base ∧
        base.descend? (Path.steps path) = some (.file content) ∧
          String.fromUTF8? content = some text := by
  obtain ⟨lead, isLead, leads⟩ := directory.exists_lead
  obtain ⟨content, found, decoded⟩ := FileTree.readText_eq_ok_iff.mp read
  rw [leads path filled relative] at found
  obtain ⟨noNul, _, short, followed⟩ := FileTree.find_eq_ok_iff.mp found
  obtain ⟨front, parts⟩ := isLead.parts_append
  rw [parts] at followed
  rcases FileTree.follow_append [] directory.files.root front with
    ⟨error, failed⟩ | ⟨higher, base, directories, led⟩
  · rw [failed] at followed
    cases followed
  rw [led] at followed
  have here : base.isDirectory = true := by
    cases whole : Path.parts path with
    | nil => exact absurd whole (Path.parts_ne_nil path)
    | cons step steps =>
        rw [whole] at followed
        exact FileTree.follow_cons_isDirectory followed
  have down : Path.parentStep ∉ Path.parts path := by
    intro up
    rw [← List.dropLast_concat_getLast (Path.parts_ne_nil path), List.mem_append,
      List.mem_singleton] at up
    rcases up with inFront | last
    · exact noFront inFront
    · -- the last step leads up, and so to a directory
      rw [← List.dropLast_concat_getLast (Path.parts_ne_nil path), ← last] at followed
      rcases FileTree.follow_append higher base (Path.parts path).dropLast with
        ⟨error, failed⟩ | ⟨highest, before, directoriesBefore, ledBefore⟩
      · rw [failed] at followed
        cases followed
      · rw [ledBefore] at followed
        have inside := directoriesBefore (directories (by simp))
        cases FileTree.isDirectory_of_follow_parent inside followed
  have descends := FileTree.descend?_of_follow down followed
  refine ⟨mt Path.parentStep_mem_steps_iff.mp down, ?_, base, content, ?_, descends, decoded⟩
  · intro none
    rw [← Path.steps_eq_filter, none] at descends
    cases descends
    cases here
  · have dot : Path.parts "." = ["."] := by decide
    rw [FileSystem.find, leads "." (by decide) (by decide), FileTree.find_eq_ok_iff, parts, led,
      dot]
    simp only [String.toList_append, List.mem_append, not_or,
      String.utf8ByteSize_append] at noNul short ⊢
    have positive : 0 < path.utf8ByteSize := by
      rw [Nat.pos_iff_ne_zero]
      simpa using filled
    have one : ".".utf8ByteSize = 1 := by decide
    refine ⟨⟨noNul.1, by decide⟩, by simp, by omega, ?_⟩
    simp [FileTree.follow, here]

/-- The text that is found is read at one of the paths. -/
theorem exists_of_firstText {files : FileSystem} {paths : List String} {text : String}
    (found : firstText files paths = .ok (some text)) :
    ∃ path ∈ paths, files.readText path = .ok text := by
  induction paths with
  | nil => cases found
  | cons path paths ih =>
      rw [firstText] at found
      split at found
      · rename_i read
        cases found
        exact ⟨path, List.mem_cons_self, read⟩
      · obtain ⟨other, member, read⟩ := ih found
        exact ⟨other, List.mem_cons_of_mem _ member, read⟩
      · split at found
        · obtain ⟨other, member, read⟩ := ih found
          exact ⟨other, List.mem_cons_of_mem _ member, read⟩
        · cases found

theorem exists_of_mem_candidates {name whole : String}
    (member : whole ∈ directory.candidates name) :
    ∃ path, whole = Path.join directory.root path ∧ (path = name ∨
      ∃ extension ∈ directory.extensions, path = name ++ "." ++ extension) := by
  rw [candidates, List.mem_cons, List.mem_map] at member
  rcases member with rfl | ⟨extension, known, rfl⟩
  · exact ⟨name, rfl, Or.inl rfl⟩
  · exact ⟨name ++ "." ++ extension, rfl, Or.inr ⟨extension, known, rfl⟩⟩

/-- What is added to a name is nothing, or a point and an extension, and holds no slash. -/
theorem exists_suffix (noSlash : ∀ extension ∈ directory.extensions, '/' ∉ extension.toList)
    {name path : String} (tried : path = name ∨
      ∃ extension ∈ directory.extensions, path = name ++ "." ++ extension) :
    ∃ suffix, path = name ++ suffix ∧ '/' ∉ suffix.toList := by
  rcases tried with rfl | ⟨extension, known, rfl⟩
  · exact ⟨"", by rw [String.append_empty], by decide⟩
  · refine ⟨"." ++ extension, String.append_assoc, ?_⟩
    rw [String.toList_append, List.mem_append, not_or]
    exact ⟨by decide, noSlash extension known⟩

/-- A name has no defect if it is not blank, not absolute and has no step up. -/
theorem defect?_eq_none_iff {name : String} : TemplateName.defect? name = none ↔
    isBlankText name.toList = false ∧ Path.isAbsolute name = false ∧
      Path.parentStep ∉ Path.steps name := by
  unfold TemplateName.defect?
  cases isBlankText name.toList with
  | true => simp
  | false =>
      cases Path.isAbsolute name with
      | true => simp
      | false => simp

/-- A text that the directory gives is the content of a file below its root.  It is read at the
name, or at the name with one of the extensions, and the steps of that path lead down from the root
to the file, without one up to a parent directory.  A name that is blank, absolute or has such a
step is answered by a failure that is the same for whatever files there are, so none of them is
read. -/
theorem lookup_contained (directory : TemplateDirectory)
    (noSlash : ∀ extension ∈ directory.extensions, '/' ∉ extension.toList) (name : String) :
    (∀ source, directory.lookup name = .ok (some source) → ∃ path base content,
      (path = name ∨ ∃ extension ∈ directory.extensions, path = name ++ "." ++ extension) ∧
        directory.files.readText (Path.join directory.root path) = .ok source.text ∧
        Path.parentStep ∉ Path.steps path ∧ Path.steps path ≠ [] ∧
        directory.files.find (Path.join directory.root ".") = .ok base ∧
        base.descend? (Path.steps path) = some (.file content) ∧
        String.fromUTF8? content = some source.text) ∧
    (isBlankText name.toList = true ∨ Path.isAbsolute name = true ∨
        Path.parentStep ∈ Path.steps name →
      ∃ reason, ∀ files, { directory with files }.lookup name =
        .error (.sourceUnavailable name reason)) := by
  constructor
  · intro source found
    unfold lookup at found
    split at found
    · cases found
    · rename_i sound
      obtain ⟨filled, relative, down⟩ := defect?_eq_none_iff.mp sound
      split at found
      · rename_i text first
        cases text with
        | none => cases found
        | some text =>
            cases found
            obtain ⟨whole, member, read⟩ := exists_of_firstText first
            obtain ⟨path, rfl, tried⟩ := exists_of_mem_candidates member
            obtain ⟨suffix, rfl, plain⟩ := exists_suffix noSlash tried
            have some : name ≠ "" := by
              rintro rfl
              cases filled
            have someExtended : name ++ suffix ≠ "" := by simp [some]
            have relativeExtended : Path.isAbsolute (name ++ suffix) = false := by
              rw [Path.isAbsolute, String.toList_append] at *
              cases whole : name.toList with
              | nil => exact absurd (String.toList_eq_nil_iff.mp whole) some
              | cons c rest => rwa [whole] at relative
            have noFront : Path.parentStep ∉ (Path.parts (name ++ suffix)).dropLast := by
              obtain ⟨before, last, parts, longer⟩ := Path.parts_extended plain name
              rw [longer, List.dropLast_concat]
              intro up
              apply down
              rw [Path.parentStep_mem_steps_iff, parts]
              exact List.mem_append_left _ up
            obtain ⟨noUp, below, base, content, root, descends, decoded⟩ :=
              descends_of_readText someExtended relativeExtended noFront read
            exact ⟨name ++ suffix, base, content, tried, read, noUp, below, root, descends, decoded⟩
      · cases found
  · intro defective
    cases defect : TemplateName.defect? name with
    | none =>
        obtain ⟨filled, relative, down⟩ := defect?_eq_none_iff.mp defect
        rw [filled, relative] at defective
        simp [down] at defective
    | some one =>
        refine ⟨one.message, fun files => ?_⟩
        rw [lookup, defect]

/-- An empty extension turns a last step that leads nowhere into one up to the parent directory,
which is passed over.  The next extension makes it the name of a file. -/
theorem lookup_contained_dots :
    let page := FileTree.file "x".toUTF8
    let root := FileTree.directory [("page", page), ("t", .directory [("a", .directory
      [("..j2", page)])])]
    let directory : TemplateDirectory := ⟨⟨root, "/"⟩, "/t", ["", "j2"]⟩
    (∀ extension ∈ directory.extensions, '/' ∉ extension.toList) ∧
      directory.lookup "a/." = .ok (some (Source.ofText "x")) ∧
      (∃ path base content,
        (path = "a/." ∨ ∃ extension ∈ directory.extensions, path = "a/." ++ "." ++ extension) ∧
          directory.files.readText (Path.join "/t" path) = .ok "x" ∧
          Path.parentStep ∉ Path.steps path ∧ Path.steps path ≠ [] ∧
          directory.files.find (Path.join "/t" ".") = .ok base ∧
          base.descend? (Path.steps path) = some (.file content) ∧
          String.fromUTF8? content = some "x") ∧
      ∃ reason, ∀ files, { directory with files }.lookup "a/../../page" =
        .error (.sourceUnavailable "a/../../page" reason) := by
  intro page root directory
  have noSlash : ∀ extension ∈ directory.extensions, '/' ∉ extension.toList := by decide
  have sound : TemplateName.defect? "a/." = none := by decide +kernel
  have read : firstText directory.files (directory.candidates "a/.") = .ok (some "x") := by
    decide +kernel
  have found : directory.lookup "a/." = .ok (some (Source.ofText "x")) := by
    rw [lookup, sound, read]
    rfl
  have up : Path.parentStep ∈ Path.steps "a/../../page" := by decide +kernel
  exact ⟨noSlash, found, (lookup_contained directory noSlash "a/.").1 _ found,
    (lookup_contained directory noSlash "a/../../page").2 (Or.inr (Or.inr up))⟩

end TemplateDirectory

end Lineage
