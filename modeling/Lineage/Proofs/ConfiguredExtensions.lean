import Lineage.Configuration
import Lineage.Proofs.JoinedPaths
import Mathlib.Data.List.TakeWhile

/-!
# Extensions of a configuration

A configuration is refused for an extension of blanks.  The extensions that a directory of templates
works with are without the dots at their start, and these are taken off later.  So an extension that
is accepted may be empty or blank then: it is so exactly if it was written as dots and behind them
blanks (`Configuration.isBlankText_plain_iff`).  With an empty one a look-up tries the name of a
template with a bare dot behind it (`Configuration.plainExtensions_dot`).
-/

namespace Lineage

open Lineage.Text

namespace Configuration

/-- Dots, and nothing but blanks behind them. -/
def IsDotsAndBlanks (text : List Char) : Prop :=
  ∃ dots blanks, text = dots ++ blanks ∧ (∀ c ∈ dots, c = '.') ∧ ∀ c ∈ blanks, isBlank c = true

theorem defect?_eq_none_iff {configuration : Configuration} :
    configuration.defect? = none ↔ configuration.maxDepth ≠ 0 ∧ configuration.extensions ≠ [] ∧
      ∀ written ∈ configuration.extensions, isBlankText written.toList = false := by
  unfold defect?
  split
  · simp [*]
  · split
    · simp_all
    · simp_all [List.find?_eq_none]

/-- What is left of a text without the dots at its start is blank if the text was dots and
blanks. -/
theorem isBlankText_plain_iff {text : List Char} :
    isBlankText (text.dropWhile (· == '.')) = true ↔ IsDotsAndBlanks text := by
  rw [isBlankText, List.all_eq_true]
  constructor
  · intro blank
    refine ⟨text.takeWhile (· == '.'), _, List.takeWhile_append_dropWhile.symm, ?_, blank⟩
    intro c member
    have dot : (c == '.') = true := List.mem_takeWhile_imp (p := (· == '.')) member
    exact eq_of_beq dot
  · rintro ⟨dots, blanks, rfl, areDots, areBlank⟩ c member
    rw [List.dropWhile_append_of_pos fun c inside => beq_iff_eq.mpr (areDots c inside)] at member
    exact areBlank c (List.dropWhile_sublist _ |>.subset member)

theorem mem_plainExtensions_iff {configuration : Configuration} {extension : String} :
    extension ∈ configuration.plainExtensions ↔ ∃ written ∈ configuration.extensions,
      extension.toList = written.toList.dropWhile (· == '.') := by
  rw [plainExtensions, List.mem_map]
  constructor
  · rintro ⟨written, member, rfl⟩
    exact ⟨written, member, String.toList_ofList⟩
  · rintro ⟨written, member, same⟩
    exact ⟨written, member, by rw [← same, String.ofList_toList]⟩

theorem empty_mem_plainExtensions_iff {configuration : Configuration} :
    "" ∈ configuration.plainExtensions ↔
      ∃ written ∈ configuration.extensions, ∀ c ∈ written.toList, c = '.' := by
  rw [mem_plainExtensions_iff]
  have empty : "".toList = [] := rfl
  simp only [empty, eq_comm (a := []), List.dropWhile_eq_nil_iff, beq_iff_eq]

end Configuration

/-! ## The paths of a look-up -/

theorem Path.join_dot (directory name : String) :
    join directory (name ++ ".") = join directory name ++ "." := by
  by_cases filled : name = ""
  · rw [filled, join, join]
    cases directory.isEmpty <;> cases directory.toList.getLast? == some '/' <;>
      simp [isAbsolute, String.append_assoc]
  · exact join_append filled directory "."

/-- A look-up tries a name with a bare dot behind it exactly if an extension is empty. -/
theorem TemplateDirectory.join_dot_mem_candidates_iff {directory : TemplateDirectory}
    {name : String} :
    Path.join directory.root (name ++ ".") ∈ directory.candidates name ↔
      "" ∈ directory.extensions := by
  have filled : name ++ "." ≠ "" := by simp
  have longer : ∀ extension, Path.join directory.root (name ++ "." ++ extension) =
      Path.join directory.root (name ++ ".") ++ extension :=
    Path.join_append filled directory.root
  have differs : Path.join directory.root (name ++ ".") ≠ Path.join directory.root name := by
    rw [Path.join_dot]
    simp
  rw [candidates, List.mem_cons, List.mem_map]
  constructor
  · rintro (same | ⟨extension, member, same⟩)
    · exact absurd same differs
    · rw [longer] at same
      have empty : extension = "" := by simpa using same
      exact empty ▸ member
  · intro member
    exact Or.inr ⟨"", member, by simp⟩

namespace Configuration

/-- The extensions that a directory of templates gets from a configuration without a defect are some
at least, and none of them starts with a dot.  None of them is blank exactly if none was written as
dots with blanks behind them.  A look-up with these extensions tries a name with a bare dot behind
it exactly if some extension was written with dots only. -/
theorem plainExtensions_accepted (configuration : Configuration)
    (accepted : configuration.defect? = none) :
    configuration.plainExtensions ≠ [] ∧
      (∀ extension ∈ configuration.plainExtensions, extension.toList.head? ≠ some '.') ∧
      ((∀ extension ∈ configuration.plainExtensions, isBlankText extension.toList = false) ↔
        ∀ written ∈ configuration.extensions, ¬ IsDotsAndBlanks written.toList) ∧
      ∀ (files : FileSystem) (root name : String),
        Path.join root (name ++ ".") ∈
            (TemplateDirectory.mk files root configuration.plainExtensions).candidates name ↔
          ∃ written ∈ configuration.extensions, ∀ c ∈ written.toList, c = '.' := by
  obtain ⟨_, filled, _⟩ := defect?_eq_none_iff.mp accepted
  refine ⟨?_, ?_, ?_, ?_⟩
  · rw [plainExtensions, Ne, List.map_eq_nil_iff]
    exact filled
  · intro extension member first
    obtain ⟨written, _, plain⟩ := mem_plainExtensions_iff.mp member
    rw [plain] at first
    have noDot := List.head?_dropWhile_not (· == '.') written.toList
    rw [first] at noDot
    cases noDot
  · simp only [← isBlankText_plain_iff, Bool.not_eq_true]
    constructor
    · intro filledIn written member
      have plain : String.ofList (written.toList.dropWhile (· == '.')) ∈
          configuration.plainExtensions := List.mem_map_of_mem member
      simpa only [String.toList_ofList] using filledIn _ plain
    · intro filledIn extension member
      obtain ⟨written, member, plain⟩ := mem_plainExtensions_iff.mp member
      rw [plain]
      exact filledIn written member
  · intro files root name
    rw [← empty_mem_plainExtensions_iff]
    exact TemplateDirectory.join_dot_mem_candidates_iff

/-- Of three extensions that are accepted one is written behind dots, and one is a dot and a
blank. -/
theorem plainExtensions_accepted_dots :
    let configuration : Configuration := ⟨"templates", ["..j2", "tmpl", ". "], 16⟩
    configuration.defect? = none ∧ configuration.plainExtensions = ["j2", "tmpl", " "] ∧
      (∀ extension ∈ configuration.plainExtensions, extension.toList.head? ≠ some '.') ∧
      (∃ extension ∈ configuration.plainExtensions, isBlankText extension.toList = true) ∧
      ∀ (files : FileSystem) (root name : String), Path.join root (name ++ ".") ∉
        (TemplateDirectory.mk files root configuration.plainExtensions).candidates name := by
  intro configuration
  have accepted : configuration.defect? = none := by decide +kernel
  have plain : configuration.plainExtensions = ["j2", "tmpl", " "] := by decide +kernel
  obtain ⟨_, noDot, _, bare⟩ := plainExtensions_accepted configuration accepted
  refine ⟨accepted, plain, noDot, ⟨" ", ?_, rfl⟩, ?_⟩
  · rw [plain]
    decide
  · intro files root name
    rw [bare, ← empty_mem_plainExtensions_iff, plain]
    decide

/-- An extension that is a dot is accepted and becomes empty, and so a name with a bare dot behind
it is tried. -/
theorem plainExtensions_dot :
    let configuration : Configuration := ⟨"templates", ["."], 16⟩
    let directory : TemplateDirectory :=
      ⟨⟨.directory [], "/"⟩, "templates", configuration.plainExtensions⟩
    configuration.defect? = none ∧
      ¬ (∀ extension ∈ configuration.plainExtensions, isBlankText extension.toList = false) ∧
      "templates/page." ∈ directory.candidates "page" := by
  decide +kernel

end Configuration

end Lineage
