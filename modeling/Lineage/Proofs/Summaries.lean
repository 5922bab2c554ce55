import Lineage.Presentation.Text
import Lineage.Proofs.Verdicts
import Lineage.Text.Digit

/-!
# The summary of a validation

The last line of a validation says how many rules have failed, those that block apart from the
others, or that all rules passed (`Palette.summary_eq`).  A style puts control sequences around the
line and leaves its words as they are (`Palette.exists_show`), so the three summaries can be told
apart in colours as well.

All rules are said to have passed where none has failed.  A rule that was skipped has not passed
either, and nothing in the line tells (`Palette.summary_skipped`).
-/

namespace Lineage

/-- The words stand in the text. -/
def Tells (text words : String) : Prop :=
  words.toList <:+: text.toList

/-! ## Texts in a style -/

/-- Whether control sequences are written with the character. -/
def Style.isControl (c : Char) : Bool :=
  c.isDigit || ['\x1b', '[', ';', 'm'].contains c

theorem Style.all_isControl_opening (style : Style) : style.opening.all isControl = true := by
  cases style with
  | bold | dimmed => decide +kernel
  | colour hue | boldColour hue => cases hue <;> decide +kernel

/-- A text that switches nothing off stays as it is. -/
theorem Style.reopen_of_notMem {opening text : List Char} (plain : '\x1b' ∉ text) :
    reopen opening text = text := by
  induction text with
  | nil => rfl
  | cons c rest ih =>
      rw [List.mem_cons, not_or] at plain
      rw [reopen, ih plain.2]
      rintro _ rfl
      exact absurd rfl plain.1

namespace Palette

variable {palette : Palette} {style : Style} {text : String} {c : Char}

/-- Around a text that switches nothing off there are control sequences at most. -/
theorem exists_show (palette : Palette) (style : Style) (plain : '\x1b' ∉ text.toList) :
    ∃ front back, (palette.show style text).toList = front ++ text.toList ++ back ∧
      ∀ c ∈ front ++ back, Style.isControl c = true := by
  rw [Palette.show]
  split
  · refine ⟨style.opening, Style.reset, ?_, ?_⟩
    · rw [Style.apply, String.toList_ofList, Style.reopen_of_notMem plain]
    · have ends : Style.reset.all Style.isControl = true := by decide
      rw [List.forall_mem_append]
      exact ⟨List.all_eq_true.mp style.all_isControl_opening, List.all_eq_true.mp ends⟩
  · exact ⟨[], [], by simp, by simp⟩

theorem tells_show (palette : Palette) (style : Style) (plain : '\x1b' ∉ text.toList) :
    Tells (palette.show style text) text := by
  obtain ⟨front, back, shown, _⟩ := palette.exists_show style plain
  exact ⟨front, back, shown.symm⟩

theorem notMem_show (plain : '\x1b' ∉ text.toList) (absent : c ∉ text.toList)
    (other : Style.isControl c = false) : c ∉ (palette.show style text).toList := by
  obtain ⟨front, back, shown, control⟩ := palette.exists_show style plain
  intro member
  rw [shown, List.mem_append, List.mem_append] at member
  rcases member with (inFront | inText) | inBack
  · simp [control c (List.mem_append_left _ inFront)] at other
  · exact absent inText
  · simp [control c (List.mem_append_right _ inBack)] at other

end Palette

/-! ## The failures of a validation -/

namespace Validation

variable (validation : Validation)

/-- The number of the rules that have failed and block. -/
def blockingCount : Nat :=
  validation.results.countP fun result => result.status = .failed ∧ result.severity = .blocking

/-- The number of the rules that have failed and do not block. -/
def otherCount : Nat :=
  validation.results.countP fun result => result.status = .failed ∧ result.severity ≠ .blocking

theorem length_blockingFailures :
    validation.blockingFailures.length = validation.blockingCount := by
  rw [blockingFailures, ← List.countP_eq_length_filter, blockingCount]
  apply List.countP_congr
  intro result _
  rw [RuleResult.isBlocking_iff, decide_eq_true_iff]

theorem blockingCount_add_otherCount : validation.blockingCount + validation.otherCount =
    validation.results.countP (·.status = .failed) := by
  rw [blockingCount, otherCount]
  induction validation.results with
  | nil => rfl
  | cons result results ih =>
      simp only [List.countP_cons, ← ih]
      by_cases failed : result.status = .failed <;>
        by_cases blocks : result.severity = .blocking <;> simp [failed, blocks] <;> omega

theorem length_failures :
    validation.failures.length = validation.blockingCount + validation.otherCount := by
  rw [blockingCount_add_otherCount, failures, ← List.countP_eq_length_filter]
  apply List.countP_congr
  intro result _
  simp [RuleResult.isFailure]

theorem isBlocking_iff : validation.isBlocking = true ↔ 0 < validation.blockingCount := by
  rw [isBlocking, blockingCount, List.countP_pos_iff, List.any_eq_true]
  simp only [RuleResult.isBlocking_iff, decide_eq_true_iff]

end Validation

/-! ## The last line -/

/-- The summary of failures consists of numbers and the words of two lines. -/
theorem notMem_failureTexts {c : Char} (noDigit : c.isDigit = false)
    (absent : c ∉ " blocking failure(s), non-blocking".toList) (blocking others : Nat) :
    c ∉ (toString blocking ++ " blocking failure(s), " ++ toString others ++
        " non-blocking").toList ∧
      c ∉ (toString others ++ " non-blocking failure(s)").toList := by
  have lacks : ∀ words : String,
      words.toList ⊆ " blocking failure(s), non-blocking".toList → c ∉ words.toList :=
    fun _ subset member => absent (subset member)
  have noNumber : ∀ n : Nat, c ∉ (toString n).toList := by
    intro n member
    cases noDigit.symm.trans (Text.isDigit_of_mem_toString member)
  simp only [String.toList_append, List.mem_append, not_or]
  exact ⟨⟨⟨⟨noNumber _, lacks _ (by decide)⟩, noNumber _⟩, lacks _ (by decide)⟩,
    noNumber _, lacks _ (by decide)⟩

namespace Palette

variable {palette : Palette} {validation : Validation} {c : Char}

theorem summary_eq (palette : Palette) (validation : Validation) :
    palette.summary validation =
      if 0 < validation.blockingCount then
        palette.show (.boldColour .red) (toString validation.blockingCount ++
          " blocking failure(s), " ++ toString validation.otherCount ++ " non-blocking")
      else if 0 < validation.otherCount then
        palette.show (.colour .yellow) (toString validation.otherCount ++
          " non-blocking failure(s)")
      else palette.show (.colour .green) "all rules passed" := by
  have blocks := validation.isBlocking_iff
  rw [summary, validation.length_blockingFailures, validation.length_failures]
  by_cases blocking : 0 < validation.blockingCount
  · rw [if_pos (blocks.mpr blocking), if_pos blocking, Nat.add_sub_cancel_left]
  · have none : validation.blockingCount = 0 := by omega
    rw [if_neg (mt blocks.mp blocking), if_neg blocking, none, Nat.zero_add]

/-- A validation ends with its summary. -/
theorem exists_validation_eq (palette : Palette) (validation : Validation) :
    ∃ above, palette.validation validation =
      above ++ "\n" ++ palette.summary validation ++ "\n" := by
  have ends : ∀ above summary : String,
      above ++ line ("\n" ++ summary) = above ++ "\n" ++ summary ++ "\n" := by
    intro above summary
    simp only [line, String.append_assoc]
  exact ⟨_, ends _ _⟩

/-- Where some rule has failed, the summary has no other characters than those of numbers, of
control sequences and of its words. -/
theorem notMem_summary_of_failures
    (failed : 0 < validation.blockingCount + validation.otherCount)
    (other : Style.isControl c = false)
    (absent : c ∉ " blocking failure(s), non-blocking".toList) :
    c ∉ (palette.summary validation).toList := by
  have noDigit : c.isDigit = false := by
    rw [Style.isControl, Bool.or_eq_false_iff] at other
    exact other.1
  obtain ⟨lacks, lacks'⟩ := notMem_failureTexts noDigit absent validation.blockingCount
    validation.otherCount
  obtain ⟨plain, plain'⟩ := notMem_failureTexts (c := '\x1b') (by decide) (by decide)
    validation.blockingCount validation.otherCount
  rw [summary_eq]
  split
  · exact notMem_show plain lacks other
  · rename_i noBlocking
    rw [if_pos (by omega)]
    exact notMem_show plain' lacks' other

theorem lineBreak_notMem_summary (palette : Palette) (validation : Validation) :
    '\n' ∉ (palette.summary validation).toList := by
  rcases Nat.eq_zero_or_pos (validation.blockingCount + validation.otherCount) with none | some
  · have blocking : ¬ 0 < validation.blockingCount := by omega
    have others : ¬ 0 < validation.otherCount := by omega
    rw [summary_eq, if_neg blocking, if_neg others]
    exact notMem_show (by decide) (by decide) (by decide)
  · exact notMem_summary_of_failures some (by decide) (by decide)

/-- All rules are said to have passed exactly if none has failed. -/
theorem tells_passed_iff : Tells (palette.summary validation) "all rules passed" ↔
    validation.results.countP (·.status = .failed) = 0 := by
  rw [← validation.blockingCount_add_otherCount]
  constructor
  · intro told
    by_contra some
    -- the words of no other summary have this letter
    have absent : 'p' ∉ (palette.summary validation).toList :=
      notMem_summary_of_failures (by omega) (by decide) (by decide)
    exact absent (told.subset (by decide))
  · intro none
    have blocking : ¬ 0 < validation.blockingCount := by omega
    have others : ¬ 0 < validation.otherCount := by omega
    rw [summary_eq, if_neg blocking, if_neg others]
    exact palette.tells_show _ (by decide)

/-- The last line of a validation gives the numbers of the failures that block and of the others if
some failure blocks, and the number of the failures if there are some and none blocks.  The two
numbers add up to the rules that have failed, and there are no more of the first than of all.

The line says that all rules passed exactly if none has failed.  So it says that only if all of them
have passed exactly if one has failed or none was skipped. -/
theorem summary_counts (palette : Palette) (template : String) (results : List RuleResult) :
    let validation : Validation := ⟨template, results⟩
    let summary := palette.summary validation
    let blocking := results.countP fun result =>
      result.status = .failed ∧ result.severity = .blocking
    let others := results.countP fun result =>
      result.status = .failed ∧ result.severity ≠ .blocking
    (∃ above, palette.validation validation = above ++ "\n" ++ summary ++ "\n") ∧
      '\n' ∉ summary.toList ∧
      summary =
        (if 0 < blocking then palette.show (.boldColour .red)
          (toString blocking ++ " blocking failure(s), " ++ toString others ++ " non-blocking")
        else if 0 < others then palette.show (.colour .yellow)
          (toString others ++ " non-blocking failure(s)")
        else palette.show (.colour .green) "all rules passed") ∧
      validation.blockingFailures.length ≤ validation.failures.length ∧
      blocking + others = results.countP (·.status = .failed) ∧
      (Tells summary "all rules passed" ↔ ∀ result ∈ results, result.status ≠ .failed) ∧
      ((Tells summary "all rules passed" → ∀ result ∈ results, result.status = .passed) ↔
        (∃ result ∈ results, result.status = .failed) ∨
          ∀ result ∈ results, result.status ≠ .skipped) := by
  intro validation summary blocking others
  have tells : Tells summary "all rules passed" ↔ ∀ result ∈ results, result.status ≠ .failed := by
    rw [tells_passed_iff, List.countP_eq_zero]
    simp only [decide_eq_true_iff]
    exact Iff.rfl
  refine ⟨palette.exists_validation_eq validation, lineBreak_notMem_summary _ _, summary_eq _ _, ?_,
    validation.blockingCount_add_otherCount, tells, ?_⟩
  · rw [validation.length_blockingFailures, validation.length_failures]
    exact Nat.le_add_right _ _
  · constructor
    · intro onlyPassed
      by_cases failed : ∃ result ∈ results, result.status = .failed
      · exact Or.inl failed
      · refine Or.inr fun result member skipped => ?_
        have none : ∀ result ∈ results, result.status ≠ .failed :=
          fun result member fails => failed ⟨result, member, fails⟩
        have passed := onlyPassed (tells.mpr none) result member
        cases skipped.symm.trans passed
    · rintro (⟨result, member, failed⟩ | noneSkipped) shown result' member'
      · exact absurd failed (tells.mp shown result member)
      · cases status : result'.status with
        | passed => rfl
        | failed => exact absurd status (tells.mp shown result' member')
        | skipped => exact absurd status (noneSkipped result' member')

/-- A blocking rule was skipped, since there is no content, and all rules are said to have
passed. -/
theorem summary_skipped : ¬ ∀ (palette : Palette) (validation : Validation),
    Tells (palette.summary validation) "all rules passed" →
      ∀ result ∈ validation.results, result.status = .passed := by
  intro onlyPassed
  let skipped : RuleResult := ⟨"mark", .skipped, .blocking, "no content supplied", "page"⟩
  have shown : (Palette.mk false).summary ⟨"page", [skipped]⟩ = "all rules passed" := rfl
  have passed := onlyPassed ⟨false⟩ ⟨"page", [skipped]⟩ (shown ▸ List.infix_rfl) skipped
    (List.mem_singleton_self _)
  cases passed

end Palette

end Lineage
