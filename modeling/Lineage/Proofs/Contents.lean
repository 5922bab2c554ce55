import Lineage.Proofs.Verdicts

/-!
# What a content can change

The same rules are evaluated for two contents, each of which may be missing.  The results pair up
(`RuleResult.SameRule`), and a rule that is not about a content has the same result twice.  A rule
that is about one is skipped where there is none, so whatever fails without a content fails with
every content, and for the same reason.
-/

namespace Lineage

/-- Two results are about the same declaration of a rule. -/
structure RuleResult.SameRule (one other : RuleResult) : Prop where
  ruleId : one.ruleId = other.ruleId
  severity : one.severity = other.severity
  declaredIn : one.declaredIn = other.declaredIn

namespace Analysis

variable {analysis : Analysis} {rule : Rule} {criterion : Criterion}

/-! ## One rule -/

/-- The verdict on what is not about a content is the same for every content. -/
theorem verdict_eq (notRead : criterion.readsContent = false) (content other : Option (List Char)) :
    analysis.verdict content criterion = analysis.verdict other criterion := by
  cases criterion with
  | content written pattern forbidden => cases notRead
  | structural check =>
      cases check with
      | stamped => cases notRead
      | _ => rfl

/-- What is about a content is not judged where there is none. -/
theorem verdict_none (reads : criterion.readsContent = true) :
    analysis.verdict none criterion = .noContent := by
  cases criterion with
  | content written pattern forbidden => rfl
  | structural check =>
      obtain rfl : check = .stamped := by simpa [Criterion.readsContent] using reads
      rfl

theorem result_sameRule (content other : Option (List Char)) :
    (analysis.result content rule).SameRule (analysis.result other rule) :=
  ⟨rfl, rfl, rfl⟩

theorem result_eq (notRead : rule.criterion.readsContent = false)
    (content other : Option (List Char)) :
    analysis.result content rule = analysis.result other rule := by
  rw [result, verdict_eq notRead content other, result]

/-- A rule that fails without a content is not about one, so it fails in the same way with every
content. -/
theorem result_of_failed (failed : (analysis.result none rule).isFailure = true)
    (content : Option (List Char)) :
    analysis.result content rule = analysis.result none rule := by
  apply result_eq
  rw [← Bool.not_eq_true]
  intro reads
  rw [RuleResult.isFailure, result, verdict_none reads] at failed
  cases failed

/-! ## All rules -/

variable (analysis)

theorem getElem?_results (template : String) (content : Option String) (position : Nat) :
    (analysis.validate template content).results[position]? =
      analysis.metadata.rules.values[position]?.map
        (analysis.result (content.map String.toList)) :=
  List.getElem?_map

/-- Two contents, each of which may be missing, have results for the same rules in the same order,
with the same severities and declaring templates.  A rule that is not about a content has the same
result for both.  What fails without a content fails for each, with the same result, so that what
blocks without a content blocks for each. -/
theorem validate_contents (template : String) (content other : Option String) :
    (analysis.validate template content).results.Forall₂ RuleResult.SameRule
        (analysis.validate template other).results ∧
      (∀ (position : Nat) (rule : Rule), analysis.metadata.rules.values[position]? = some rule →
        rule.criterion.readsContent = false →
          ∃ result, result.ruleId = rule.id ∧
            (analysis.validate template content).results[position]? = some result ∧
            (analysis.validate template other).results[position]? = some result) ∧
      (∀ (position : Nat) (result : RuleResult),
        (analysis.validate template none).results[position]? = some result →
          result.status = .failed →
            (analysis.validate template content).results[position]? = some result) ∧
      ((analysis.validate template none).isBlocking = true →
        (analysis.validate template content).isBlocking = true) := by
  have kept : ∀ (position : Nat) (result : RuleResult),
      (analysis.validate template none).results[position]? = some result →
        result.status = .failed →
          (analysis.validate template content).results[position]? = some result := by
    intro position result found failed
    rw [getElem?_results, Option.map_eq_some_iff] at found
    obtain ⟨rule, isRule, rfl⟩ := found
    have isFailure : (analysis.result none rule).isFailure = true := beq_iff_eq.mpr failed
    rw [getElem?_results, isRule, Option.map_some, result_of_failed isFailure]
    rfl
  refine ⟨?_, ?_, kept, ?_⟩
  · rw [validate, validate, List.forall₂_map_left_iff, List.forall₂_map_right_iff,
      List.forall₂_same]
    exact fun rule _ => result_sameRule _ _
  · intro position rule isRule notRead
    refine ⟨analysis.result none rule, rfl, ?_, ?_⟩
    · rw [getElem?_results, isRule, Option.map_some, result_eq notRead _ none]
    · rw [getElem?_results, isRule, Option.map_some, result_eq notRead _ none]
  · simp only [Validation.isBlocking, List.any_eq_true]
    rintro ⟨result, member, isBlocking⟩
    obtain ⟨position, found⟩ := List.mem_iff_getElem?.mp member
    have failed := (RuleResult.isBlocking_iff.mp isBlocking).1
    exact ⟨result, List.mem_of_getElem? (kept position result found failed), isBlocking⟩

end Analysis

end Lineage
