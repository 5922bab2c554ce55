import Lineage.Text.Blank

/-!
# Levels of enforcement

A template says how strictly its rules are enforced.  The level of a rule decides how severe its
failure is, and only the two highest levels block.
-/

namespace Lineage

open Lineage.Text

/-- How severe the failure of a rule is. -/
inductive Severity where
  | info
  | advisory
  | blocking
deriving DecidableEq, Repr

/-- The name of a severity. -/
def Severity.toText : Severity → String
  | .info => "INFO"
  | .advisory => "ADVISORY"
  | .blocking => "BLOCKING"

/-- How strictly the rules of a template are enforced. -/
inductive Enforcement where
  | unenforced
  | advisory
  | strict
  | architectural
deriving DecidableEq, Repr

namespace Enforcement

/-- The name of a level. -/
def toText : Enforcement → String
  | .unenforced => "NONE"
  | .advisory => "ADVISORY"
  | .strict => "STRICT"
  | .architectural => "ARCHITECTURAL"

/-- The levels from the lowest to the highest. -/
def all : List Enforcement :=
  [.unenforced, .advisory, .strict, .architectural]

/-- The level that rules have where no template says anything. -/
def fallback : Enforcement :=
  .advisory

/-- The level with the given name, in which neither case nor blanks around it count. -/
def ofText? (text : String) : Option Enforcement :=
  let name := (trim text.toList).map Char.toUpper
  all.find? fun level => level.toText.toList == name

/-- The severity of the failure of a rule at a level. -/
def severity : Enforcement → Severity
  | .unenforced => .info
  | .advisory => .advisory
  | .strict | .architectural => .blocking

/-- The place of a level in the order of strictness. -/
def rank : Enforcement → Nat
  | .unenforced => 0
  | .advisory => 1
  | .strict => 2
  | .architectural => 3

/-- Whether a level is at least as strict as another. -/
def isAtLeast (level other : Enforcement) : Bool :=
  other.rank ≤ level.rank

/-- Every level is read back from its name. -/
theorem ofText?_toText (level : Enforcement) : ofText? level.toText = some level := by
  cases level <;> decide +kernel

/-- Exactly the levels from `strict` on make a failure block. -/
theorem severity_eq_blocking_iff (level : Enforcement) :
    level.severity = .blocking ↔ level.isAtLeast .strict := by
  cases level <;> decide

end Enforcement

end Lineage
