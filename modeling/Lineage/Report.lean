import Lineage.Validation

/-!
# Reports

The report on a leaf holds its chain and the analysis of that chain.
-/

namespace Lineage

/-- What is known about a leaf before it is rendered. -/
structure Report where
  template : String
  chain : List Chain.Link
  analysis : Analysis

namespace Report

/-- The report on the leaf of a chain. -/
def ofChain (chain : Chain) : Except Failure Report := do
  return ⟨chain.leaf.name, chain.links, ← Analysis.ofChain chain⟩

/-- The blocks that are never rendered. -/
def warnings (report : Report) : List BlockWarning :=
  report.analysis.blocks.warnings

/-- The required variables. -/
def required (report : Report) : List Variable :=
  report.analysis.classification.required

/-- The optional variables. -/
def optional (report : Report) : List Variable :=
  report.analysis.classification.optional

end Report

end Lineage
