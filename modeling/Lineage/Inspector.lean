import Lineage.Report

/-!
# Inspectors

An inspector answers requests about leaves.  It finds the chain of a leaf anew for every request, so
every change of a text is seen, and keeps the last report on each leaf for as long as the texts of
the chain are the same.  A cancelled inspector answers nothing any more.
-/

namespace Lineage

/-- A report that is kept. -/
structure ReportRecord where
  leaf : String
  identities : List String
  /-- The number of the reports that were made before. -/
  serial : Nat
  report : Report

/-- The reports that are kept, and how many were made. -/
structure ReportCache where
  records : List ReportRecord
  made : Nat

namespace ReportCache

/-- The cache that has not been used. -/
def empty : ReportCache :=
  ⟨[], 0⟩

/-- The number of reports that are kept. -/
def size (cache : ReportCache) : Nat :=
  cache.records.length

/-- The report on a leaf whose chain has the given identities. -/
def find? (cache : ReportCache) (leaf : String) (identities : List String) :
    Option ReportRecord :=
  cache.records.find? fun record => record.leaf == leaf && record.identities == identities

/-- Keeps a new report in the place of the one on the same leaf. -/
def add (cache : ReportCache) (leaf : String) (identities : List String) (report : Report) :
    ReportRecord × ReportCache :=
  let record : ReportRecord := ⟨leaf, identities, cache.made, report⟩
  (record, ⟨record :: cache.records.filter (·.leaf != leaf), cache.made + 1⟩)

end ReportCache

/-- The greatest length of a chain where nothing else is said. -/
def defaultMaxDepth : Nat :=
  16

/-- The state of an inspector. -/
structure Inspector where
  maxDepth : Nat
  cancelled : Bool
  reports : ReportCache

/-- What a request to an inspector leaves behind: an answer, the inspector and the intake. -/
structure Answered (α : Type) where
  result : Except Failure α
  inspector : Inspector
  intake : Intake

namespace Inspector

/-- An inspector that has not been used. -/
def fresh (maxDepth : Nat) : Inspector :=
  ⟨maxDepth, false, .empty⟩

/-- The inspector, cancelled. -/
def cancel (inspector : Inspector) : Inspector :=
  { inspector with cancelled := true }

/-- Finds the chain of a leaf. -/
def resolve (inspector : Inspector) (lookup : Lookup) (leaf : String) (intake : Intake) :
    Except Failure Chain × Intake :=
  if inspector.cancelled then (.error (.cancelled leaf), intake)
  else Resolution.run ⟨lookup, leaf, inspector.maxDepth⟩ intake

/-- The report on a chain, which is made if none is kept. -/
def analyze (inspector : Inspector) (chain : Chain) :
    Except Failure (ReportRecord × Inspector) :=
  match inspector.reports.find? chain.leaf.name chain.identities with
  | some record => .ok (record, inspector)
  | none =>
    match Report.ofChain chain with
    | .error failure => .error failure
    | .ok report =>
      let (record, reports) := inspector.reports.add chain.leaf.name chain.identities report
      .ok (record, { inspector with reports })

/-- The report on a leaf. -/
def introspect (inspector : Inspector) (lookup : Lookup) (leaf : String) (intake : Intake) :
    Answered ReportRecord :=
  match inspector.resolve lookup leaf intake with
  | (.error failure, intake) => ⟨.error failure, inspector, intake⟩
  | (.ok chain, intake) =>
    match inspector.analyze chain with
    | .error failure => ⟨.error failure, inspector, intake⟩
    | .ok (record, inspector) => ⟨.ok record, inspector, intake⟩

/-- What is left behind by requests for the reports on several leaves. -/
structure AnsweredAll where
  results : List (Except Failure ReportRecord)
  inspector : Inspector
  intake : Intake

/-- The reports on several leaves, one after the other. -/
def introspectAll (inspector : Inspector) (lookup : Lookup) (intake : Intake) :
    List String → AnsweredAll
  | [] => ⟨[], inspector, intake⟩
  | leaf :: leaves =>
    let first := inspector.introspect lookup leaf intake
    let rest := first.inspector.introspectAll lookup first.intake leaves
    { rest with results := first.result :: rest.results }

/-- The evaluation of the rules of a leaf for a content, if there is one. -/
def validate (inspector : Inspector) (lookup : Lookup) (leaf : String) (content : Option String)
    (intake : Intake) : Answered Validation :=
  let answered := inspector.introspect lookup leaf intake
  { answered with
    result := answered.result.map fun record => record.report.analysis.validate leaf content }

end Inspector

end Lineage
