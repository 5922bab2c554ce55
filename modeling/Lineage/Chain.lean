import Lineage.ParseCache

/-!
# Chains of inheritance

The chain of a leaf is found by following the parents from the leaf on, until a template has none.
It is listed from the root to the leaf.  The walk is given up when a name comes up again, when it
has visited as many templates as it may, and when a template is missing or cannot be read.
-/

namespace Lineage

open Lineage.Template

/-- A template of a chain. -/
structure Tier where
  name : String
  source : Source
  parsed : Parsed

/-- The parent that a template names. -/
def Tier.parent (tier : Tier) : Option String :=
  tier.parsed.parent

/-- Templates of which each one but the first extends the one before. -/
structure Chain where
  /-- The templates from the root to the leaf. -/
  tiers : List Tier
  tiers_ne_nil : tiers ≠ []

namespace Chain

/-- The template without a parent. -/
def root (chain : Chain) : Tier :=
  chain.tiers.head chain.tiers_ne_nil

/-- The template whose chain it is. -/
def leaf (chain : Chain) : Tier :=
  chain.tiers.getLast chain.tiers_ne_nil

/-- The number of templates. -/
def size (chain : Chain) : Nat :=
  chain.tiers.length

/-- The names of the templates from the root to the leaf. -/
def names (chain : Chain) : List String :=
  chain.tiers.map (·.name)

/-- The identities of the texts from the root to the leaf. -/
def identities (chain : Chain) : List String :=
  chain.tiers.map (·.source.identity)

/-- A template of a chain as a report shows it. -/
structure Link where
  template : String
  parent : Option String
  identity : String
deriving DecidableEq, Repr

/-- The templates as a report shows them. -/
def links (chain : Chain) : List Link :=
  chain.tiers.map fun tier => ⟨tier.name, tier.parent, tier.source.identity⟩

end Chain

/-- What has been used up to find chains: the number of look-ups, and the readings. -/
structure Intake where
  fetches : Nat
  parses : ParseCache

/-- The intake of a walk that has not begun. -/
def Intake.empty : Intake :=
  ⟨0, .empty⟩

/-- Counts a look-up. -/
def Intake.fetch (intake : Intake) : Intake :=
  { intake with fetches := intake.fetches + 1 }

/-- Reads a text under a name. -/
def Intake.parse (intake : Intake) (name : String) (source : Source) : ParseRecord × Intake :=
  let (record, parses) := intake.parses.get name source
  (record, { intake with parses })

/-- A request for the chain of a leaf. -/
structure Resolution where
  lookup : Lookup
  leaf : String
  maxDepth : Nat

namespace Resolution

/-- The failure of a walk that needs a template which is missing.  `below` are the templates that it
has visited, the last one first. -/
def missing (below : List Tier) (name : String) : Failure :=
  match below with
  | [] => .templateNotFound name
  | tier :: _ => .missingAncestor name tier.name

/-- The failure of a walk that has come to a template which it has visited. -/
def cycle (below : List Tier) (name : String) : Failure :=
  .cyclicInheritance ((below.map (·.name)).reverse ++ [name])

/-- Walks on to the template `name`.  At most `remaining` more templates may be visited. -/
def climb (resolution : Resolution) (remaining : Nat) (name : String) (below : List Tier)
    (intake : Intake) : Except Failure Chain × Intake :=
  if below.any (·.name == name) then (.error (cycle below name), intake)
  else
    match remaining with
    | 0 => (.error (.excessiveDepth resolution.leaf resolution.maxDepth), intake)
    | remaining + 1 =>
      match resolution.lookup name with
      | .error failure => (.error failure, intake.fetch)
      | .ok none => (.error (missing below name), intake.fetch)
      | .ok (some source) =>
        let (record, intake) := intake.fetch.parse name source
        match record.outcome with
        | .error failure => (.error failure, intake)
        | .ok parsed =>
          let tiers := ⟨name, source, parsed⟩ :: below
          match parsed.parent with
          | some parent => resolution.climb remaining parent tiers intake
          | none => (.ok ⟨tiers, List.cons_ne_nil _ _⟩, intake)

/-- Finds the chain of the leaf. -/
def run (resolution : Resolution) (intake : Intake) : Except Failure Chain × Intake :=
  resolution.climb resolution.maxDepth resolution.leaf [] intake

end Resolution

end Lineage
