import Lineage.Source

/-!
# Cached readings of templates

Reading the same text under the same name again gives the outcome of the first reading, be it a
structure or a failure.  A reading of another text under a name takes the place of the one before,
so the cache holds one record for a name at most.
-/

namespace Lineage

open Lineage.Template

/-- The outcome of a reading. -/
structure ParseRecord where
  name : String
  identity : String
  /-- The number of the readings before this one. -/
  serial : Nat
  outcome : Except Failure Parsed

/-- The records of the last readings, and how often a text was read and found. -/
structure ParseCache where
  records : List ParseRecord
  parses : Nat
  hits : Nat

namespace ParseCache

/-- The cache that has not been used. -/
def empty : ParseCache :=
  ⟨[], 0, 0⟩

/-- The record for a name. -/
def find? (cache : ParseCache) (name : String) : Option ParseRecord :=
  cache.records.find? (·.name == name)

/-- The number of records. -/
def size (cache : ParseCache) : Nat :=
  cache.records.length

/-- The cache without the record for a name. -/
def invalidate (cache : ParseCache) (name : String) : ParseCache :=
  { cache with records := cache.records.filter (·.name != name) }

/-- Reads a text under a name and records the outcome. -/
def read (cache : ParseCache) (name : String) (source : Source) : ParseRecord × ParseCache :=
  let record : ParseRecord :=
    ⟨name, source.identity, cache.parses, Parsed.ofTemplate name source.text.toList⟩
  (record, ⟨record :: (cache.invalidate name).records, cache.parses + 1, cache.hits⟩)

/-- The record for a text under a name, which is made if there is none. -/
def get (cache : ParseCache) (name : String) (source : Source) : ParseRecord × ParseCache :=
  match cache.find? name with
  | some record =>
    if record.identity = source.identity then (record, { cache with hits := cache.hits + 1 })
    else cache.read name source
  | none => cache.read name source

end ParseCache

end Lineage
