import Lineage.ParseCache

/-!
# What a cache of readings holds

A cache is seen through its records.  `Truthful` relates a cache to a look-up: whatever the cache
would answer for a template of the look-up is the reading of its present text.  `Faithful` relates
it to the texts that have been in use, which may be gone: every record is the reading of one of
them.  As long as no two of these texts have the same identity, a faithful cache is truthful
(`Faithful.truthful`).  Both are kept by `get`, so they hold after any number of readings.
-/

namespace Lineage

open Lineage.Template

/-- It can be decided whether an outcome is a given value. -/
instance decidableEqOk {ε α : Type} [DecidableEq α] (outcome : Except ε α) (value : α) :
    Decidable (outcome = .ok value) :=
  decidable_of_iff (outcome.toOption = some value) (by cases outcome <;> simp [Except.toOption])

/-- No two different texts of the list have the same identity. -/
def Distinguishable (texts : List String) : Prop :=
  ∀ first ∈ texts, ∀ second ∈ texts,
    contentIdentity first = contentIdentity second → first = second

theorem Distinguishable.mono {texts more : List String} (distinct : Distinguishable more)
    (subset : texts ⊆ more) : Distinguishable texts :=
  fun first firstKnown second secondKnown =>
    distinct first (subset firstKnown) second (subset secondKnown)

/-- Lists of known texts with the same identities are equal. -/
theorem Distinguishable.eq_of_map_eq {texts first second : List String}
    (distinct : Distinguishable texts) (firstKnown : first ⊆ texts) (secondKnown : second ⊆ texts)
    (same : first.map contentIdentity = second.map contentIdentity) : first = second := by
  induction first generalizing second with
  | nil => simpa using same.symm
  | cons text first ih =>
      cases second with
      | nil => simp at same
      | cons text' second =>
          rw [List.map_cons, List.map_cons, List.cons.injEq] at same
          rw [List.cons_subset] at firstKnown secondKnown
          rw [distinct text firstKnown.1 text' secondKnown.1 same.1,
            ih firstKnown.2 secondKnown.2 same.2]

namespace ParseCache

/-! ## The records after an operation -/

theorem mem_records_read {cache : ParseCache} {name : String} {source : Source}
    {record : ParseRecord} (h : record ∈ (cache.read name source).2.records) :
    record = (cache.read name source).1 ∨ record ∈ cache.records := by
  simp only [read, invalidate, List.mem_cons, List.mem_filter] at h
  rcases h with made | ⟨kept, _⟩
  · exact Or.inl made
  · exact Or.inr kept

theorem mem_records_invalidate {cache : ParseCache} {name : String} {record : ParseRecord}
    (h : record ∈ (cache.invalidate name).records) : record ∈ cache.records :=
  (List.mem_filter.mp h).1

theorem mem_of_find? {cache : ParseCache} {name : String} {record : ParseRecord}
    (h : cache.find? name = some record) : record ∈ cache.records :=
  List.mem_of_find?_eq_some h

theorem name_of_find? {cache : ParseCache} {name : String} {record : ParseRecord}
    (h : cache.find? name = some record) : record.name = name := by
  simpa using List.find?_some h

theorem find?_invalidate (cache : ParseCache) (name other : String) :
    (cache.invalidate name).find? other = if other = name then none else cache.find? other := by
  rw [find?, invalidate, List.find?_filter]
  split
  · rename_i same
    rw [List.find?_eq_none]
    simp [same]
  · rename_i different
    rw [find?]
    congr 1
    funext record
    by_cases named : record.name = other
    · simp [named, different]
    · simp [named]

theorem find?_read (cache : ParseCache) (name other : String) (source : Source) :
    (cache.read name source).2.find? other =
      if other = name then some (cache.read name source).1 else cache.find? other := by
  have behind := cache.find?_invalidate name other
  split
  · rename_i same
    simp [read, find?, same]
  · rename_i different
    have differs : (name == other) = false := by simpa using Ne.symm different
    rw [if_neg different] at behind
    rw [← behind]
    simp only [read, find?, List.find?_cons, differs]

/-- A reading is answered by a record of the same identity, or else made. -/
theorem get_cases (cache : ParseCache) (name : String) (source : Source) :
    (∃ record, cache.find? name = some record ∧ record.identity = source.identity ∧
      cache.get name source = (record, { cache with hits := cache.hits + 1 })) ∨
    ((∀ record, cache.find? name = some record → record.identity ≠ source.identity) ∧
      cache.get name source = cache.read name source) := by
  unfold get
  cases found : cache.find? name with
  | none => exact Or.inr ⟨by simp, rfl⟩
  | some record =>
      by_cases same : record.identity = source.identity
      · exact Or.inl ⟨record, rfl, same, if_pos same⟩
      · refine Or.inr ⟨?_, if_neg same⟩
        intro other equal
        rw [← Option.some.inj equal]
        exact same

theorem get_of_find? {cache : ParseCache} {name : String} {source : Source} {record : ParseRecord}
    (found : cache.find? name = some record) (same : record.identity = source.identity) :
    cache.get name source = (record, { cache with hits := cache.hits + 1 }) := by
  rw [get, found]
  exact if_pos same

theorem identity_get (cache : ParseCache) (name : String) (source : Source) :
    (cache.get name source).1.identity = source.identity := by
  rcases cache.get_cases name source with ⟨record, _, same, answered⟩ | ⟨_, answered⟩
  · rw [answered, same]
  · rw [answered]
    rfl

/-- The record that was asked for last is the one for its name. -/
theorem find?_get (cache : ParseCache) (name other : String) (source : Source) :
    (cache.get name source).2.find? other =
      if other = name then some (cache.get name source).1 else cache.find? other := by
  rcases cache.get_cases name source with ⟨record, found, _, answered⟩ | ⟨_, answered⟩
  · rw [answered]
    split
    · rename_i same
      rw [same]
      exact found
    · rfl
  · rw [answered]
    exact cache.find?_read name other source

/-- How often the cache has been asked for a reading. -/
def asked (cache : ParseCache) : Nat :=
  cache.parses + cache.hits

theorem asked_get (cache : ParseCache) (name : String) (source : Source) :
    (cache.get name source).2.asked = cache.asked + 1 := by
  rcases cache.get_cases name source with ⟨record, _, _, answered⟩ | ⟨_, answered⟩
  · rw [answered, asked, asked, Nat.add_assoc]
  · rw [answered, read, asked, asked, Nat.add_right_comm]

/-! ## Caches whose records are readings of known texts -/

/-- Every record of the cache is the reading of one of the texts. -/
def Faithful (cache : ParseCache) (texts : List String) : Prop :=
  ∀ record ∈ cache.records, ∃ text ∈ texts,
    record.identity = contentIdentity text ∧
      record.outcome = Parsed.ofTemplate record.name text.toList

variable {cache : ParseCache} {texts more : List String}

theorem faithful_empty (texts : List String) : empty.Faithful texts := by
  intro record member
  simp [empty] at member

theorem Faithful.mono (faithful : cache.Faithful texts) (subset : texts ⊆ more) :
    cache.Faithful more := by
  intro record member
  obtain ⟨text, known, reading⟩ := faithful record member
  exact ⟨text, subset known, reading⟩

theorem Faithful.invalidate (faithful : cache.Faithful texts) (name : String) :
    (cache.invalidate name).Faithful texts :=
  fun record member => faithful record (mem_records_invalidate member)

/-- A reading of one of the texts leaves a faithful cache faithful. -/
theorem Faithful.get (faithful : cache.Faithful texts) (name : String) {source : Source}
    (known : source.text ∈ texts) : (cache.get name source).2.Faithful texts := by
  rcases cache.get_cases name source with ⟨record, _, _, answered⟩ | ⟨_, answered⟩
  · rw [answered]
    exact faithful
  · rw [answered]
    intro record member
    rcases mem_records_read member with rfl | old
    · exact ⟨source.text, known, source.identity_eq, rfl⟩
    · exact faithful record old

/-! ## Caches that answer as a reading would -/

/-- What the cache would answer for a template of the look-up is the reading of its text. -/
def Truthful (cache : ParseCache) (lookup : Lookup) : Prop :=
  ∀ name source record, lookup name = .ok (some source) → cache.find? name = some record →
    record.identity = source.identity →
      record.outcome = Parsed.ofTemplate name source.text.toList

variable {lookup : Lookup}

theorem truthful_empty (lookup : Lookup) : empty.Truthful lookup := by
  intro name source record _ found
  simp [empty, find?] at found

/-- A truthful cache answers with the reading of the text. -/
theorem Truthful.get_outcome (truthful : cache.Truthful lookup) {name : String} {source : Source}
    (looked : lookup name = .ok (some source)) :
    (cache.get name source).1.outcome = Parsed.ofTemplate name source.text.toList := by
  rcases cache.get_cases name source with ⟨record, found, same, answered⟩ | ⟨_, answered⟩
  · rw [answered]
    exact truthful name source record looked found same
  · rw [answered]
    rfl

/-- A reading of a template of the look-up leaves a truthful cache truthful. -/
theorem Truthful.get (truthful : cache.Truthful lookup) {name : String} {source : Source}
    (looked : lookup name = .ok (some source)) :
    (cache.get name source).2.Truthful lookup := by
  rcases cache.get_cases name source with ⟨record, _, _, answered⟩ | ⟨_, answered⟩
  · rw [answered]
    exact truthful
  · rw [answered]
    intro other text record lookedOther found same
    rw [find?_read] at found
    split at found
    · rename_i equal
      subst equal
      have sources : source = text := by simpa [looked] using lookedOther
      rw [← Option.some.inj found, ← sources]
      rfl
    · exact truthful other text record lookedOther found same

/-- A faithful cache is truthful for look-ups that find only the known texts, if these have
different identities. -/
theorem Faithful.truthful (faithful : cache.Faithful texts) (distinct : Distinguishable texts)
    (known : ∀ name source, lookup name = .ok (some source) → source.text ∈ texts) :
    cache.Truthful lookup := by
  intro name source record looked found same
  obtain ⟨text, textKnown, identity, outcome⟩ := faithful record (mem_of_find? found)
  have texts_eq : text = source.text :=
    distinct text textKnown source.text (known name source looked)
      (identity.symm.trans (same.trans source.identity_eq))
  rw [outcome, name_of_find? found, texts_eq]

end ParseCache

end Lineage
