import Lineage.Samples
import Lineage.Proofs.Readings
import Mathlib.Data.List.Induction
import Mathlib.Data.List.Nodup

/-!
# The history of a cache of readings

What a cache answers can be told from the steps that were made on it, without the cache.  A reading
is recalled by a step as long as every step behind that one spares it (`ParseCache.Recalls`), and a
cache answers without a reading exactly if some earlier step recalls the text.  What the records of
a cache are after one more step is said by `ParseCache.find?_get` and `ParseCache.find?_invalidate`;
the induction goes from the last step of the history backwards, since that one decides first.
-/

namespace Lineage

open Lineage.Template

/-- A step on a cache of readings. -/
inductive CacheStep where
  /-- Asks for the reading of a text under a name. -/
  | get (name text : String)
  /-- Gives up what is recorded for a name. -/
  | invalidate (name : String)
deriving DecidableEq, Repr

namespace CacheStep

/-- The text that a step asks for. -/
def text? : CacheStep → Option String
  | .get _ text => some text
  | .invalidate _ => none

/-- Whether the step asks for a reading. -/
def isGet : CacheStep → Bool
  | .get _ _ => true
  | .invalidate _ => false

/-- The step neither gives up the name nor asks for another text under it. -/
def Spares (name text : String) : CacheStep → Prop
  | .get other written => other = name → written = text
  | .invalidate other => other ≠ name

instance decidableSpares (name text : String) (step : CacheStep) :
    Decidable (step.Spares name text) := by
  cases step <;> unfold Spares <;> infer_instance

end CacheStep

namespace ParseCache

/-- The cache after a step. -/
def step (cache : ParseCache) : CacheStep → ParseCache
  | .get name text => (cache.get name (Source.ofText text)).2
  | .invalidate name => cache.invalidate name

/-- The cache after steps, one after another. -/
def after (cache : ParseCache) (steps : List CacheStep) : ParseCache :=
  steps.foldl step cache

/-- Behind the steps `earlier` the step `made` comes next, and those behind it keep to `kept`. -/
def LastsFrom (kept : CacheStep → Prop) (steps earlier : List CacheStep) (made : CacheStep) : Prop :=
  ∃ between, steps = earlier ++ made :: between ∧ ∀ step ∈ between, kept step

/-- The steps ask for the text under the name behind the steps `earlier`, and spare its reading from
there on. -/
def Recalls (steps earlier : List CacheStep) (name text : String) : Prop :=
  LastsFrom (·.Spares name text) steps earlier (.get name text)

/-- Some text is asked for under the name, which is not given up behind that. -/
def IsInUse (steps : List CacheStep) (name : String) : Prop :=
  ∃ earlier text, LastsFrom (· ≠ .invalidate name) steps earlier (.get name text)

/-! ## One more step -/

section Concat

variable {kept : CacheStep → Prop} {steps earlier : List CacheStep} {last made : CacheStep}
  {name text : String}

theorem after_concat (cache : ParseCache) (steps : List CacheStep) (last : CacheStep) :
    cache.after (steps ++ [last]) = (cache.after steps).step last :=
  List.foldl_concat _ _ _ _

theorem lastsFrom_concat_iff :
    LastsFrom kept (steps ++ [last]) earlier made ↔
      (earlier = steps ∧ made = last) ∨ (LastsFrom kept steps earlier made ∧ kept last) := by
  constructor
  · rintro ⟨between, split, spared⟩
    rcases between.eq_nil_or_concat with rfl | ⟨middle, other, rfl⟩
    · obtain ⟨rfl, same⟩ := List.append_inj' split rfl
      exact Or.inl ⟨rfl, (List.singleton_inj.mp same).symm⟩
    · rw [List.concat_eq_append, ← List.cons_append, ← List.append_assoc] at split
      obtain ⟨rfl, same⟩ := List.append_inj' split rfl
      obtain rfl := List.singleton_inj.mp same
      simp only [List.concat_eq_append, List.forall_mem_append, List.forall_mem_singleton] at spared
      exact Or.inr ⟨⟨middle, rfl, spared.1⟩, spared.2⟩
  · rintro (⟨rfl, rfl⟩ | ⟨⟨between, rfl, spared⟩, keeps⟩)
    · exact ⟨[], rfl, by simp⟩
    · refine ⟨between ++ [last], by simp, ?_⟩
      exact List.forall_mem_append.mpr ⟨spared, List.forall_mem_singleton.mpr keeps⟩

theorem recalls_concat_iff :
    Recalls (steps ++ [last]) earlier name text ↔
      (earlier = steps ∧ .get name text = last) ∨
        (Recalls steps earlier name text ∧ last.Spares name text) :=
  lastsFrom_concat_iff

theorem isInUse_concat_iff :
    IsInUse (steps ++ [last]) name ↔
      (∃ text, .get name text = last) ∨ (IsInUse steps name ∧ last ≠ .invalidate name) := by
  simp only [IsInUse, lastsFrom_concat_iff]
  constructor
  · rintro ⟨earlier, text, ⟨_, made⟩ | ⟨lasts, spares⟩⟩
    · exact Or.inl ⟨text, made⟩
    · exact Or.inr ⟨⟨earlier, text, lasts⟩, spares⟩
  · rintro (⟨text, made⟩ | ⟨⟨earlier, text, lasts⟩, spares⟩)
    · exact ⟨steps, text, Or.inl ⟨rfl, made⟩⟩
    · exact ⟨earlier, text, Or.inr ⟨lasts, spares⟩⟩

end Concat

/-! ## What a cache recalls -/

section History

variable {steps earlier : List CacheStep} {name text : String}

/-- The record for a name is the one with which the step that recalls it was answered. -/
theorem Recalls.find?_after (recalls : Recalls steps earlier name text) :
    (empty.after steps).find? name =
      some ((empty.after earlier).get name (Source.ofText text)).1 := by
  induction steps using List.reverseRecOn with
  | nil =>
      obtain ⟨between, split, _⟩ := recalls
      simp at split
  | append_singleton steps last ih =>
      rw [after_concat]
      rcases recalls_concat_iff.mp recalls with ⟨rfl, rfl⟩ | ⟨before, spares⟩
      · rw [step, find?_get, if_pos rfl]
      · have found := ih before
        cases last with
        | get other written =>
            rw [step, find?_get]
            split
            · rename_i same
              obtain rfl := spares same.symm
              -- the text is asked for again, and the record answers
              rw [← same, get_of_find? found (identity_get _ _ _)]
            · exact found
        | invalidate other =>
            rw [step, find?_invalidate, if_neg (Ne.symm spares), found]

/-- What is recorded is recalled by some step. -/
theorem exists_recalls_of_find? {record : ParseRecord}
    (found : (empty.after steps).find? name = some record) :
    ∃ earlier text, Recalls steps earlier name text := by
  induction steps using List.reverseRecOn with
  | nil => cases found
  | append_singleton steps last ih =>
      simp only [recalls_concat_iff]
      rw [after_concat] at found
      cases last with
      | get other written =>
          by_cases same : name = other
          · exact ⟨steps, written, Or.inl ⟨rfl, by rw [same]⟩⟩
          · rw [step, find?_get, if_neg same] at found
            obtain ⟨earlier, text, recalls⟩ := ih found
            exact ⟨earlier, text, Or.inr ⟨recalls, fun named => absurd named.symm same⟩⟩
      | invalidate other =>
          by_cases same : name = other
          · rw [step, find?_invalidate, if_pos same] at found
            cases found
          · rw [step, find?_invalidate, if_neg same] at found
            obtain ⟨earlier, text, recalls⟩ := ih found
            exact ⟨earlier, text, Or.inr ⟨recalls, Ne.symm same⟩⟩

theorem isSome_find?_after_iff :
    ((empty.after steps).find? name).isSome = true ↔ IsInUse steps name := by
  induction steps using List.reverseRecOn with
  | nil =>
      constructor
      · intro found
        cases found
      · rintro ⟨earlier, text, between, split, _⟩
        simp at split
  | append_singleton steps last ih =>
      rw [after_concat, isInUse_concat_iff, ← ih]
      cases last with
      | get other written =>
          rw [step, find?_get]
          by_cases same : name = other
          · simp [same]
          · simp [same]
      | invalidate other =>
          rw [step, find?_invalidate]
          by_cases same : name = other
          · simp [same]
          · simp [same, Ne.symm same]

/-- The text that a step recalls is one of those that were asked for. -/
theorem Recalls.text_mem (recalls : Recalls steps earlier name text) :
    text ∈ steps.filterMap CacheStep.text? := by
  obtain ⟨between, rfl, _⟩ := recalls
  simp [CacheStep.text?]

/-! ## What the records are -/

theorem faithful_after (steps : List CacheStep) :
    (empty.after steps).Faithful (steps.filterMap CacheStep.text?) := by
  induction steps using List.reverseRecOn with
  | nil => exact faithful_empty []
  | append_singleton steps last ih =>
      rw [after_concat, List.filterMap_append]
      have wider := ih.mono (List.subset_append_left _ ([last].filterMap CacheStep.text?))
      cases last with
      | get name text => exact wider.get name (by simp [CacheStep.text?, Source.ofText])
      | invalidate name => exact wider.invalidate name

/-- A cache has been asked as often as a step has asked it. -/
theorem asked_after (steps : List CacheStep) :
    (empty.after steps).asked = steps.countP CacheStep.isGet := by
  induction steps using List.reverseRecOn with
  | nil => rfl
  | append_singleton steps last ih =>
      rw [after_concat, List.countP_append, ← ih]
      cases last with
      | get name text => exact asked_get _ _ _
      | invalidate name => rfl

theorem mem_names_iff {cache : ParseCache} :
    name ∈ cache.records.map (·.name) ↔ (cache.find? name).isSome = true := by
  simp [find?]

theorem invalidate_names_nodup {cache : ParseCache}
    (distinct : (cache.records.map (·.name)).Nodup) (name : String) :
    ((cache.invalidate name).records.map (·.name)).Nodup :=
  distinct.sublist (List.filter_sublist.map _)

/-- A name has one record at most. -/
theorem after_names_nodup (steps : List CacheStep) :
    ((empty.after steps).records.map (·.name)).Nodup := by
  induction steps using List.reverseRecOn with
  | nil => exact List.nodup_nil
  | append_singleton steps last ih =>
      rw [after_concat]
      cases last with
      | get name text =>
          rw [step]
          rcases (empty.after steps).get_cases name (Source.ofText text) with
            ⟨_, _, _, answered⟩ | ⟨_, answered⟩
          · rw [answered]
            exact ih
          · rw [answered, read, List.map_cons, List.nodup_cons]
            refine ⟨?_, invalidate_names_nodup ih name⟩
            rw [mem_names_iff, find?_invalidate, if_pos rfl]
            simp
      | invalidate name => exact invalidate_names_nodup ih name

end History

/-- After any steps on a cache, a text that is asked for under a name gets what its reading gives, be
that a structure or a failure.  It is answered without a reading exactly if an earlier step asked for
the same text under the same name, and no step behind that gave up the name or asked for another
text under it.  The answer is then the very record with which that step was answered, and only a hit
is counted.  Every step that asked was either a reading or a hit.  The cache holds one record for
each name that was asked for and not given up behind that, and no other.  No two different texts
that are asked for may have the same identity. -/
theorem get_after (steps : List CacheStep) (name text : String)
    (distinct : Distinguishable (text :: steps.filterMap CacheStep.text?)) :
    let cache := empty.after steps
    let answered := cache.get name (Source.ofText text)
    answered.1.outcome = Parsed.ofTemplate name text.toList ∧
      (answered.2.parses = cache.parses ↔ ∃ earlier, Recalls steps earlier name text) ∧
      (∀ earlier, Recalls steps earlier name text →
        answered = (((empty.after earlier).get name (Source.ofText text)).1,
          { cache with hits := cache.hits + 1 })) ∧
      cache.parses + cache.hits = steps.countP CacheStep.isGet ∧
      (cache.records.map (·.name)).Nodup ∧
      ∀ other, other ∈ cache.records.map (·.name) ↔ IsInUse steps other := by
  intro cache answered
  have answers : ∀ earlier, Recalls steps earlier name text →
      answered = (((empty.after earlier).get name (Source.ofText text)).1,
        { cache with hits := cache.hits + 1 }) := fun earlier recalls =>
    get_of_find? recalls.find?_after (identity_get _ _ _)
  refine ⟨?_, ⟨?_, ?_⟩, answers, asked_after steps, after_names_nodup steps, ?_⟩
  · have known : cache.Faithful (text :: steps.filterMap CacheStep.text?) :=
      (faithful_after steps).mono (List.subset_cons_self _ _)
    have truthful : cache.Truthful fun _ => .ok (some (Source.ofText text)) := by
      apply known.truthful distinct
      rintro _ _ ⟨⟩
      exact List.mem_cons_self
    exact truthful.get_outcome rfl
  · intro unread
    rcases cache.get_cases name (Source.ofText text) with ⟨record, found, same, _⟩ | ⟨_, made⟩
    · obtain ⟨earlier, written, recalls⟩ := exists_recalls_of_find? found
      rw [Option.some.inj (found.symm.trans recalls.find?_after), identity_get] at same
      have texts : written = text :=
        distinct written (List.mem_cons_of_mem _ recalls.text_mem) text List.mem_cons_self same
      exact ⟨earlier, texts ▸ recalls⟩
    · have parses : answered.2.parses = cache.parses + 1 := congrArg (·.2.parses) made
      omega
  · rintro ⟨earlier, recalls⟩
    rw [answers earlier recalls]
  · intro other
    rw [mem_names_iff, isSome_find?_after_iff]

/-- A text that cannot be read is asked for again, behind steps on other names.  The text under `a`
was there before, but another one came between. -/
theorem get_after_failure :
    let broken := Sample.tag "if"
    let steps := [CacheStep.get "a" broken, .get "bad" broken, .get "a" "two", .invalidate "a",
      .get "b" "two", .get "a" "two"]
    Distinguishable (broken :: steps.filterMap CacheStep.text?) ∧
      Recalls steps [.get "a" broken] "bad" broken ∧
      (empty.after steps).get "bad" (Source.ofText broken) =
        (((empty.after [.get "a" broken]).get "bad" (Source.ofText broken)).1,
          { empty.after steps with hits := (empty.after steps).hits + 1 }) ∧
      ((empty.after steps).get "a" (Source.ofText broken)).2.parses ≠ (empty.after steps).parses ∧
      (empty.after steps).parses + (empty.after steps).hits = 5 := by
  intro broken steps
  have distinct : Distinguishable (broken :: steps.filterMap CacheStep.text?) := by
    unfold Distinguishable
    decide +kernel
  have recalls : Recalls steps [.get "a" broken] "bad" broken := by
    refine ⟨[.get "a" "two", .invalidate "a", .get "b" "two", .get "a" "two"], rfl, ?_⟩
    decide
  have replaced : ¬ ∃ earlier, Recalls steps earlier "a" broken := by
    rintro ⟨earlier, recalls⟩
    have atEnd : Recalls (steps.dropLast ++ [.get "a" "two"]) earlier "a" broken := recalls
    rcases recalls_concat_iff.mp atEnd with ⟨_, same⟩ | ⟨_, spares⟩
    · exact absurd same (by decide)
    · exact absurd (spares rfl) (by decide)
  obtain ⟨_, _, again, asked, _⟩ := get_after steps "bad" broken distinct
  obtain ⟨_, unread, _⟩ := get_after steps "a" broken distinct
  exact ⟨distinct, recalls, again _ recalls, mt unread.mp replaced, asked⟩

end ParseCache

end Lineage
