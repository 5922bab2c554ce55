import Lineage.Presentation.Structured
import Lineage.Proofs.OrderedMaps
import Mathlib.Logic.Function.Basic

/-!
# The history of a map in the order of insertion

What the steps on a map answer, and in which order the map lists its keys, can be told from the
steps alone.  The answers are those of a plain map, in which a key has the value that was written to
it last (`PlainMap.step`), and the keys come in the order in which the steps first insert them.

A map mirrors both (`OrderedMap.Mirrors`).  A new entry, a changed value and a key that is inserted
again each keep to that, hence every step does (`OrderedMap.Mirrors.step`), and hence all steps that
are made one after another (`OrderedMap.Mirrors.run`).
-/

namespace Lineage

variable {α : Type}

/-- A step on a map. -/
inductive MapStep (α : Type) where
  /-- Sets the value of a key. -/
  | insert (key : String) (value : α)
  /-- Asks for the value of a key, which is set if the key has none.  If the value is changed after
  that, this is a step of its own, which modifies it. -/
  | getOrInsert (key : String) (value : α)
  /-- Asks for the value of a key and changes it. -/
  | modify (key : String) (change : α → α)
  /-- Asks for the value of a key. -/
  | get (key : String)
  /-- Asks whether a key has a value. -/
  | contains (key : String)

/-- What a step on a map answers. -/
inductive MapAnswer (α : Type) where
  /-- The value that the key had when the step was made. -/
  | found (value : Option α)
  /-- The value that the key has in any case. -/
  | held (value : α)
  /-- Whether the key has a value. -/
  | present (isPresent : Bool)

namespace MapStep

/-- The key that has a value behind the step in any case. -/
def inserted? : MapStep α → Option String
  | .insert key _ | .getOrInsert key _ => some key
  | .modify _ _ | .get _ | .contains _ => none

/-- Makes steps one after another, and lists what they answer. -/
def run {σ : Type} (make : σ → MapStep α → MapAnswer α × σ) :
    σ → List (MapStep α) → List (MapAnswer α) × σ
  | state, [] => ([], state)
  | state, step :: steps =>
    let made := make state step
    let further := run make made.2 steps
    (made.1 :: further.1, further.2)

end MapStep

/-- A map of which only the values of the keys are known. -/
abbrev PlainMap (α : Type) :=
  String → Option α

namespace PlainMap

/-- The map in which no key has a value. -/
def empty : PlainMap α :=
  fun _ => none

/-- Makes a step on a plain map.  What is written to a key takes the place of what was there. -/
def step (values : PlainMap α) : MapStep α → MapAnswer α × PlainMap α
  | .insert key value => (.found (values key), Function.update values key (some value))
  | .getOrInsert key value =>
    let held := (values key).getD value
    (.held held, Function.update values key (some held))
  | .modify key change =>
    (.found (values key), Function.update values key ((values key).map change))
  | .get key => (.found (values key), values)
  | .contains key => (.present (values key).isSome, values)

end PlainMap

namespace OrderedMap

/-- Makes a step on a map. -/
def step (map : OrderedMap α) : MapStep α → MapAnswer α × OrderedMap α
  | .insert key value =>
    let (before, map) := map.insert key value
    (.found before, map)
  | .getOrInsert key value =>
    let (held, map) := map.getOrInsert key value
    (.held held, map)
  | .modify key change => (.found (map.get? key), map.modify key change)
  | .get key => (.found (map.get? key), map)
  | .contains key => (.present (map.contains key), map)

/-- The map has the values of a plain map, and lists the keys in the order in which they first come
among the inserted ones. -/
structure Mirrors (map : OrderedMap α) (inserted : List String) (values : PlainMap α) : Prop where
  indexed : map.Indexed
  keys : map.keys = inserted.eraseDups
  looks : ∀ key, map.get? key = values key

variable {map : OrderedMap α} {inserted : List String} {values : PlainMap α} {key : String}
  {value : α}

namespace Mirrors

theorem empty : (empty : OrderedMap α).Mirrors [] PlainMap.empty :=
  ⟨indexed_empty, rfl, get?_empty⟩

/-- A step that inserts no key adds nothing to the inserted ones. -/
theorem append_nil (mirrors : map.Mirrors inserted values) :
    map.Mirrors (inserted ++ []) values := by
  rwa [List.append_nil]

theorem mem_keys_iff (mirrors : map.Mirrors inserted values) :
    key ∈ map.keys ↔ values key ≠ none := by
  rw [← mirrors.looks, ne_eq, mirrors.indexed.get?_eq_none_iff, not_not]

theorem notMem_keys (mirrors : map.Mirrors inserted values) (unknown : values key = none) :
    key ∉ map.keys :=
  fun member => mirrors.mem_keys_iff.mp member unknown

theorem mem_keys (mirrors : map.Mirrors inserted values) (known : values key = some value) :
    key ∈ map.keys :=
  mirrors.mem_keys_iff.mpr (Option.ne_none_iff_exists'.mpr ⟨value, known⟩)

theorem contains_eq (mirrors : map.Mirrors inserted values) (key : String) :
    map.contains key = (values key).isSome := by
  rw [Bool.eq_iff_iff, mirrors.indexed.contains_iff, mirrors.mem_keys_iff,
    Option.isSome_iff_ne_none]

/-- A new entry comes last. -/
theorem push (mirrors : map.Mirrors inserted values) (unknown : values key = none) (value : α) :
    (map.push key value).Mirrors (inserted ++ [key]) (Function.update values key (some value)) := by
  have new := mirrors.notMem_keys unknown
  refine ⟨mirrors.indexed.push new value, ?_, fun other => ?_⟩
  · rw [mirrors.keys, List.mem_eraseDups] at new
    rw [keys_push, mirrors.keys, eraseDups_concat, if_neg new]
  · rw [mirrors.indexed.get?_push new, mirrors.looks, Function.update_apply]

theorem modify (mirrors : map.Mirrors inserted values) (key : String) (change : α → α) :
    (map.modify key change).Mirrors inserted
      (Function.update values key ((values key).map change)) := by
  refine ⟨mirrors.indexed.modify key change, ?_, fun other => ?_⟩
  · rw [mirrors.indexed.keys_modify, mirrors.keys]
  · rw [mirrors.indexed.get?_modify, mirrors.looks, mirrors.looks, Function.update_apply]

/-- A key that is inserted again is not listed again. -/
theorem again (mirrors : map.Mirrors inserted values) (known : values key = some value) :
    map.Mirrors (inserted ++ [key]) values := by
  have member := mirrors.mem_keys known
  rw [mirrors.keys, List.mem_eraseDups] at member
  refine ⟨mirrors.indexed, ?_, mirrors.looks⟩
  rw [mirrors.keys, eraseDups_concat, if_pos member]

/-- Both ways in which a key gets a value keep to the plain map. -/
theorem set (mirrors : map.Mirrors inserted values) (key : String) (value : α) :
    (map.set key value).Mirrors (inserted ++ [key]) (Function.update values key (some value)) := by
  cases known : values key with
  | none =>
      rw [mirrors.indexed.set_of_notMem (mirrors.notMem_keys known)]
      exact mirrors.push known value
  | some before =>
      rw [mirrors.indexed.set_of_mem (mirrors.mem_keys known)]
      -- the value is replaced where it stands, and only then the key counts as inserted again
      have changed := mirrors.modify key fun _ => value
      rw [known, Option.map_some] at changed
      exact changed.again (Function.update_self key (some value) values)

theorem getOrInsert (mirrors : map.Mirrors inserted values) (key : String) (value : α) :
    (map.getOrInsert key value).1 = (values key).getD value ∧
      (map.getOrInsert key value).2.Mirrors (inserted ++ [key])
        (Function.update values key (some ((values key).getD value))) := by
  unfold OrderedMap.getOrInsert
  rw [mirrors.looks]
  cases known : values key with
  | none => exact ⟨rfl, mirrors.push known value⟩
  | some held =>
      -- what the plain map writes is what is there
      have unchanged : Function.update values key (some held) = values := by
        rw [← known, Function.update_eq_self]
      rw [Option.getD_some, unchanged]
      exact ⟨rfl, mirrors.again known⟩

/-- A step answers what it answers on the plain map, and keeps to that map. -/
theorem step (mirrors : map.Mirrors inserted values) (step : MapStep α) :
    (map.step step).1 = (PlainMap.step values step).1 ∧
      (map.step step).2.Mirrors (inserted ++ step.inserted?.toList)
        (PlainMap.step values step).2 := by
  cases step with
  | insert key value =>
      simp only [OrderedMap.step, insert_eq, mirrors.looks]
      exact ⟨rfl, mirrors.set key value⟩
  | getOrInsert key value =>
      obtain ⟨held, kept⟩ := mirrors.getOrInsert key value
      exact ⟨congrArg MapAnswer.held held, kept⟩
  | modify key change =>
      have kept := mirrors.modify key change
      exact ⟨congrArg MapAnswer.found (mirrors.looks key), kept.append_nil⟩
  | get key => exact ⟨congrArg MapAnswer.found (mirrors.looks key), mirrors.append_nil⟩
  | contains key =>
      exact ⟨congrArg MapAnswer.present (mirrors.contains_eq key), mirrors.append_nil⟩

theorem run (mirrors : map.Mirrors inserted values) (steps : List (MapStep α)) :
    (MapStep.run OrderedMap.step map steps).1 = (MapStep.run PlainMap.step values steps).1 ∧
      (MapStep.run OrderedMap.step map steps).2.Mirrors
        (inserted ++ steps.filterMap MapStep.inserted?)
        (MapStep.run PlainMap.step values steps).2 := by
  induction steps generalizing map inserted values with
  | nil => exact ⟨rfl, mirrors.append_nil⟩
  | cons step steps ih =>
      obtain ⟨answer, kept⟩ := mirrors.step step
      obtain ⟨answers, keptOn⟩ := ih kept
      have further : inserted ++ (step :: steps).filterMap MapStep.inserted? =
          inserted ++ step.inserted?.toList ++ steps.filterMap MapStep.inserted? := by
        rw [List.append_assoc, List.filterMap_cons]
        cases step.inserted? <;> rfl
      rw [further]
      exact ⟨congrArg₂ List.cons answer answers, keptOn⟩

/-- The order of the keys that are there is never changed, and it stays as it is as long as no
further key is inserted. -/
theorem keys_run (mirrors : map.Mirrors inserted values) (later : List (MapStep α)) :
    map.keys <+: (MapStep.run OrderedMap.step map later).2.keys ∧
      ((∀ step ∈ later, ∀ key, step.inserted? = some key → key ∈ map.keys) →
        (MapStep.run OrderedMap.step map later).2.keys = map.keys) := by
  obtain ⟨_, kept⟩ := mirrors.run later
  rw [kept.keys, mirrors.keys]
  refine ⟨eraseDups_isPrefix _ _, fun known => ?_⟩
  have none : (later.filterMap MapStep.inserted?).removeAll inserted = [] := by
    rw [List.removeAll, List.filter_eq_nil_iff]
    intro key member
    obtain ⟨step, made, inserts⟩ := List.mem_filterMap.mp member
    have there := known step made key inserts
    rw [List.mem_eraseDups] at there
    simpa using there
  rw [List.eraseDups_append, none, List.eraseDups_nil, List.append_nil]

/-- The entries are the keys in the order of insertion with the values of the plain map. -/
theorem toList_eq (mirrors : map.Mirrors inserted values) :
    map.toList = inserted.eraseDups.filterMap fun key => (values key).map (key, ·) := by
  rw [← mirrors.keys, mirrors.indexed.toList_eq]
  simp only [mirrors.looks]

theorem structured_eq (mirrors : map.Mirrors inserted values) (encode : α → Json.Value) :
    map.structured encode = .object (inserted.eraseDups.filterMap fun key =>
      (values key).map fun value => (key, encode value)) := by
  rw [structured, mirrors.toList_eq, List.map_filterMap]
  simp only [Option.map_map, Function.comp_def]

end Mirrors

/-- After any steps on a map that was empty, the steps have answered what they answer on a plain
map.  No key stands twice among the entries, and the index sends a key to exactly the position at
which its entry stands.  The keys are listed in the order in which the steps first inserted them,
each with the value that the plain map has for it, and the fields of the structured map come in the
same order.  Whatever is done to the map later, the keys that are there keep that order, and they
are all the keys if no further one is inserted. -/
theorem answers_after (steps : List (MapStep α)) :
    let made := MapStep.run step empty steps
    let plain := MapStep.run PlainMap.step PlainMap.empty steps
    let map := made.2
    let inserted := (steps.filterMap MapStep.inserted?).eraseDups
    made.1 = plain.1 ∧
      map.keys.Nodup ∧
      (∀ (key : String) (position : Nat), map.index[key]? = some position ↔
        ∃ value, map.entries[position]? = some (key, value)) ∧
      map.keys = inserted ∧
      map.toList = (inserted.filterMap fun key => (plain.2 key).map (key, ·)) ∧
      (∀ encode : α → Json.Value, map.structured encode =
        .object (inserted.filterMap fun key => (plain.2 key).map fun value =>
          (key, encode value))) ∧
      ∀ later, map.keys <+: (MapStep.run step map later).2.keys ∧
        ((∀ step ∈ later, ∀ key, step.inserted? = some key → key ∈ map.keys) →
          (MapStep.run step map later).2.keys = map.keys) := by
  intro made plain map inserted
  obtain ⟨answers, mirrors⟩ := Mirrors.empty.run steps
  rw [List.nil_append] at mirrors
  exact ⟨answers, mirrors.indexed.keys_nodup, fun _ _ => mirrors.indexed.index_eq_some_iff,
    mirrors.keys, mirrors.toList_eq, mirrors.structured_eq, mirrors.keys_run⟩

end OrderedMap

end Lineage
