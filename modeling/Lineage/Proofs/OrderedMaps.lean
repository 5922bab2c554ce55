import Lineage.OrderedMap
import Mathlib.Data.List.Induction
import Mathlib.Data.List.Nodup

/-!
# Maps in the order of insertion as lists of entries

A map is read through its list of entries.  The invariant is that its index sends each key to the
one position at which the key stands (`OrderedMap.Indexed`).  It holds of the empty map and is kept
by every operation.  Under it no key stands twice, a look-up finds the value that stands with the
key, and setting a value changes that key only: a key that is there stays where it is, and a new one
comes last.  So of values that are set one after the other the last one with a key counts, and the
keys come in the order in which they were first set (`OrderedMap.foldl_set_empty`).
-/

namespace Lineage

/-! ## Names in the order in which they come first -/

/-- A further name is listed if it has not come before. -/
theorem eraseDups_concat (names : List String) (name : String) :
    (names ++ [name]).eraseDups =
      if name ∈ names then names.eraseDups else names.eraseDups ++ [name] := by
  rw [List.eraseDups_append]
  split
  · rename_i member
    simp [List.removeAll, member]
  · rename_i new
    simp [List.removeAll, new, List.eraseDups_cons]

/-- Further names come behind those that are listed. -/
theorem eraseDups_isPrefix (first second : List String) :
    first.eraseDups <+: (first ++ second).eraseDups := by
  rw [List.eraseDups_append]
  exact List.prefix_append _ _

/-- Of items with different names at most one has a given name. -/
theorem filter_of_nodup {α : Type} {items : List α} {key : α → String}
    (distinct : (items.map key).Nodup) (name : String) :
    items.filter (key · = name) = (items.find? (key · = name)).toList := by
  induction items with
  | nil => rfl
  | cons item items ih =>
      rw [List.map_cons, List.nodup_cons] at distinct
      by_cases named : key item = name
      · have others : items.filter (key · = name) = [] := by
          rw [List.filter_eq_nil_iff]
          intro other member same
          have equal : key other = key item := (of_decide_eq_true same).trans named.symm
          exact distinct.1 (equal ▸ List.mem_map_of_mem member)
        rw [List.filter_cons_of_pos (by simpa using named), others,
          List.find?_cons_of_pos (by simpa using named), Option.toList_some]
      · rw [List.filter_cons_of_neg (by simpa using named), ih distinct.2,
          List.find?_cons_of_neg (by simpa using named)]

namespace OrderedMap

variable {α β : Type} {map : OrderedMap α} {key : String} {value : α}

/-! ## The index -/

/-- The index sends each key to the position at which the key stands, and has no other keys. -/
def Indexed (map : OrderedMap α) : Prop :=
  ∀ (key : String) (position : Nat),
    map.index[key]? = some position ↔ map.keys[position]? = some key

theorem indexed_empty : (empty : OrderedMap α).Indexed := by
  intro key position
  simp [empty, keys, toList]

theorem get?_empty (key : String) : (empty : OrderedMap α).get? key = none := by
  simp [empty, get?]

namespace Indexed

theorem index_eq_none_iff (indexed : map.Indexed) : map.index[key]? = none ↔ key ∉ map.keys := by
  rw [Option.eq_none_iff_forall_ne_some, List.mem_iff_getElem?, not_exists]
  exact forall_congr' fun position => not_congr (indexed key position)

/-- The index sends a key to the position of its entry. -/
theorem index_eq_some_iff (indexed : map.Indexed) {position : Nat} :
    map.index[key]? = some position ↔ ∃ value, map.entries[position]? = some (key, value) := by
  rw [indexed key position, keys, List.getElem?_map, Option.map_eq_some_iff, toList,
    Array.getElem?_toList]
  constructor
  · rintro ⟨⟨_, value⟩, entryAt, rfl⟩
    exact ⟨value, entryAt⟩
  · rintro ⟨value, entryAt⟩
    exact ⟨(key, value), entryAt, rfl⟩

theorem contains_iff (indexed : map.Indexed) : map.contains key = true ↔ key ∈ map.keys := by
  rw [← not_iff_not, ← indexed.index_eq_none_iff, contains,
    Std.HashMap.contains_eq_isSome_getElem?]
  simp

theorem keys_nodup (indexed : map.Indexed) : map.keys.Nodup := by
  rw [List.nodup_iff_injective_getElem]
  intro first second same
  have one := (indexed map.keys[first.val] first).mpr (List.getElem?_eq_getElem first.isLt)
  have other := (indexed map.keys[second.val] second).mpr (List.getElem?_eq_getElem second.isLt)
  dsimp only at same
  rw [same] at one
  exact Fin.ext (Option.some.inj (one.symm.trans other))

/-- A look-up finds the value that stands with the key. -/
theorem get?_eq_some_iff (indexed : map.Indexed) :
    map.get? key = some value ↔ (key, value) ∈ map.toList := by
  rw [get?, Option.bind_eq_some_iff, List.mem_iff_getElem?]
  constructor
  · rintro ⟨position, place, found⟩
    obtain ⟨entry, entryAt, rfl⟩ := Option.map_eq_some_iff.mp found
    have keyAt := (indexed key position).mp place
    rw [← Array.getElem?_toList] at entryAt
    rw [keys, toList, List.getElem?_map, entryAt, Option.map_some, Option.some.injEq] at keyAt
    exact ⟨position, by rw [toList, entryAt, ← keyAt]⟩
  · rintro ⟨position, entryAt⟩
    refine ⟨position, (indexed key position).mpr ?_, ?_⟩
    · rw [keys, List.getElem?_map, entryAt, Option.map_some]
    · rw [← Array.getElem?_toList, ← toList, entryAt, Option.map_some]

theorem get?_eq_none_iff (indexed : map.Indexed) : map.get? key = none ↔ key ∉ map.keys := by
  rw [Option.eq_none_iff_forall_ne_some, keys, List.mem_map, not_exists]
  constructor
  · rintro absent ⟨other, found⟩ ⟨member, rfl⟩
    exact absent found (indexed.get?_eq_some_iff.mpr member)
  · intro absent found look
    exact absent (key, found) ⟨indexed.get?_eq_some_iff.mp look, rfl⟩

/-- The entries are the keys with what a look-up finds for them. -/
theorem toList_eq (indexed : map.Indexed) :
    map.toList = map.keys.filterMap fun key => (map.get? key).map (key, ·) := by
  have found : ∀ entry ∈ map.toList, (map.get? entry.1).map (entry.1, ·) = some entry := by
    intro entry member
    rw [indexed.get?_eq_some_iff.mpr member, Option.map_some]
  rw [keys, List.filterMap_map]
  exact ((List.filterMap_congr found).trans List.filterMap_some).symm

/-- Values that carry their keys are listed in the order of the keys. -/
theorem map_values (indexed : map.Indexed) {name : α → String}
    (named : ∀ key value, map.get? key = some value → name value = key) :
    map.values.map name = map.keys := by
  rw [values, keys, List.map_map]
  apply List.map_congr_left
  intro entry member
  exact named entry.1 entry.2 (indexed.get?_eq_some_iff.mpr member)

/-- Values that carry their keys are found by what they carry. -/
theorem mem_values_iff (indexed : map.Indexed) {name : α → String}
    (named : ∀ key value, map.get? key = some value → name value = key) :
    value ∈ map.values ↔ map.get? (name value) = some value := by
  rw [values, List.mem_map]
  constructor
  · rintro ⟨⟨key, value⟩, member, rfl⟩
    have found := indexed.get?_eq_some_iff.mpr member
    rwa [named key value found]
  · intro found
    exact ⟨_, indexed.get?_eq_some_iff.mp found, rfl⟩

end Indexed

/-! ## Adding and changing entries -/

theorem toList_push (map : OrderedMap α) (key : String) (value : α) :
    (map.push key value).toList = map.toList ++ [(key, value)] :=
  Array.toList_push

theorem keys_push (map : OrderedMap α) (key : String) (value : α) :
    (map.push key value).keys = map.keys ++ [key] := by
  rw [keys, toList_push, List.map_append, List.map_singleton, ← keys]

theorem Indexed.push (indexed : map.Indexed) (new : key ∉ map.keys) (value : α) :
    (map.push key value).Indexed := by
  intro other position
  have size : map.entries.size = map.keys.length := by simp [keys, toList]
  rw [keys_push, OrderedMap.push, Std.HashMap.getElem?_insert, size, List.getElem?_append]
  by_cases same : key = other
  · subst same
    rw [if_pos (beq_self_eq_true key), Option.some.injEq]
    split
    · rename_i before
      constructor
      · omega
      · intro found
        exact absurd (List.mem_of_getElem? found) new
    · rename_i notBefore
      rw [List.getElem?_singleton]
      split
      · simp only [iff_true]
        omega
      · simp only [reduceCtorEq, iff_false]
        omega
  · rw [if_neg (by simpa using same), indexed other position]
    split
    · exact Iff.rfl
    · rename_i notBefore
      rw [List.getElem?_eq_none (by omega), List.getElem?_singleton]
      split <;> simp [same]

/-- An entry that is added changes no other key. -/
theorem Indexed.get?_push (indexed : map.Indexed) (new : key ∉ map.keys) (value : α)
    (other : String) :
    (map.push key value).get? other = if other = key then some value else map.get? other := by
  apply Option.ext
  intro found
  rw [(indexed.push new value).get?_eq_some_iff, toList_push, List.mem_append, List.mem_singleton,
    ← indexed.get?_eq_some_iff, Prod.mk.injEq]
  by_cases same : other = key
  · subst same
    rw [if_pos rfl, indexed.get?_eq_none_iff.mpr new]
    simp [eq_comm]
  · simp [same]

/-- Changing the value of a key changes the entry of that key. -/
theorem Indexed.toList_modify (indexed : map.Indexed) (key : String) (change : α → α) :
    (map.modify key change).toList =
      map.toList.map fun entry => if entry.1 = key then (entry.1, change entry.2) else entry := by
  unfold OrderedMap.modify
  cases place : map.index[key]? with
  | none =>
      have absent := indexed.index_eq_none_iff.mp place
      have unchanged : ∀ entry ∈ map.toList,
          (if entry.1 = key then (entry.1, change entry.2) else entry) = entry := by
        intro entry member
        apply if_neg
        rintro rfl
        exact absent (List.mem_map_of_mem member)
      rw [List.map_congr_left unchanged, List.map_id']
  | some position =>
      have keyAt := (indexed key position).mp place
      apply List.ext_getElem?
      intro other
      rw [toList, Array.toList_modify, List.getElem?_modify, List.getElem?_map, ← toList]
      cases entryAt : map.toList[other]? with
      | none => rfl
      | some entry =>
          have entryKey : map.keys[other]? = some entry.1 := by
            rw [keys, List.getElem?_map, entryAt, Option.map_some]
          have here : position = other ↔ entry.1 = key := by
            constructor
            · rintro rfl
              exact Option.some.inj (entryKey.symm.trans keyAt)
            · rintro rfl
              have again := (indexed entry.1 other).mpr entryKey
              exact Option.some.inj (place.symm.trans again)
          by_cases same : entry.1 = key
          · simp [here.mpr same, same]
          · simp [mt here.mp same, same]

theorem Indexed.keys_modify (indexed : map.Indexed) (key : String) (change : α → α) :
    (map.modify key change).keys = map.keys := by
  rw [keys, indexed.toList_modify, List.map_map, keys]
  apply List.map_congr_left
  intro entry _
  simp only [Function.comp_apply]
  split <;> rfl

theorem Indexed.modify (indexed : map.Indexed) (key : String) (change : α → α) :
    (map.modify key change).Indexed := by
  intro other position
  rw [indexed.keys_modify, ← indexed other position]
  unfold OrderedMap.modify
  split <;> rfl

/-- Changing the value of a key changes no other key. -/
theorem Indexed.get?_modify (indexed : map.Indexed) (key other : String) (change : α → α) :
    (map.modify key change).get? other =
      if other = key then (map.get? key).map change else map.get? other := by
  apply Option.ext
  intro found
  rw [(indexed.modify key change).get?_eq_some_iff, indexed.toList_modify, List.mem_map]
  by_cases same : other = key
  · subst same
    rw [if_pos rfl, Option.map_eq_some_iff]
    constructor
    · rintro ⟨⟨name, before⟩, member, after⟩
      split at after
      · rename_i named
        cases after
        cases named
        exact ⟨before, indexed.get?_eq_some_iff.mpr member, rfl⟩
      · rename_i different
        exact absurd (congrArg Prod.fst after) different
    · rintro ⟨before, look, rfl⟩
      exact ⟨(other, before), indexed.get?_eq_some_iff.mp look, if_pos rfl⟩
  · rw [if_neg same, indexed.get?_eq_some_iff]
    constructor
    · rintro ⟨entry, member, after⟩
      split at after
      · rename_i named
        exact absurd ((congrArg Prod.fst after).symm.trans named) same
      · exact after ▸ member
    · intro member
      exact ⟨(other, found), member, if_neg same⟩

/-! ## Setting the value of a key -/

/-- The value that `insert` tells is the one that a look-up would have found. -/
theorem insert_eq (map : OrderedMap α) (key : String) (value : α) :
    map.insert key value = (map.get? key, map.set key value) := by
  unfold OrderedMap.set insert
  cases place : map.index[key]? with
  | some position => rfl
  | none => rw [get?, place, Option.bind_none]

theorem Indexed.set_of_mem (indexed : map.Indexed) (member : key ∈ map.keys) (value : α) :
    map.set key value = map.modify key fun _ => value := by
  have place : map.index[key]? ≠ none := mt indexed.index_eq_none_iff.mp (not_not.mpr member)
  obtain ⟨position, found⟩ := Option.ne_none_iff_exists'.mp place
  simp only [OrderedMap.set, insert, found]

theorem Indexed.set_of_notMem (indexed : map.Indexed) (new : key ∉ map.keys) (value : α) :
    map.set key value = map.push key value := by
  simp only [OrderedMap.set, insert, indexed.index_eq_none_iff.mpr new]

theorem Indexed.set (indexed : map.Indexed) (key : String) (value : α) :
    (map.set key value).Indexed := by
  by_cases member : key ∈ map.keys
  · rw [indexed.set_of_mem member]
    exact indexed.modify key _
  · rw [indexed.set_of_notMem member]
    exact indexed.push member value

/-- A key that is there stays where it is, and a new one comes last. -/
theorem Indexed.keys_set (indexed : map.Indexed) (key : String) (value : α) :
    (map.set key value).keys = if key ∈ map.keys then map.keys else map.keys ++ [key] := by
  split
  · rename_i member
    rw [indexed.set_of_mem member, indexed.keys_modify]
  · rename_i new
    rw [indexed.set_of_notMem new, keys_push]

/-- Setting the value of a key changes no other key. -/
theorem Indexed.get?_set (indexed : map.Indexed) (key other : String) (value : α) :
    (map.set key value).get? other = if other = key then some value else map.get? other := by
  by_cases member : key ∈ map.keys
  · obtain ⟨before, look⟩ :=
      Option.ne_none_iff_exists'.mp (mt indexed.get?_eq_none_iff.mp (not_not.mpr member))
    rw [indexed.set_of_mem member, indexed.get?_modify, look, Option.map_some]
  · rw [indexed.set_of_notMem member, indexed.get?_push member]

/-- Values whose keys are new and differ are listed in the order in which they are set. -/
theorem Indexed.foldl_set (indexed : map.Indexed) {name : α → String} {values : List α}
    (distinct : (map.keys ++ values.map name).Nodup) :
    let built := values.foldl (fun map value => map.set (name value) value) map
    built.Indexed ∧ built.toList = map.toList ++ values.map fun value => (name value, value) := by
  induction values generalizing map with
  | nil => exact ⟨indexed, (List.append_nil _).symm⟩
  | cons value values ih =>
      rw [List.map_cons] at distinct
      have new : name value ∉ map.keys := by
        intro member
        exact (List.nodup_append.mp distinct).2.2 _ member _ List.mem_cons_self rfl
      have keys : (map.set (name value) value).keys = map.keys ++ [name value] := by
        rw [indexed.keys_set, if_neg new]
      have further := ih (indexed.set (name value) value)
        (by rwa [keys, List.append_assoc, List.singleton_append])
      rw [List.foldl_cons]
      refine ⟨further.1, further.2.trans ?_⟩
      rw [indexed.set_of_notMem new, toList_push, List.append_assoc, List.map_cons,
        List.singleton_append]

/-- Of values that are set one after the other the last one with a key counts, and the keys come in
the order in which they were first set. -/
theorem foldl_set_empty (key : β → String) (value : β → α) (items : List β) :
    let built := items.foldl (fun map item => map.set (key item) (value item)) empty
    built.Indexed ∧ built.keys = (items.map key).eraseDups ∧
      ∀ name, built.get? name = ((items.filter (key · = name)).getLast?).map value := by
  induction items using List.reverseRecOn with
  | nil => exact ⟨indexed_empty, rfl, get?_empty⟩
  | append_singleton items item ih =>
      obtain ⟨indexed, keys, look⟩ := ih
      rw [List.foldl_append, List.foldl_cons, List.foldl_nil]
      refine ⟨indexed.set _ _, ?_, ?_⟩
      · rw [indexed.keys_set, keys, List.map_append, List.map_singleton, eraseDups_concat]
        simp only [List.mem_eraseDups]
      · intro name
        rw [indexed.get?_set, look, List.filter_append]
        by_cases same : key item = name
        · simp [same]
        · simp [same, Ne.symm same]

end OrderedMap

end Lineage
