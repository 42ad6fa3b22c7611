import Watch.SortedMap

/-!
# Looking up what was written

What a look-up in a sorted map finds after each of the ways to change the map, and which parts of
the entries decide it. The order of the entries matters only where a map is built from the list of
its entries: listing them in their order gives the map back (`SortedMap.ofList_entries`).
-/

namespace Watch

universe u v

namespace SortedMap

variable {Key : Type u} {Item : Type v} [Ord Key]

@[simp]
theorem get?_empty (key : Key) : (empty : SortedMap Key Item).get? key = none :=
  rfl

theorem find?_modify (map : SortedMap Key Item) (key other : Key) (change : Item → Item) :
    (map.modify key change).entries.find? (fun entry => compare other entry.1 == .eq) =
      (map.entries.find? (fun entry => compare other entry.1 == .eq)).map fun entry =>
        if compare key entry.1 = .eq then (entry.1, change entry.2) else entry := by
  simp only [modify, List.find?_map]
  congr 2
  funext entry
  simp only [Function.comp_apply]
  split <;> rfl

@[simp]
theorem get?_modify_self (map : SortedMap Key Item) (key : Key) (change : Item → Item) :
    (map.modify key change).get? key = (map.get? key).map change := by
  simp only [get?, find?_modify]
  cases found : map.entries.find? (fun entry => compare key entry.1 == .eq) with
  | none => rfl
  | some entry =>
      have same := List.find?_some found
      simp only [beq_iff_eq] at same
      simp [same]

/-- What a change leaves alone in the item under a key, it leaves alone in the map. -/
theorem map_entries_modify {View : Type} (map : SortedMap Key Item) (key : Key)
    (change : Item → Item) (view : Item → View) (kept : ∀ item, view (change item) = view item) :
    (map.modify key change).entries.map (fun entry => (entry.1, view entry.2)) =
      map.entries.map fun entry => (entry.1, view entry.2) := by
  simp only [modify, List.map_map]
  refine List.map_congr_left fun entry _ => ?_
  simp only [Function.comp_apply]
  split
  · rw [kept]
  · rfl

theorem keys_modify (map : SortedMap Key Item) (key : Key) (change : Item → Item) :
    (map.modify key change).keys = map.keys := by
  simp only [keys, modify, List.map_map]
  refine List.map_congr_left fun entry _ => ?_
  simp only [Function.comp_apply]
  split <;> rfl

/-- Of two changes under one key the second is made to what the first has left. -/
theorem modify_modify (map : SortedMap Key Item) (key : Key) (change again : Item → Item) :
    (map.modify key change).modify key again = map.modify key fun item => again (change item) := by
  apply ext
  simp only [modify, List.map_map]
  refine List.map_congr_left fun entry _ => ?_
  simp only [Function.comp_apply]
  by_cases same : compare key entry.1 = .eq <;> simp [same]

/-- What a look-up finds, seen through a view, is decided by the entries seen through it. -/
theorem map_get?_eq {View : Type} {left right : SortedMap Key Item} (view : Item → View)
    (same : left.entries.map (fun entry => (entry.1, view entry.2)) =
      right.entries.map fun entry => (entry.1, view entry.2)) (key : Key) :
    (left.get? key).map view = (right.get? key).map view := by
  have seen : ∀ map : SortedMap Key Item, (map.get? key).map view =
      ((map.entries.map fun entry => (entry.1, view entry.2)).find? fun entry =>
        compare key entry.1 == .eq).map Prod.snd := by
    intro map
    rw [get?, List.find?_map, Option.map_map, Option.map_map]
    rfl
  rw [seen left, seen right, same]

theorem isSome_get?_of_keys {left right : SortedMap Key Item} (same : left.keys = right.keys)
    (key : Key) : (left.get? key).isSome = (right.get? key).isSome := by
  have seen : ∀ map : SortedMap Key Item, (map.get? key).isSome =
      (map.keys.find? fun other => compare key other == .eq).isSome := by
    intro map
    rw [get?, keys, List.find?_map, Option.isSome_map, Option.isSome_map]
    rfl
  rw [seen left, seen right, same]

section Equality

variable [Std.LawfulEqOrd Key]

theorem find?_insertEntry_self (key : Key) (item : Item) (entries : List (Key × Item)) :
    (insertEntry key item entries).find? (fun entry => compare key entry.1 == .eq) =
      some (key, item) := by
  induction entries with
  | nil => simp [insertEntry]
  | cons entry rest ih =>
      rw [insertEntry]
      split
      · simp
      · simp
      · next greater => simp [greater, ih]

theorem find?_insertEntry_of_ne {key other : Key} (different : other ≠ key) (item : Item)
    (entries : List (Key × Item)) :
    (insertEntry key item entries).find? (fun entry => compare other entry.1 == .eq) =
      entries.find? (fun entry => compare other entry.1 == .eq) := by
  induction entries with
  | nil => simp [insertEntry, different]
  | cons entry rest ih =>
      rw [insertEntry]
      split
      · simp [different]
      · next same =>
        have keyEq : key = entry.1 := Std.LawfulEqOrd.eq_of_compare same
        simp [different, ← keyEq]
      · simp only [List.find?_cons, ih]

@[simp]
theorem get?_erase_self (map : SortedMap Key Item) (key : Key) :
    (map.erase key).get? key = none := by
  simp [get?, erase, List.find?_filter]

theorem get?_erase_of_ne {key other : Key} (different : other ≠ key)
    (map : SortedMap Key Item) : (map.erase key).get? other = map.get? other := by
  simp only [get?, erase, List.find?_filter]
  congr 2
  funext entry
  by_cases same : other = entry.1
  · simp [← same, Ne.symm different]
  · simp [same]

theorem get?_modify_of_ne {key other : Key} (different : other ≠ key)
    (map : SortedMap Key Item) (change : Item → Item) :
    (map.modify key change).get? other = map.get? other := by
  simp only [get?, find?_modify]
  cases found : map.entries.find? (fun entry => compare other entry.1 == .eq) with
  | none => rfl
  | some entry =>
      have same := List.find?_some found
      simp only [beq_iff_eq, Std.LawfulEqCmp.compare_eq_iff_eq] at same
      simp [← same, Ne.symm different]

/-- Two changes commute if they are made under two keys, or commute under one. -/
theorem modify_comm (map : SortedMap Key Item) {key other : Key} {change otherChange : Item → Item}
    (commute : key = other → ∀ item, otherChange (change item) = change (otherChange item)) :
    (map.modify key change).modify other otherChange =
      (map.modify other otherChange).modify key change := by
  apply ext
  simp only [modify, List.map_map]
  refine List.map_congr_left fun entry _ => ?_
  simp only [Function.comp_apply]
  by_cases first : key = entry.1
  · by_cases second : other = entry.1
    · simp [first, second, commute (first.trans second.symm)]
    · simp [first, second]
  · by_cases second : other = entry.1 <;> simp [first, second]

theorem get?_of_mem {map : SortedMap Key Item} {key : Key} {item : Item}
    (member : (key, item) ∈ map.entries) : map.get? key = some item := by
  rcases map with ⟨entries, sorted⟩
  simp only [get?]
  induction entries with
  | nil => contradiction
  | cons head rest ih =>
      rcases List.pairwise_cons.1 sorted with ⟨smaller, restSorted⟩
      rcases List.mem_cons.1 member with rfl | later
      · simp
      · have different : key ≠ head.1 := by
          rintro rfl
          simpa using smaller _ later
        simpa [different] using ih restSorted later

/-- A change that leaves the item under its key as it is leaves the map as it is. -/
theorem modify_eq_self {map : SortedMap Key Item} {key : Key} {change : Item → Item}
    (same : ∀ item, map.get? key = some item → change item = item) :
    map.modify key change = map := by
  have unchanged : ∀ entry ∈ map.entries,
      (if compare key entry.1 = .eq then (entry.1, change entry.2) else entry) = entry := by
    intro entry member
    split
    · next equal =>
      have found := get?_of_mem member
      rw [← Std.LawfulEqOrd.eq_of_compare equal] at found
      rw [same entry.2 found]
    · rfl
  exact ext ((List.map_congr_left unchanged).trans (List.map_id _))

theorem eq_empty_of_get? {map : SortedMap Key Item} (absent : ∀ key, map.get? key = none) :
    map = empty := by
  cases entriesEq : map.entries with
  | nil => exact ext entriesEq
  | cons entry rest =>
      have member : (entry.1, entry.2) ∈ map.entries := by simp [entriesEq]
      have found := get?_of_mem member
      simp [absent] at found

theorem mem_items_iff {map : SortedMap Key Item} {item : Item} :
    item ∈ map.items ↔ ∃ key, map.get? key = some item := by
  constructor
  · intro member
    rcases List.mem_map.1 member with ⟨⟨key, _⟩, listed, rfl⟩
    exact ⟨key, get?_of_mem listed⟩
  · rintro ⟨key, found⟩
    rcases Option.map_eq_some_iff.1 found with ⟨entry, listed, rfl⟩
    exact List.mem_map.2 ⟨entry, List.mem_of_find?_eq_some listed, rfl⟩

end Equality

section Order

variable [Std.TransOrd Key] [Std.LawfulEqOrd Key]

@[simp]
theorem get?_insert_self (map : SortedMap Key Item) (key : Key) (item : Item) :
    (map.insert key item).get? key = some item := by
  simp [get?, insert, find?_insertEntry_self]

theorem get?_insert_of_ne {key other : Key} (different : other ≠ key)
    (map : SortedMap Key Item) (item : Item) :
    (map.insert key item).get? other = map.get? other := by
  simp [get?, insert, find?_insertEntry_of_ne different]

omit [Std.LawfulEqOrd Key] in
theorem insertEntry_eq_append {key : Key} {entries : List (Key × Item)}
    (last : ∀ entry ∈ entries, compare entry.1 key = .lt) (item : Item) :
    insertEntry key item entries = entries ++ [(key, item)] := by
  induction entries with
  | nil => rfl
  | cons head rest ih =>
      have greater : compare key head.1 = .gt :=
        Std.OrientedCmp.gt_of_lt (last head List.mem_cons_self)
      simp only [insertEntry, greater, List.cons_append]
      rw [ih fun entry member => last entry (List.mem_cons_of_mem _ member)]

theorem entries_foldl_insert (map : SortedMap Key Item) (entries : List (Key × Item))
    (sorted : (map.entries ++ entries).Pairwise fun earlier later =>
      compare earlier.1 later.1 = .lt) :
    (entries.foldl (fun map entry => map.insert entry.1 entry.2) map).entries =
      map.entries ++ entries := by
  induction entries generalizing map with
  | nil => simp
  | cons head rest ih =>
      have last : ∀ entry ∈ map.entries, compare entry.1 head.1 = .lt := fun entry member =>
        (List.pairwise_append.1 sorted).2.2 entry member head List.mem_cons_self
      have entriesEq : (map.insert head.1 head.2).entries = map.entries ++ [head] :=
        insertEntry_eq_append last head.2
      rw [List.foldl_cons, ih, entriesEq, List.append_assoc, List.singleton_append]
      rwa [entriesEq, List.append_assoc, List.singleton_append]

theorem entries_ofList {entries : List (Key × Item)}
    (sorted : entries.Pairwise fun earlier later => compare earlier.1 later.1 = .lt) :
    (ofList entries).entries = entries :=
  entries_foldl_insert empty entries sorted

/-- A map is built again from the list of its entries. -/
theorem ofList_entries (map : SortedMap Key Item) : ofList map.entries = map :=
  ext (entries_ofList map.sorted)

end Order

end SortedMap

end Watch
