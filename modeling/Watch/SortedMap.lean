/-!
# Sorted maps

A finite map held as the list of its entries in increasing key order. Two maps with the same
entries are therefore equal, and the order in which the entries are listed is part of the type.
-/

namespace Watch

universe u v

/-- A finite map: its entries, each key once, in increasing order. -/
structure SortedMap (Key : Type u) (Item : Type v) [Ord Key] where
  /-- The entries in key order. -/
  entries : List (Key × Item)
  /-- Each key is smaller than those after it. -/
  sorted : entries.Pairwise fun earlier later => compare earlier.1 later.1 = .lt

namespace SortedMap

variable {Key : Type u} {Item : Type v} [Ord Key]

@[ext]
theorem ext {left right : SortedMap Key Item} (same : left.entries = right.entries) :
    left = right := by
  cases left
  cases right
  cases same
  rfl

instance [DecidableEq Key] [DecidableEq Item] : DecidableEq (SortedMap Key Item) :=
    fun left right =>
  decidable_of_iff (left.entries = right.entries) ⟨ext, fun same => same ▸ rfl⟩

/-- The map without entries. -/
def empty : SortedMap Key Item := ⟨[], .nil⟩

instance : Inhabited (SortedMap Key Item) := ⟨empty⟩

/-- The item under a key. -/
def get? (map : SortedMap Key Item) (key : Key) : Option Item :=
  (map.entries.find? fun entry => compare key entry.1 == .eq).map Prod.snd

/-- Whether a key has an item. -/
def contains (map : SortedMap Key Item) (key : Key) : Bool :=
  (map.get? key).isSome

/-- The keys in increasing order. -/
def keys (map : SortedMap Key Item) : List Key :=
  map.entries.map Prod.fst

/-- The items in the order of their keys. -/
def items (map : SortedMap Key Item) : List Item :=
  map.entries.map Prod.snd

/-- Puts an entry into its place in a list of entries, replacing the item under an equal key. -/
def insertEntry (key : Key) (item : Item) : List (Key × Item) → List (Key × Item)
  | [] => [(key, item)]
  | entry :: rest =>
    match compare key entry.1 with
    | .lt => (key, item) :: entry :: rest
    | .eq => (key, item) :: rest
    | .gt => entry :: insertEntry key item rest

theorem mem_insertEntry {key : Key} {item : Item} {entry : Key × Item} :
    {entries : List (Key × Item)} → entry ∈ insertEntry key item entries →
      entry = (key, item) ∨ entry ∈ entries
  | [], found => by simpa [insertEntry] using found
  | head :: rest, found => by
    unfold insertEntry at found
    split at found
    · simpa using found
    · rcases List.mem_cons.1 found with same | later
      · exact .inl same
      · exact .inr (List.mem_cons_of_mem _ later)
    · rcases List.mem_cons.1 found with same | later
      · exact .inr (same ▸ List.mem_cons_self)
      · exact (mem_insertEntry later).imp id (List.mem_cons_of_mem _)

/-- Inserting keeps the entries in order. -/
theorem sorted_insertEntry [Std.TransOrd Key] [Std.LawfulEqOrd Key] (key : Key) (item : Item) :
    {entries : List (Key × Item)} →
      entries.Pairwise (fun earlier later => compare earlier.1 later.1 = .lt) →
      (insertEntry key item entries).Pairwise fun earlier later =>
        compare earlier.1 later.1 = .lt
  | [], _ => by simp [insertEntry]
  | head :: rest, ordered => by
    have ⟨before, ordered'⟩ := List.pairwise_cons.1 ordered
    unfold insertEntry
    split
    · next less =>
      refine List.pairwise_cons.2 ⟨fun entry member => ?_, ordered⟩
      rcases List.mem_cons.1 member with rfl | later
      · exact less
      · exact Std.TransCmp.lt_trans less (before entry later)
    · next same =>
      refine List.pairwise_cons.2 ⟨fun entry member => ?_, ordered'⟩
      rw [Std.LawfulEqOrd.eq_of_compare same]
      exact before entry member
    · next greater =>
      refine List.pairwise_cons.2 ⟨fun entry member => ?_, sorted_insertEntry key item ordered'⟩
      rcases mem_insertEntry member with rfl | later
      · exact Std.OrientedCmp.lt_of_gt greater
      · exact before entry later

/-- The map with an item put under a key. -/
def insert [Std.TransOrd Key] [Std.LawfulEqOrd Key] (map : SortedMap Key Item) (key : Key)
    (item : Item) : SortedMap Key Item :=
  ⟨insertEntry key item map.entries, sorted_insertEntry key item map.sorted⟩

/-- The map without the entry of a key. -/
def erase (map : SortedMap Key Item) (key : Key) : SortedMap Key Item :=
  ⟨map.entries.filter fun entry => compare key entry.1 != .eq, map.sorted.filter _⟩

/-- Applies a function to the item under a key, where there is one. -/
def modify (map : SortedMap Key Item) (key : Key) (change : Item → Item) : SortedMap Key Item :=
  ⟨map.entries.map fun entry =>
      if compare key entry.1 = .eq then (entry.1, change entry.2) else entry,
    (List.pairwise_map.2 (map.sorted.imp fun {earlier later} less => by
      split <;> split <;> exact less))⟩

/-- The map of a list of entries; of several entries with one key the last counts. -/
def ofList [Std.TransOrd Key] [Std.LawfulEqOrd Key] (entries : List (Key × Item)) :
    SortedMap Key Item :=
  entries.foldl (fun map entry => map.insert entry.1 entry.2) empty

end SortedMap

end Watch
