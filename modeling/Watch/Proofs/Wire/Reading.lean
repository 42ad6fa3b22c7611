import Watch.Wire.Reading
import Watch.Proofs.Json.Tidy
import Watch.Proofs.SortedMap

/-!
# Reading the forms of the wire format

Each of the forms that values are written in is read again as what was written: records, tagged
alternatives, lists, optional items and maps. A map with numbers as keys depends on how it is read:
where it was set aside it is read again only if it is empty (`Json.numberedMap?_ofNumberedMap`).
-/

namespace Watch

namespace Record

variable {Item : Type} {name key : String} {json : Json} {record : Record}
  {read : Json → Option Item}

@[simp]
theorem required_nil : required [] name read = none :=
  rfl

@[simp]
theorem required_self : required ((name, json) :: record) name read = read json := by
  simp [required]

@[simp]
theorem required_of_ne (different : name ≠ key) :
    required ((key, json) :: record) name read = required record name read := by
  simp only [required, List.lookup_cons, beq_false_of_ne different]

@[simp]
theorem optional_self {default : Item} :
    optional ((name, json) :: record) name default read = read json := by
  simp [optional]

@[simp]
theorem optional_of_ne {default : Item} (different : name ≠ key) :
    optional ((key, json) :: record) name default read = optional record name default read := by
  simp only [optional, List.lookup_cons, beq_false_of_ne different]

end Record

namespace Json

variable {Item : Type}

/-! ## Integers and texts -/

@[simp]
theorem text?_ofText (text : String) : (ofText text).text? = some text :=
  Literal.text?_ofText text

@[simp]
theorem truth?_boolean (truth : Bool) : (Json.boolean truth).truth? = some truth :=
  rfl

theorem integer?_ofInt {least greatest number : Int} (lower : Int64.minValue.toInt ≤ least)
    (upper : greatest < UInt64.size) (above : least ≤ number) (below : number ≤ greatest) :
    (ofInt number).integer? least greatest = some number := by
  have found := Numeral.number?_ofInt number (Int.le_trans lower above)
    (Int.lt_of_le_of_lt below upper)
  simp [ofInt, integer?, found, above, below]

theorem integer?_word16 (number : UInt16) :
    (ofInt number.toNat).integer? 0 (UInt16.size - 1) = some (number.toNat : Int) := by
  have below := number.toNat_lt_size
  exact integer?_ofInt (by decide) (by decide) (by omega) (by omega)

@[simp]
theorem word16?_ofInt (number : UInt16) : (ofInt number.toNat).word16? = some number := by
  rw [word16?, integer?_word16]
  simp

theorem integer?_word32 (number : UInt32) :
    (ofInt number.toNat).integer? 0 (UInt32.size - 1) = some (number.toNat : Int) := by
  have below := number.toNat_lt_size
  exact integer?_ofInt (by decide) (by decide) (by omega) (by omega)

@[simp]
theorem word32?_ofInt (number : UInt32) : (ofInt number.toNat).word32? = some number := by
  rw [word32?, integer?_word32]
  simp

theorem integer?_word64 (number : UInt64) :
    (ofInt number.toNat).integer? 0 (UInt64.size - 1) = some (number.toNat : Int) := by
  have below := number.toNat_lt_size
  exact integer?_ofInt (by decide) (by decide) (by omega) (by omega)

@[simp]
theorem word64?_ofInt (number : UInt64) : (ofInt number.toNat).word64? = some number := by
  rw [word64?, integer?_word64]
  simp

theorem integer?_int8 (number : Int8) :
    (ofInt number.toInt).integer? Int8.minValue.toInt Int8.maxValue.toInt =
      some number.toInt :=
  integer?_ofInt (by decide) (by decide) number.minValue_le_toInt number.toInt_le

theorem integer?_int16 (number : Int16) :
    (ofInt number.toInt).integer? Int16.minValue.toInt Int16.maxValue.toInt =
      some number.toInt :=
  integer?_ofInt (by decide) (by decide) number.minValue_le_toInt number.toInt_le

theorem integer?_int32 (number : Int32) :
    (ofInt number.toInt).integer? Int32.minValue.toInt Int32.maxValue.toInt =
      some number.toInt :=
  integer?_ofInt (by decide) (by decide) number.minValue_le_toInt number.toInt_le

theorem integer?_int64 (number : Int64) :
    (ofInt number.toInt).integer? Int64.minValue.toInt Int64.maxValue.toInt =
      some number.toInt :=
  integer?_ofInt (by decide) (by decide) number.minValue_le_toInt number.toInt_le

namespace Tidy

variable {depth : Nat} {json : Json}

/-- What is read as an integer is a sound numeral. -/
theorem of_integer? {least greatest value : Int}
    (found : json.integer? least greatest = some value) : json.Tidy depth := by
  cases json with
  | number numeral =>
      cases sound : numeral.number? with
      | none => simp [integer?, sound] at found
      | some number => exact .number (Option.isSome_of_eq_some sound)
  | _ => contradiction

/-- What is read as a number in single precision is a sound numeral. -/
theorem of_float? {number : Float32} (found : json.float? = some number) : json.Tidy depth := by
  cases json with
  | number numeral =>
      rcases Option.map_eq_some_iff.1 found with ⟨value, sound, -⟩
      exact .number (Option.isSome_of_eq_some sound)
  | _ => contradiction

/-- What is read as a number in double precision is a sound numeral. -/
theorem of_double? {number : Float} (found : json.double? = some number) : json.Tidy depth := by
  cases json with
  | number numeral =>
      rcases Option.map_eq_some_iff.1 found with ⟨value, sound, -⟩
      exact .number (Option.isSome_of_eq_some sound)
  | _ => contradiction

theorem ofWord (number : UInt64) : Tidy (.ofInt number.toNat) depth :=
  .of_integer? (integer?_word64 number)

end Tidy

/-! ## Records -/

@[simp]
theorem members?_ofMembers (members : List (String × Json)) :
    (ofMembers members).members? = some members := by
  induction members with
  | nil => rfl
  | cons member members ih =>
      simp only [ofMembers, members?] at ih
      simp [ofMembers, members?, ih]

/-- The fields that are asked for are found if no key is repeated. -/
@[simp]
theorem fields?_ofMembers {names : List String} {members : List (String × Json)}
    (distinct : (members.map Prod.fst).Nodup) :
    (ofMembers members).fields? names =
      some (members.filter fun member => names.contains member.1) := by
  have found : ((members.filter fun member => names.contains member.1).map Prod.fst).Nodup :=
    distinct.sublist (List.filter_sublist.map Prod.fst)
  simp only [fields?, members?_ofMembers, Option.bind_eq_bind, Option.bind_some, if_pos found]

/-- A record with exactly the fields that are asked for is all there. -/
theorem record?_ofMembers {names : List String} {members : List (String × Json)} {least : Nat}
    (named : members.map Prod.fst = names) (distinct : names.Nodup) :
    (ofMembers members).record? names least = some members := by
  have all : members.filter (fun member => names.contains member.1) = members := by
    apply List.filter_eq_self.2
    intro member listed
    rw [← named]
    exact List.contains_iff_mem.2 (List.mem_map_of_mem listed)
  have found : (ofMembers members).fields? names =
      some (members.filter fun member => names.contains member.1) :=
    fields?_ofMembers (named ▸ distinct)
  rw [all] at found
  exact found

/-! ## Alternatives -/

@[simp]
theorem variant?_ofText (name : String) : (ofText name).variant? = some (name, none) := by
  simp [ofText, variant?]

@[simp]
theorem variant?_tagged (name : String) (content : Json) :
    (tagged name content).variant? = some (name, some content) := by
  simp [tagged, ofMembers, variant?]

/-- An alternative is found by its name if no other one has it. -/
theorem named?_ofText {reading : Reading} {alternatives : List Item} {name : Item → String}
    {item : Item} (listed : item ∈ alternatives)
    (distinct : ∀ other ∈ alternatives, name other = name item → other = item) :
    (ofText (name item)).named? reading alternatives name = some item := by
  have found : ∃ other ∈ alternatives, name other = name item := ⟨item, listed, rfl⟩
  cases first : alternatives.find? fun other => name other == name item with
  | none =>
      have absent := List.find?_eq_none.1 first item listed
      simp at absent
  | some other =>
      have same : name other = name item := by simpa using List.find?_some first
      have itself := distinct other (List.mem_of_find?_eq_some first) same
      simp [named?, Reading.isNothing, first, itself]

/-! ## Lists and optional items -/

theorem mapM_map_eq_some {Written Found : Type} (items : List Item) {write : Item → Written}
    {read : Written → Option Found} {found : Item → Found}
    (reads : ∀ item ∈ items, read (write item) = some (found item)) :
    (items.map write).mapM read = some (items.map found) := by
  induction items with
  | nil => rfl
  | cons item items ih =>
      have first := reads item List.mem_cons_self
      have others := ih fun item listed => reads item (List.mem_cons_of_mem _ listed)
      simp [first, others]

/-- Reading the items of some entries leaves the keys as they are. -/
theorem mapM_entries {Key : Type} {entries found : List (Key × Item)} {write : Item → Json}
    {read : Json → Option Item}
    (reads : (entries.map fun entry => (entry.1, write entry.2)).mapM
      (fun member => (read member.2).map fun item => (member.1, item)) = some found) :
    found.map Prod.fst = entries.map Prod.fst ∧
      (found = entries → ∀ entry ∈ entries, read (write entry.2) = some entry.2) := by
  induction entries generalizing found with
  | nil =>
      cases reads
      exact ⟨rfl, by simp⟩
  | cons entry entries ih =>
      simp only [List.map_cons, List.mapM_cons, Option.bind_eq_bind] at reads
      rcases Option.bind_eq_some_iff.1 reads with ⟨first, firstEq, rest⟩
      rcases Option.map_eq_some_iff.1 firstEq with ⟨item, itemEq, rfl⟩
      rcases Option.bind_eq_some_iff.1 rest with ⟨others, othersEq, foundEq⟩
      cases foundEq
      rcases ih othersEq with ⟨keys, items⟩
      refine ⟨by simp [keys], fun same => ?_⟩
      rcases List.cons.inj same with ⟨firstSame, othersSame⟩
      have itemSame : item = entry.2 := congrArg Prod.snd firstSame
      exact List.forall_mem_cons.2 ⟨itemSame ▸ itemEq, items othersSame⟩

theorem list?_array {items : List Item} {write : Item → Json} {read : Json → Option Item}
    (reads : ∀ item ∈ items, read (write item) = some item) :
    (Json.array (items.map write)).list? read = some items := by
  have all := mapM_map_eq_some items reads
  rwa [List.map_id'] at all

theorem nullable?_of_ne_null {json : Json} (present : json ≠ .null) (read : Json → Option Item) :
    json.nullable? read = (read json).map some := by
  cases json with
  | null => contradiction
  | _ => rfl

theorem nullable?_ofOption {option : Option Item} {write : Item → Json}
    {read : Json → Option Item} (present : ∀ item, write item ≠ .null)
    (reads : ∀ item ∈ option, read (write item) = some item) :
    (ofOption write option).nullable? read = some option := by
  cases option with
  | none => rfl
  | some item =>
      have found := reads item rfl
      rw [ofOption, nullable?_of_ne_null (present item), found]
      rfl

/-- If an optional item is read as itself, so is the item. -/
theorem reads_of_nullable? {option : Option Item} {write : Item → Json}
    {read : Json → Option Item} (present : ∀ item, write item ≠ .null)
    (found : (ofOption write option).nullable? read = some option) :
    ∀ item ∈ option, read (write item) = some item := by
  rintro item rfl
  rw [ofOption, nullable?_of_ne_null (present item)] at found
  rcases Option.map_eq_some_iff.1 found with ⟨other, read, same⟩
  cases same
  exact read

@[simp]
theorem nullable?_ofText (option : Option String) :
    (ofOption ofText option).nullable? text? = some option :=
  nullable?_ofOption (by simp [ofText]) (by simp)

theorem normal_ofOption {option : Option Item} {write : Item → Json}
    (same : ∀ item, (write item).normal = write item) :
    (Json.ofOption write option).normal = Json.ofOption write option := by
  cases option with
  | none => rfl
  | some item => exact same item

theorem Tidy.ofOption {option : Option Item} {write : Item → Json} {depth : Nat}
    (tidy : ∀ item ∈ option, (write item).Tidy depth) :
    (Json.ofOption write option).Tidy depth := by
  cases option with
  | none => exact Tidy.null
  | some item => exact tidy item rfl

/-! ## Maps -/

theorem textMap?_ofTextMap {map : SortedMap String Item} {write : Item → Json}
    {read : Json → Option Item} (reads : ∀ item ∈ map.items, read (write item) = some item) :
    (ofTextMap write map).textMap? read = some map := by
  have entries : (map.entries.map fun entry => (entry.1, write entry.2)).mapM
      (fun member => (read member.2).map fun item => (member.1, item)) =
        some (map.entries.map id) := by
    apply mapM_map_eq_some
    intro entry listed
    simp [reads entry.2 (List.mem_map_of_mem listed)]
  rw [List.map_id] at entries
  simp only [ofTextMap, textMap?, members?_ofMembers, Option.bind_eq_bind, Option.bind_some,
    entries, SortedMap.ofList_entries]
  rfl

/-- If a map is read as itself, so are its items. -/
theorem reads_of_textMap? {map : SortedMap String Item} {write : Item → Json}
    {read : Json → Option Item} (found : (ofTextMap write map).textMap? read = some map) :
    ∀ item ∈ map.items, read (write item) = some item := by
  simp only [ofTextMap, textMap?, members?_ofMembers, Option.bind_eq_bind,
    Option.bind_some] at found
  rcases Option.bind_eq_some_iff.1 found with ⟨entries, all, ofList⟩
  rcases mapM_entries all with ⟨sameKeys, items⟩
  have sorted : entries.Pairwise fun earlier later => compare earlier.1 later.1 = .lt := by
    have keys : (map.entries.map Prod.fst).Pairwise fun earlier later =>
        compare earlier later = .lt := List.pairwise_map.2 map.sorted
    rw [← sameKeys] at keys
    exact List.pairwise_map.1 keys
  have entriesEq : map.entries = entries := by
    rw [← SortedMap.entries_ofList sorted]
    exact congrArg SortedMap.entries (Option.some.inj ofList).symm
  intro item listed
  rcases List.mem_map.1 listed with ⟨entry, member, rfl⟩
  exact items entriesEq.symm entry member

theorem normal_ofTextMap {map : SortedMap String Item} {write : Item → Json}
    (same : ∀ item, (write item).normal = write item) :
    (Json.ofTextMap write map).normal = Json.ofTextMap write map := by
  apply normal_ofMembers
  simp only [List.mem_map, forall_exists_index, and_imp]
  rintro _ entry _ rfl
  exact same entry.2

theorem Tidy.ofTextMap {map : SortedMap String Item} {write : Item → Json} {depth : Nat}
    (tidy : ∀ item ∈ map.items, (write item).Tidy depth) :
    (Json.ofTextMap write map).Tidy (depth + 1) := by
  apply Tidy.ofMembers
  simp only [List.mem_map, forall_exists_index, and_imp]
  rintro _ entry listed rfl
  exact tidy entry.2 (List.mem_map_of_mem listed)

theorem needsEscape_of_isDigit {char : Char} (digit : char.isDigit = true) :
    Literal.needsEscape char = false := by
  simp only [Char.isDigit, Bool.and_eq_true, decide_eq_true_eq, UInt32.le_iff_toNat_le] at digit
  have above : 48 ≤ char.toNat := digit.1
  have below : char.toNat ≤ 57 := digit.2
  have notQuote : char ≠ '"' := by
    rintro rfl
    contradiction
  have notBackslash : char ≠ '\\' := by
    rintro rfl
    contradiction
  simp [Literal.needsEscape, notQuote, notBackslash]
  omega

theorem ofText_toString (number : Nat) :
    Literal.ofText (toString number) = .plain (toString number) := by
  have plain : (toString number).toList.any Literal.needsEscape = false := by
    apply List.any_eq_false.2
    intro char listed
    have digits : (toString number).toList = Nat.toDigits 10 number := by simp
    rw [digits] at listed
    simp [needsEscape_of_isDigit (Nat.isDigit_of_mem_toDigits (by decide) (by decide) listed)]
  rw [Literal.ofText, plain]
  rfl

theorem keyNumber?_toString (number : UInt64) :
    keyNumber? (.ofText (toString number.toNat)) = some number := by
  have below := number.toNat_lt_size
  rw [ofText_toString]
  simp [keyNumber?, Nat.ofDigitChars_ten_toDigits, below]

/-- A map with numbers as keys that was set aside is read again only if it is empty. -/
theorem numberedMap?_ofNumberedMap {reading : Reading} {map : SortedMap UInt64 Item}
    {write : Item → Json} {read : Json → Option Item}
    (reads : ∀ item ∈ map.items, read (write item) = some item) :
    (ofNumberedMap write map).numberedMap? reading read =
      if reading.numberedKeys || map.entries.isEmpty then some map else none := by
  have entries : ((map.entries.map fun entry => (toString entry.1.toNat, write entry.2)).map
      fun member => (Literal.ofText member.1, member.2)).mapM
        (fun member => do return (← keyNumber? member.1, ← read member.2)) =
          some (map.entries.map id) := by
    rw [List.map_map]
    apply mapM_map_eq_some
    intro entry listed
    have key := keyNumber?_toString entry.1
    have item := reads entry.2 (List.mem_map_of_mem listed)
    simp only [Function.comp_apply, key, item]
    rfl
  rw [List.map_id] at entries
  simp only [ofNumberedMap, ofMembers, numberedMap?, List.isEmpty_map, entries]
  cases empty : map.entries.isEmpty with
  | true =>
      have same : SortedMap.empty = map := SortedMap.ext (List.isEmpty_iff.1 empty).symm
      simp [same]
  | false =>
      cases reading.numberedKeys with
      | true => simp [SortedMap.ofList_entries]
      | false => simp

/-- A map with numbers as keys that was set aside and is read is empty. -/
theorem isEmpty_of_numberedMap? {reading : Reading} {map other : SortedMap UInt64 Item}
    {write : Item → Json} {read : Json → Option Item} (noNumbers : reading.numberedKeys = false)
    (found : (ofNumberedMap write map).numberedMap? reading read = some other) :
    map.entries.isEmpty = true := by
  simp only [ofNumberedMap, ofMembers, numberedMap?, List.isEmpty_map, noNumbers] at found
  cases empty : map.entries.isEmpty with
  | true => rfl
  | false => simp [empty] at found

theorem normal_ofNumberedMap {map : SortedMap UInt64 Item} {write : Item → Json}
    (same : ∀ item, (write item).normal = write item) :
    (Json.ofNumberedMap write map).normal = Json.ofNumberedMap write map := by
  apply normal_ofMembers
  simp only [List.mem_map, forall_exists_index, and_imp]
  rintro _ entry _ rfl
  exact same entry.2

theorem Tidy.ofNumberedMap {map : SortedMap UInt64 Item} {write : Item → Json} {depth : Nat}
    (tidy : ∀ item ∈ map.items, (write item).Tidy depth) :
    (Json.ofNumberedMap write map).Tidy (depth + 1) := by
  apply Tidy.ofMembers
  simp only [List.mem_map, forall_exists_index, and_imp]
  rintro _ entry listed rfl
  exact tidy entry.2 (List.mem_map_of_mem listed)

end Json

end Watch
