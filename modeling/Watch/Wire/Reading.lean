import Watch.Json.Number
import Watch.SortedMap
import Watch.Floating

/-!
# Reading typed values from JSON

What the forms of the wire format share. A record is an object with named fields, of which unknown
ones are passed over and known ones must not be repeated; all but messages may also be given as
arrays of their fields in order. One of several alternatives is named by a string, or by an object
whose only key is the name and whose item is the content. A map is an object in which the last item
of a key counts.

A part of a message may have been set aside before it was read. Such a part is read a little
differently (`Reading`): a map with numbers as keys is refused unless it is empty, and an
alternative without content may be given an empty object.
-/

namespace Watch

/-- How a value is read. -/
structure Reading where
  /-- Whether a map may have numbers as keys. -/
  numberedKeys : Bool
  /-- Whether an empty object is the same as no content. -/
  emptyAsNothing : Bool
deriving DecidableEq

namespace Reading

/-- Reading straight from the text. -/
def direct : Reading :=
  { numberedKeys := true, emptyAsNothing := false }

/-- Reading a part that was set aside. -/
def buffered : Reading :=
  { numberedKeys := false, emptyAsNothing := true }

/-- Reading a part that was set aside to try several forms on it. -/
def tried : Reading :=
  { numberedKeys := false, emptyAsNothing := false }

/-- Whether the content of an alternative is none. -/
def isNothing (reading : Reading) : Option Json → Bool
  | none | some .null => true
  | some (.object []) => reading.emptyAsNothing
  | some _ => false

end Reading

/-- The fields that were found of a record. -/
abbrev Record := List (String × Json)

namespace Record

variable {Item : Type}

/-- Reads a field that has to be there. -/
def required (record : Record) (name : String) (read : Json → Option Item) : Option Item :=
  (record.lookup name).bind read

/-- Reads a field that has a default. -/
def optional (record : Record) (name : String) (default : Item) (read : Json → Option Item) :
    Option Item :=
  match record.lookup name with
  | none => some default
  | some json => read json

end Record

namespace Json

variable {Item : Type}

/-- The text of a string. -/
def text? : Json → Option String
  | .string literal => literal.text?
  | _ => none

/-- A truth value. -/
def truth? : Json → Option Bool
  | .boolean truth => some truth
  | _ => none

/-- An integer within bounds. -/
def integer? (least greatest : Int) : Json → Option Int
  | .number numeral =>
    match numeral.number? with
    | some (.integer value) => if least ≤ value ∧ value ≤ greatest then some value else none
    | _ => none
  | _ => none

/-- A word of 16 bits. -/
def word16? (json : Json) : Option UInt16 :=
  (json.integer? 0 (UInt16.size - 1)).map fun number => number.toNat.toUInt16

/-- A word of 32 bits. -/
def word32? (json : Json) : Option UInt32 :=
  (json.integer? 0 (UInt32.size - 1)).map fun number => number.toNat.toUInt32

/-- A word of 64 bits. -/
def word64? (json : Json) : Option UInt64 :=
  (json.integer? 0 (UInt64.size - 1)).map fun number => number.toNat.toUInt64

/-- A number in double precision; an integer is rounded to it. -/
def double? : Json → Option Float
  | .number numeral => numeral.number?.map fun
    | .integer value => Float.ofInt value
    | .real value => value
  | _ => none

/-- A number in single precision; a number with a fraction is rounded to double precision before. -/
def float? : Json → Option Float32
  | .number numeral => numeral.number?.map fun
    | .integer value => Float32.ofInt value
    | .real value => Floating.narrow value
  | _ => none

/-- Null, or something else that is read. -/
def nullable? (read : Json → Option Item) : Json → Option (Option Item)
  | .null => some none
  | json => (read json).map some

/-- The items of an array. -/
def list? (read : Json → Option Item) : Json → Option (List Item)
  | .array items => items.mapM read
  | _ => none

/-- The members of an object whose keys all have a text. -/
def members? : Json → Option (List (String × Json))
  | .object members => members.mapM fun member => member.1.text?.map fun key => (key, member.2)
  | _ => none

/-- The name of an alternative and its content. -/
def variant? : Json → Option (String × Option Json)
  | .string literal => literal.text?.map fun name => (name, none)
  | .object [(key, content)] => key.text?.map fun name => (name, some content)
  | _ => none

/-- One of several alternatives without content, by its name. -/
def named? (reading : Reading) (alternatives : List Item) (name : Item → String) (json : Json) :
    Option Item := do
  let (found, content) ← json.variant?
  if reading.isNothing content then alternatives.find? fun item => name item == found
  else none

/-- The fields of a record that is given by its names. -/
def fields? (names : List String) (json : Json) : Option Record := do
  let fields := (← json.members?).filter fun member => names.contains member.1
  if (fields.map Prod.fst).Nodup then some fields else none

/--
The fields of a record. An array gives them in their order; it has no more of them than the record
and at least as many as the record has fields that cannot be left out.
-/
def record? (names : List String) (least : Nat) : Json → Option Record
  | .array items =>
    if least ≤ items.length ∧ items.length ≤ names.length then some (names.zip items) else none
  | json => json.fields? names

/-- A map with texts as keys. -/
def textMap? (read : Json → Option Item) (json : Json) : Option (SortedMap String Item) := do
  let entries ← (← json.members?).mapM fun member => (read member.2).map fun item =>
    (member.1, item)
  return .ofList entries

/-- The number that a key is the decimal text of. -/
def keyNumber? : Literal → Option UInt64
  | .plain text =>
    let number := Nat.ofDigitChars 10 text.toList 0
    if Nat.toDigits 10 number = text.toList ∧ number < UInt64.size then some number.toUInt64
    else none
  | .escaped _ | .unpaired => none

/-- A map with numbers as keys. -/
def numberedMap? (reading : Reading) (read : Json → Option Item) :
    Json → Option (SortedMap UInt64 Item)
  | .object members =>
    if members.isEmpty then some .empty
    else if reading.numberedKeys then do
      let entries ← members.mapM fun member => do
        return (← keyNumber? member.1, ← read member.2)
      return .ofList entries
    else none
  | _ => none

/-- A map with texts as keys, written in the order of the keys. -/
def ofTextMap (write : Item → Json) (map : SortedMap String Item) : Json :=
  .ofMembers (map.entries.map fun entry => (entry.1, write entry.2))

/-- A map with numbers as keys, written in the order of the numbers. -/
def ofNumberedMap (write : Item → Json) (map : SortedMap UInt64 Item) : Json :=
  .ofMembers (map.entries.map fun entry => (toString entry.1.toNat, write entry.2))

/-- Null, or something that is written. -/
def ofOption (write : Item → Json) : Option Item → Json
  | none => .null
  | some item => write item

end Json

end Watch
