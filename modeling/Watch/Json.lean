import Watch.Json.Literal
import Watch.Decimal.Numeral

/-!
# JSON values

A JSON text as a tree. Numbers and strings are kept as they are written, and the members of an
object in their order and with repetitions, so that it is the reader of a value who decides which
numbers, strings and repetitions to accept. Trees are written without any blanks.
-/

namespace Watch

/-- A JSON value as it is written. -/
inductive Json where
  | null
  | boolean (truth : Bool)
  | number (numeral : Numeral)
  | string (literal : Literal)
  | array (items : List Json)
  | object (members : List (Literal × Json))

namespace Json

instance : Inhabited Json := ⟨.null⟩

/-- The value of a text. -/
def ofText (text : String) : Json :=
  .string (.ofText text)

/-- The value of an integer. -/
def ofInt (number : Int) : Json :=
  .number (.ofInt number)

/-- The object with some members. -/
def ofMembers (members : List (String × Json)) : Json :=
  .object (members.map fun member => (.ofText member.1, member.2))

/-- The object with one member, which tells by its key what its content is. -/
def tagged (name : String) (content : Json) : Json :=
  .ofMembers [(name, content)]

/-- Numerals are written like `12`, `1.5`, `1e+16` and `2.5e-7`. -/
def spelling : Numeral.Spelling :=
  { mark := 'e', plusSign := true }

mutual

/-- The text of a value. -/
def chars : Json → List Char
  | .null => ['n', 'u', 'l', 'l']
  | .boolean true => ['t', 'r', 'u', 'e']
  | .boolean false => ['f', 'a', 'l', 's', 'e']
  | .number numeral => numeral.write spelling
  | .string literal => literal.write
  | .array [] => ['[', ']']
  | .array (item :: items) => '[' :: (chars item ++ itemsChars items)
  | .object [] => ['\x7b', '\x7d']
  | .object ((key, item) :: members) =>
    '\x7b' :: (key.write ++ ':' :: (chars item ++ membersChars members))

/-- The text of the items of an array after the first, and its end. -/
def itemsChars : List Json → List Char
  | [] => [']']
  | item :: items => ',' :: (chars item ++ itemsChars items)

/-- The text of the members of an object after the first, and its end. -/
def membersChars : List (Literal × Json) → List Char
  | [] => ['\x7d']
  | (key, item) :: members => ',' :: (key.write ++ ':' :: (chars item ++ membersChars members))

end

/-- The text of a value. -/
def write (json : Json) : String :=
  String.ofList json.chars

mutual

/-- How deep arrays and objects are nested in a value. -/
def nesting : Json → Nat
  | .null | .boolean _ | .number _ | .string _ => 0
  | .array items => itemsNesting items + 1
  | .object members => membersNesting members + 1

/-- The nesting of the deepest item. -/
def itemsNesting : List Json → Nat
  | [] => 0
  | item :: items => max (nesting item) (itemsNesting items)

/-- The nesting of the deepest member. -/
def membersNesting : List (Literal × Json) → Nat
  | [] => 0
  | (_, item) :: members => max (nesting item) (membersNesting members)

end

end Json

end Watch
