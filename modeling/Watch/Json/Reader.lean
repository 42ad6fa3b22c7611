import Watch.Json.Token

/-!
# Reading JSON

A reader takes tokens one at a time and puts values together. It keeps the arrays and objects that
are open, the innermost first, each with what it holds already; a value that is complete goes into
the innermost one. `Json.read?` runs the scanner and the reader over a text side by side, and
accepts exactly one value with nothing but blanks around it.
-/

namespace Watch

namespace Json

/-- An array or object that is open, waiting for the value that is being read. -/
inductive Open where
  /-- An array with its items so far, last first. -/
  | array (items : List Json)
  /-- An object with its members so far, last first, and the key of the value. -/
  | object (members : List (Literal × Json)) (key : Literal)

/-- What a reader waits for, with the arrays and objects that are open around it. -/
inductive Reader where
  | value (outer : List Open)
  /-- The first item of an array, or its end. -/
  | firstItem (outer : List Open)
  /-- A comma after an item, or the end of the array. -/
  | afterItem (items : List Json) (outer : List Open)
  /-- The first key of an object, or its end. -/
  | firstKey (outer : List Open)
  /-- A key after a comma. -/
  | nextKey (members : List (Literal × Json)) (outer : List Open)
  /-- A colon after a key. -/
  | afterKey (members : List (Literal × Json)) (key : Literal) (outer : List Open)
  /-- A comma after a member, or the end of the object. -/
  | afterMember (members : List (Literal × Json)) (outer : List Open)
  /-- Nothing more. -/
  | finished (json : Json)

namespace Reader

/-- Puts a complete value into the innermost open array or object. -/
def complete (json : Json) : List Open → Reader
  | [] => .finished json
  | .array items :: outer => .afterItem (json :: items) outer
  | .object members key :: outer => .afterMember ((key, json) :: members) outer

/-- Takes the first token of a value. -/
def startValue (outer : List Open) : Token → Option Reader
  | .arrayStart => some (.firstItem outer)
  | .objectStart => some (.firstKey outer)
  | .null => some (complete .null outer)
  | .boolean truth => some (complete (.boolean truth) outer)
  | .number numeral => some (complete (.number numeral) outer)
  | .string literal => some (complete (.string literal) outer)
  | .arrayEnd | .objectEnd | .comma | .colon => none

/-- Takes one more token. -/
def step (reader : Reader) (token : Token) : Option Reader :=
  match reader, token with
  | .value outer, token => startValue outer token
  | .firstItem outer, .arrayEnd => some (complete (.array []) outer)
  | .firstItem outer, token => startValue (.array [] :: outer) token
  | .afterItem items outer, .comma => some (.value (.array items :: outer))
  | .afterItem items outer, .arrayEnd => some (complete (.array items.reverse) outer)
  | .firstKey outer, .objectEnd => some (complete (.object []) outer)
  | .firstKey outer, .string key => some (.afterKey [] key outer)
  | .nextKey members outer, .string key => some (.afterKey members key outer)
  | .afterKey members key outer, .colon => some (.value (.object members key :: outer))
  | .afterMember members outer, .comma => some (.nextKey members outer)
  | .afterMember members outer, .objectEnd => some (complete (.object members.reverse) outer)
  | _, _ => none

/-- The value that was read, if nothing is missing. -/
def finish? : Reader → Option Json
  | .finished json => some json
  | _ => none

end Reader

/-- Takes one more character of a text: the scanner takes it, and the reader its tokens. -/
def readChar (state : Scanner × Reader) (char : Char) : Option (Scanner × Reader) := do
  let (scanner, tokens) ← state.1.step char
  let reader ← tokens.foldlM Reader.step state.2
  return (scanner, reader)

/-- The value that a text is. -/
def read? (text : String) : Option Json := do
  let (scanner, reader) ← text.toList.foldlM readChar (.between, .value [])
  let tokens ← scanner.finish?
  let reader ← tokens.foldlM Reader.step reader
  reader.finish?

end Json

end Watch
