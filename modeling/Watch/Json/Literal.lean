import Watch.Text.Utf16

/-!
# String literals

A JSON string as it is written. Its escapes may name UTF-16 units, two of which make one character;
where a half stands alone the literal is well formed and yet has no text. Whether a literal was
written with escapes is kept, because the keys of a map with numbers must be written without.
-/

namespace Watch

/-- A string as it is written in a JSON text. -/
inductive Literal where
  /-- A literal without escapes. -/
  | plain (text : String)
  /-- A literal with at least one escape. -/
  | escaped (text : String)
  /-- A literal in which an escape names half a pair of units. -/
  | unpaired
deriving DecidableEq

namespace Literal

/-- The text of a literal. -/
def text? : Literal → Option String
  | .plain text | .escaped text => some text
  | .unpaired => none

/-- Whether a character cannot stand for itself. -/
def needsEscape (char : Char) : Bool :=
  char == '"' || char == '\\' || char.toNat < 0x20

/-- The literal of a text, with no more escapes than it needs. -/
def ofText (text : String) : Literal :=
  if text.toList.any needsEscape then .escaped text else .plain text

/-- The spelling of a character inside a literal. -/
def escape (char : Char) : List Char :=
  match char with
  | '"' => ['\\', '"']
  | '\\' => ['\\', '\\']
  | '\x08' => ['\\', 'b']
  | '\x0c' => ['\\', 'f']
  | '\n' => ['\\', 'n']
  | '\r' => ['\\', 'r']
  | '\t' => ['\\', 't']
  | _ =>
    if char.toNat < 0x20 then
      ['\\', 'u', '0', '0', Nat.digitChar (char.toNat / 16), Nat.digitChar (char.toNat % 16)]
    else [char]

/-- The spelling of a text between quotation marks. -/
def quote (text : String) : List Char :=
  '"' :: (text.toList.flatMap escape ++ ['"'])

/-- The spelling of a literal; one without a text is spelled as a single half. -/
def write : Literal → List Char
  | .plain text | .escaped text => quote text
  | .unpaired => ['"', '\\', 'u', 'd', '8', '0', '0', '"']

/-- A character of a literal, or a unit that an escape names. -/
inductive Piece where
  | char (char : Char)
  | unit (unit : UInt16)
deriving DecidableEq

/-- The characters that pieces stand for; two halves of a pair that meet are one character. -/
def resolve : List Piece → Option (List Char)
  | [] => some []
  | .char char :: rest => (char :: ·) <$> resolve rest
  | .unit high :: .unit low :: rest =>
    if Utf16.isHighHalf high then
      if Utf16.isLowHalf low then (Utf16.pair high low :: ·) <$> resolve rest else none
    else if Utf16.isLowHalf high then none
    else (Char.ofNat high.toNat :: ·) <$> resolve (.unit low :: rest)
  | .unit unit :: rest =>
    if Utf16.isHighHalf unit || Utf16.isLowHalf unit then none
    else (Char.ofNat unit.toNat :: ·) <$> resolve rest

/-- The literal with some pieces, which are listed in their order. -/
def ofPieces (pieces : List Piece) (hasEscapes : Bool) : Literal :=
  match resolve pieces with
  | none => .unpaired
  | some chars =>
    if hasEscapes then .escaped (String.ofList chars) else .plain (String.ofList chars)

end Literal

end Watch
