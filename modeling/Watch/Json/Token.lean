import Watch.Json

/-!
# The tokens of a JSON text

A scanner takes the characters of a text one at a time and gives out tokens. A numeral ends where a
character cannot continue it; every other token ends by its own last character.
-/

namespace Watch

namespace Json

/-- A token of a JSON text. -/
inductive Token where
  | arrayStart
  | arrayEnd
  | objectStart
  | objectEnd
  | comma
  | colon
  | null
  | boolean (truth : Bool)
  | number (numeral : Numeral)
  | string (literal : Literal)
deriving DecidableEq

/-- The beginning of a numeral; digits after the point are listed last first. -/
inductive NumeralPart where
  | sign
  /-- The digits in front of the point. -/
  | whole (negative : Bool) (whole : Nat)
  /-- The digits in front of the point, and the point. -/
  | point (negative : Bool) (whole : Nat)
  /-- The digits up to some behind the point. -/
  | fraction (negative : Bool) (whole : Nat) (digits : List Digit)
  /-- All digits, and the mark of the exponent. -/
  | mark (negative : Bool) (whole : Nat) (digits : List Digit)
  /-- All digits, and the mark and the sign of the exponent. -/
  | markSign (negative : Bool) (whole : Nat) (digits : List Digit) (down : Bool)
  /-- All digits, and the exponent. -/
  | exponent (negative : Bool) (whole : Nat) (digits : List Digit) (down : Bool) (exponent : Nat)
deriving DecidableEq

namespace NumeralPart

/-- The beginning of a numeral with one more digit; nothing follows a leading zero. -/
def withDigit (digit : Digit) : NumeralPart → Option NumeralPart
  | .sign => some (.whole true digit.val)
  | .whole negative ahead =>
    if ahead = 0 then none else some (.whole negative (ahead * 10 + digit.val))
  | .point negative ahead => some (.fraction negative ahead [digit])
  | .fraction negative ahead digits => some (.fraction negative ahead (digit :: digits))
  | .mark negative ahead digits => some (.exponent negative ahead digits false digit.val)
  | .markSign negative ahead digits down =>
    some (.exponent negative ahead digits down digit.val)
  | .exponent negative ahead digits down power =>
    some (.exponent negative ahead digits down (power * 10 + digit.val))

/-- The beginning of a numeral with one more character. -/
def next? (part : NumeralPart) (char : Char) : Option NumeralPart :=
  match Digit.ofChar? char with
  | some digit => part.withDigit digit
  | none =>
    match part, char with
    | .whole negative ahead, '.' => some (.point negative ahead)
    | .whole negative ahead, 'e' | .whole negative ahead, 'E' => some (.mark negative ahead [])
    | .fraction negative ahead digits, 'e' | .fraction negative ahead digits, 'E' =>
      some (.mark negative ahead digits)
    | .mark negative ahead digits, '+' => some (.markSign negative ahead digits false)
    | .mark negative ahead digits, '-' => some (.markSign negative ahead digits true)
    | _, _ => none

/-- The numeral, if the part is one. -/
def finish? : NumeralPart → Option Numeral
  | .whole negative ahead => some ⟨negative, ahead, [], none⟩
  | .fraction negative ahead digits => some ⟨negative, ahead, digits.reverse, none⟩
  | .exponent negative ahead digits down power =>
    some ⟨negative, ahead, digits.reverse, some (if down then -power else power)⟩
  | .sign | .point .. | .mark .. | .markSign .. => none

end NumeralPart

/-- What a scanner is in the middle of; the pieces of a string are listed last first. -/
inductive Scanner where
  /-- Between two tokens. -/
  | between
  /-- In a word, with the characters that are left of it and the token that it is. -/
  | word (rest : List Char) (token : Token)
  | number (part : NumeralPart)
  | string (pieces : List Literal.Piece) (hasEscapes : Bool)
  /-- In a string, after a backslash. -/
  | escape (pieces : List Literal.Piece)
  /-- In an escape that names a unit: how many digits follow the next one, and the value. -/
  | unit (pieces : List Literal.Piece) (left : Nat) (value : Nat)
deriving DecidableEq

namespace Scanner

/-- Whether a character may stand between two tokens. -/
def isBlank (char : Char) : Bool :=
  char == ' ' || char == '\t' || char == '\n' || char == '\r'

/-- Takes a character between two tokens. -/
def start (char : Char) : Option (Scanner × List Token) :=
  match char with
  | '[' => some (.between, [.arrayStart])
  | ']' => some (.between, [.arrayEnd])
  | '\x7b' => some (.between, [.objectStart])
  | '\x7d' => some (.between, [.objectEnd])
  | ',' => some (.between, [.comma])
  | ':' => some (.between, [.colon])
  | '"' => some (.string [] false, [])
  | '-' => some (.number .sign, [])
  | 'n' => some (.word ['u', 'l', 'l'] .null, [])
  | 't' => some (.word ['r', 'u', 'e'] (.boolean true), [])
  | 'f' => some (.word ['a', 'l', 's', 'e'] (.boolean false), [])
  | _ =>
    if isBlank char then some (.between, [])
    else (Digit.ofChar? char).map fun digit => (.number (.whole false digit.val), [])

/-- The character that a backslash and a letter stand for. -/
def escaped? : Char → Option Char
  | '"' => some '"'
  | '\\' => some '\\'
  | '/' => some '/'
  | 'b' => some '\x08'
  | 'f' => some '\x0c'
  | 'n' => some '\n'
  | 'r' => some '\r'
  | 't' => some '\t'
  | _ => none

/-- The value of a hexadecimal digit. -/
def hexDigit? (char : Char) : Option Nat :=
  let point := char.toNat
  if 48 ≤ point ∧ point ≤ 57 then some (point - 48)
  else if 65 ≤ point ∧ point ≤ 70 then some (point - 55)
  else if 97 ≤ point ∧ point ≤ 102 then some (point - 87)
  else none

/-- Takes one more character, and gives out the tokens that it completes. -/
def step (scanner : Scanner) (char : Char) : Option (Scanner × List Token) :=
  match scanner with
  | .between => start char
  | .word [] _ => none
  | .word (expected :: rest) token =>
    if char ≠ expected then none
    else if rest.isEmpty then some (.between, [token])
    else some (.word rest token, [])
  | .number part =>
    match part.next? char with
    | some part => some (.number part, [])
    | none => do
      let numeral ← part.finish?
      let (scanner, tokens) ← start char
      return (scanner, .number numeral :: tokens)
  | .string pieces hasEscapes =>
    if char = '"' then
      some (.between, [.string (.ofPieces pieces.reverse hasEscapes)])
    else if char = '\\' then some (.escape pieces, [])
    else if char.toNat < 0x20 then none
    else some (.string (.char char :: pieces) hasEscapes, [])
  | .escape pieces =>
    if char = 'u' then some (.unit pieces 3 0, [])
    else (escaped? char).map fun char => (.string (.char char :: pieces) true, [])
  | .unit pieces left value => do
    let value := value * 16 + (← hexDigit? char)
    match left with
    | 0 => return (.string (.unit value.toUInt16 :: pieces) true, [])
    | left + 1 => return (.unit pieces left value, [])

/-- The tokens that the end of the text completes. -/
def finish? : Scanner → Option (List Token)
  | .between => some []
  | .number part => part.finish?.map fun numeral => [.number numeral]
  | _ => none

end Scanner

end Json

end Watch
