import Watch.Value
import Watch.Floating
import Watch.Decimal.Numeral
import Watch.Text.Utf16

/-!
# The text of a value

Two texts of a value: the one that takes part in string concatenation, which objects and arrays do
not have (only the suspended program can render them), and the one that a user is shown.
-/

namespace Watch

open Float.Model (Format UnpackedFloat)

namespace FloatingText

/-- Positional from a thousandth up to ten million, otherwise scientific with a fraction. -/
def layout : Decimal.Layout :=
  { least := -3, greatest := 6, wholeFraction := true, tie := .up }

/-- Exponents are written like `E7` and `E-4`. -/
def spelling : Numeral.Spelling :=
  { mark := 'E', plusSign := false }

/-- The text of a floating-point number of a format. -/
def ofUnpacked (format : Format) (number : UnpackedFloat) : String :=
  match Numeral.ofUnpacked? format layout number, number with
  | some numeral, _ => String.ofList (numeral.write spelling)
  | none, .infinity .positive => "Infinity"
  | none, .infinity .negative => "-Infinity"
  | none, _ => "NaN"

end FloatingText

namespace Value

/-- The text of a value in a string concatenation; objects and arrays have none of their own. -/
def plainText : Value → Option String
  | .boolean truth => some (if truth then "true" else "false")
  | .byte number => some (toString number.toInt)
  | .char unit => some (String.singleton (Utf16.charOfUnit unit))
  | .short number => some (toString number.toInt)
  | .int number => some (toString number.toInt)
  | .long number => some (toString number.toInt)
  | .float number => some (FloatingText.ofUnpacked .binary32 number.toModel.unpack)
  | .double number => some (FloatingText.ofUnpacked .binary64 number.toModel.unpack)
  | .string text => some text
  | .null => some "null"
  | .void => some "void"
  | .object .. | .array .. => none

/-- The text of a value as a user is shown it: quoted characters and strings, handles by id. -/
def display (value : Value) : String :=
  match value with
  | .char unit => s!"'{Utf16.charOfUnit unit}'"
  | .string text => s!"\"{text}\""
  | .object id typeName => s!"{typeName} (id={id.toNat})"
  | .array id element length => s!"{element.name}[{length.toNat}] (id={id.toNat})"
  | _ => value.plainText.getD ""

end Value

end Watch
