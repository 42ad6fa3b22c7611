import Watch.Decimal.Shortest

/-!
# Numerals

A number as it is written: a sign, whole and fractional digits and perhaps a power of ten. A
decimal is written positionally (`1200.0`, `0.0012`) for a range of magnitudes and in scientific
notation (`1.2E9`, `1.2e-9`) beyond it; what differs from one text to another is a `Layout` and
the spelling of the exponent.
-/

namespace Watch

/-- A decimal digit. -/
abbrev Digit := Fin 10

namespace Digit

/-- The character of a digit. -/
def char (digit : Digit) : Char :=
  Nat.digitChar digit.val

/-- The digit of a character. -/
def ofChar? (char : Char) : Option Digit :=
  if bounds : 48 ≤ char.toNat ∧ char.toNat ≤ 57 then some ⟨char.toNat - 48, by omega⟩ else none

end Digit

/-- A written number. -/
structure Numeral where
  /-- Whether a minus sign stands in front. -/
  negative : Bool
  /-- The number in front of the point, written without leading zeros. -/
  whole : Nat
  /-- The digits after the point; there is no point without them. -/
  fraction : List Digit
  /-- The power of ten behind the digits. -/
  exponent : Option Int
deriving DecidableEq

namespace Numeral

/-- The numeral of an integer. -/
def ofInt (number : Int) : Numeral :=
  ⟨number < 0, number.natAbs, [], none⟩

/-- How the power of ten of a numeral is spelled. -/
structure Spelling where
  /-- The mark in front of the exponent. -/
  mark : Char
  /-- Whether an exponent that is not negative has a plus sign. -/
  plusSign : Bool

/-- The text of a numeral. -/
def write (numeral : Numeral) (spelling : Spelling) : List Char :=
  let point := if numeral.fraction.isEmpty then [] else ['.']
  let power := match numeral.exponent with
    | none => []
    | some exponent =>
      let sign := if exponent < 0 then ['-'] else if spelling.plusSign then ['+'] else []
      spelling.mark :: (sign ++ Nat.toDigits 10 exponent.natAbs)
  (if numeral.negative then ['-'] else []) ++ Nat.toDigits 10 numeral.whole ++ point ++
    numeral.fraction.map Digit.char ++ power

end Numeral

namespace Decimal

/-- Where a text goes over from positional to scientific notation. -/
structure Layout where
  /-- The smallest exponent of the leading digit that is written positionally. -/
  least : Int
  /-- The largest exponent of the leading digit that is written positionally. -/
  greatest : Int
  /-- Whether scientific notation writes `.0` after a single digit. -/
  wholeFraction : Bool
  /-- Which of two equally near shortest decimals is written. -/
  tie : Tie

/-- The last digits of a number, with leading zeros where it has fewer. -/
def lastDigits : Nat → Nat → List Digit
  | 0, _ => []
  | count + 1, number => lastDigits count (number / 10) ++ [⟨number % 10, by omega⟩]

/-- How many digits the significand has. -/
def size (decimal : Decimal) : Nat :=
  (Nat.toDigits 10 decimal.significand).length

/-- The exponent of the leading digit: that of `123.4` is two. -/
def leadingExponent (decimal : Decimal) : Int :=
  decimal.exponent + decimal.size - 1

/-- Positional notation, with at least one digit on each side of the point. -/
def positional (decimal : Decimal) (negative : Bool) : Numeral :=
  if 0 ≤ decimal.exponent then
    ⟨negative, decimal.significand * Nat.pow 10 decimal.exponent.toNat, [0], none⟩
  else
    let places := (-decimal.exponent).toNat
    ⟨negative, decimal.significand / Nat.pow 10 places, lastDigits places decimal.significand,
      none⟩

/-- Scientific notation, with one digit in front of the point. -/
def scientific (decimal : Decimal) (negative wholeFraction : Bool) : Numeral :=
  let places := decimal.size - 1
  let fraction := if places = 0 ∧ wholeFraction then [0] else lastDigits places decimal.significand
  ⟨negative, decimal.significand / Nat.pow 10 places, fraction, some decimal.leadingExponent⟩

/-- The numeral of a signed decimal in a layout. -/
def numeral (decimal : Decimal) (layout : Layout) (negative : Bool) : Numeral :=
  if layout.least ≤ decimal.leadingExponent ∧ decimal.leadingExponent ≤ layout.greatest then
    decimal.positional negative
  else decimal.scientific negative layout.wholeFraction

end Decimal

namespace Numeral

open Float.Model (Format UnpackedFloat)

/-- The shortest numeral of a finite number in a layout; infinities and not-a-number have none. -/
def ofUnpacked? (format : Format) (layout : Decimal.Layout) (number : UnpackedFloat) :
    Option Numeral :=
  match number with
  | .zero sign | .finite sign .. =>
    some ((Decimal.ofUnpacked format layout.tie number).numeral layout (sign == .negative))
  | .infinity _ | .notANumber => none

end Numeral

end Watch
