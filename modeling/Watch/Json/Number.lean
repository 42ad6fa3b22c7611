import Watch.Json

/-!
# The numbers of numerals

An integer that fits into 64 bits is that integer. Every other numeral is a floating-point number:
its digits are gathered as long as they fit into 64 bits, and the number that they make is rounded
and then multiplied or divided by one power of ten, or by two where one is not enough. Each of
these steps rounds to the nearest, so that the result of a long numeral may lie beside the nearest
number. A numeral beyond the largest finite number has no number at all.
-/

namespace Watch

/-- The number that a numeral stands for. -/
inductive Number where
  /-- An integer of 64 bits, with or without a sign. -/
  | integer (number : Int)
  /-- A floating-point number. -/
  | real (number : Float)
deriving DecidableEq

namespace Numeral

/-- The first digits of a numeral, as many as fit into 64 bits, and the power of ten of the last. -/
structure Gathered where
  /-- The number that the digits make. -/
  significand : Nat
  /-- The power of ten of the last digit. -/
  exponent : Int
  /-- Whether a digit was left out. -/
  full : Bool

namespace Gathered

/-- Takes a digit in front of the point; once one does not fit the others only count. -/
def whole (gathered : Gathered) (digit : Nat) : Gathered :=
  let next := gathered.significand * 10 + digit
  if !gathered.full && next < UInt64.size then { gathered with significand := next }
  else { gathered with exponent := gathered.exponent + 1, full := true }

/-- Takes a digit after the point; once one does not fit the others are left out. -/
def fraction (gathered : Gathered) (digit : Nat) : Gathered :=
  let next := gathered.significand * 10 + digit
  if !gathered.full && next < UInt64.size then
    { gathered with significand := next, exponent := gathered.exponent - 1 }
  else { gathered with full := true }

end Gathered

/-- The digits of a numeral that fit into 64 bits. -/
def gather (numeral : Numeral) : Gathered :=
  let digits := (Nat.toDigits 10 numeral.whole).map fun char => char.toNat - 48
  let gathered := digits.foldl Gathered.whole ⟨0, 0, false⟩
  numeral.fraction.foldl (fun gathered digit => gathered.fraction digit.val)
    { gathered with full := false }

/-- A power of ten, rounded. -/
def powerOfTen (exponent : Nat) : Float :=
  Float.ofScientific 1 false exponent

/-- The largest power of ten that a finite number can be scaled by at once. -/
def largestScale : Nat := 308

/-- A number divided by a power of ten, in two steps if it is too large for one. -/
def scaleDown (number : Float) (exponent : Nat) : Float :=
  if exponent ≤ largestScale then number / powerOfTen exponent
  else if exponent ≤ 2 * largestScale then
    number / powerOfTen largestScale / powerOfTen (exponent - largestScale)
  else 0

/-- A number multiplied by a power of ten, unless that is too large. -/
def scaleUp? (number : Float) (exponent : Nat) : Option Float :=
  if exponent ≤ largestScale then
    let scaled := number * powerOfTen exponent
    if scaled.isInf then none else some scaled
  else if number == 0 then some 0
  else none

/-- The magnitude of a numeral as a floating-point number. -/
def magnitude? (numeral : Numeral) : Option Float :=
  let gathered := numeral.gather
  let exponent := gathered.exponent + numeral.exponent.getD 0
  let number := Float.ofNat gathered.significand
  if 0 ≤ exponent then scaleUp? number exponent.toNat
  else some (scaleDown number (-exponent).toNat)

/-- The number that a numeral stands for. -/
def number? (numeral : Numeral) : Option Number :=
  let real := numeral.magnitude?.map fun magnitude =>
    Number.real (if numeral.negative then -magnitude else magnitude)
  if numeral.fraction.isEmpty && numeral.exponent.isNone then
    if numeral.negative then
      if numeral.whole = 0 ∨ -(numeral.whole : Int) < Int64.minValue.toInt then real
      else some (.integer (-numeral.whole))
    else if numeral.whole < UInt64.size then some (.integer numeral.whole)
    else real
  else real

end Numeral

namespace Json

mutual

/-- Whether every string in a value has a text and every numeral a number. -/
def isSound : Json → Bool
  | .null | .boolean _ => true
  | .number numeral => numeral.number?.isSome
  | .string literal => literal.text?.isSome
  | .array items => areItemsSound items
  | .object members => areMembersSound members

/-- Whether all items are sound. -/
def areItemsSound : List Json → Bool
  | [] => true
  | item :: items => isSound item && areItemsSound items

/-- Whether all members are sound. -/
def areMembersSound : List (Literal × Json) → Bool
  | [] => true
  | (key, item) :: members => key.text?.isSome && isSound item && areMembersSound members

end

end Json

end Watch
