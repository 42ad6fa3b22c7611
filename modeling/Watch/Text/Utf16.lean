/-!
# UTF-16 code units

The suspended program counts and hashes the code units of a text, not its characters: a character
beyond the first 65536 code points takes two units, a high and a low half.
-/

namespace Watch

namespace Utf16

/-- Whether a unit is the first half of a pair. -/
def isHighHalf (unit : UInt16) : Bool :=
  0xD800 ≤ unit && unit < 0xDC00

/-- Whether a unit is the second half of a pair. -/
def isLowHalf (unit : UInt16) : Bool :=
  0xDC00 ≤ unit && unit < 0xE000

/-- The units of a character. -/
def unitsOfChar (char : Char) : List UInt16 :=
  let point := char.toNat
  if point < 0x10000 then [point.toUInt16]
  else
    let above := point - 0x10000
    [(0xD800 + above / 0x400).toUInt16, (0xDC00 + above % 0x400).toUInt16]

/-- The units of a text. -/
def units (text : String) : List UInt16 :=
  text.toList.flatMap unitsOfChar

/-- The character of a pair of halves. -/
def pair (high low : UInt16) : Char :=
  Char.ofNat (0x10000 + (high.toNat - 0xD800) * 0x400 + (low.toNat - 0xDC00))

/-- The character of a unit; a half of a pair on its own stands for the replacement character. -/
def charOfUnit (unit : UInt16) : Char :=
  if isHighHalf unit || isLowHalf unit then '\ufffd' else Char.ofNat unit.toNat

/-- How many units a text has, as an `int`. -/
def length (text : String) : Int32 :=
  Int32.ofNat (units text).length

/-- The hash of a text: its units as the digits of a number in base 31, as an `int`. -/
def hash (text : String) : Int32 :=
  (units text).foldl (fun hash unit => hash * 31 + unit.toUInt32.toInt32) 0

end Utf16

end Watch
