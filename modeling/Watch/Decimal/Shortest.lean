/-!
# Shortest decimals

The shortest decimal that reads back as a given floating-point number, and among the shortest
ones the nearest to it.

A finite number is `mantissa · 2 ^ exponent`. The reals that round to it form an interval that
reaches half a unit of its last place upwards, and half a unit downwards, or a quarter where the
number opens a new power of two; the ends belong to it when the mantissa is even. Written in a
small enough power of ten, the number and both ends are whole (`Interval`), so that the search
over decimal grids (`Interval.search`), from coarse to fine, is exact arithmetic. If any point of
a grid lies in the interval, so does one of the two neighbours of the number on that grid.
-/

namespace Watch

/-- The decimal `significand · 10 ^ exponent`. -/
structure Decimal where
  /-- The whole number in front of the power of ten. -/
  significand : Nat
  /-- The power of ten. -/
  exponent : Int
deriving DecidableEq

namespace Decimal

/-- Which of two equally near decimals is taken. -/
inductive Tie where
  /-- The larger one. -/
  | up
  /-- The one whose last digit is even. -/
  | even
deriving DecidableEq

/-- The reals that round to a number, in units of `10 ^ unit`. -/
structure Interval where
  /-- The lower end. -/
  lower : Nat
  /-- The number itself. -/
  centre : Nat
  /-- The upper end. -/
  upper : Nat
  /-- Whether the ends belong to the interval. -/
  closed : Bool
  /-- The power of ten that is the unit. -/
  unit : Int
deriving DecidableEq

namespace Interval

/-- Whether a multiple of the unit lies in the interval. -/
def contains (interval : Interval) (point : Nat) : Bool :=
  if interval.closed then interval.lower ≤ point && point ≤ interval.upper
  else interval.lower < point && point < interval.upper

/--
The interval of the number `mantissa · 2 ^ exponent`; `opensBinade` tells that the numbers below
it lie twice as dense as those above.
-/
def ofBinary (mantissa : Nat) (exponent : Int) (opensBinade : Bool) : Interval :=
  let quarter := exponent - 2
  -- one quarter of the last place is `2 ^ quarter`, which is `scale · 10 ^ unit`
  let scale := if 0 ≤ quarter then Nat.pow 2 quarter.toNat else Nat.pow 5 (-quarter).toNat
  { lower := (4 * mantissa - if opensBinade then 1 else 2) * scale
    centre := 4 * mantissa * scale
    upper := (4 * mantissa + 2) * scale
    closed := mantissa % 2 == 0
    unit := min 0 quarter }

/-- The decimal `point · 10 ^ place`, in units of the interval; a point of ten moves up a place. -/
def decimal (interval : Interval) (point place : Nat) : Decimal :=
  if point = 10 then ⟨1, interval.unit + place + 1⟩ else ⟨point, interval.unit + place⟩

/--
The coarsest decimal in the interval on the grids of `10 ^ place` and below, and the nearest one
on that grid.
-/
def search (interval : Interval) (tie : Tie) : Nat → Decimal
  | 0 => interval.decimal interval.centre 0
  | place + 1 =>
    let step := Nat.pow 10 (place + 1)
    let below := interval.centre / step
    let above := below + 1
    match interval.contains (below * step), interval.contains (above * step) with
    | false, false => interval.search tie place
    | true, false => interval.decimal below (place + 1)
    | false, true => interval.decimal above (place + 1)
    | true, true =>
      match compare (interval.centre - below * step) (above * step - interval.centre), tie with
      | .lt, _ => interval.decimal below (place + 1)
      | .gt, _ | .eq, .up => interval.decimal above (place + 1)
      | .eq, .even => interval.decimal (if below % 2 = 0 then below else above) (place + 1)

/-- The shortest decimal in the interval: the grids start at the first digit of the number. -/
def shortest (interval : Interval) (tie : Tie) : Decimal :=
  interval.search tie ((Nat.toDigits 10 interval.centre).length - 1)

end Interval

open Float.Model (Format UnpackedFloat)

/-- The shortest decimal of the magnitude of a finite number in a format; zero for all others. -/
def ofUnpacked (format : Format) (tie : Tie) : UnpackedFloat → Decimal
  | .finite _ mantissa exponent _ =>
    let opensBinade :=
      mantissa == Nat.pow 2 format.mantissaBitsWithoutImplicit &&
        exponent != format.minExponent
    (Interval.ofBinary mantissa exponent opensBinade).shortest tie
  | _ => ⟨0, 0⟩

end Decimal

end Watch
