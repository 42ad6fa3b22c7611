/-!
# Floating-point conversions

Exact conversions among the two floating-point widths and the integers, and the remainder of a
division that keeps the sign of the dividend. All of them go through the unpacked form of a
number, where a finite number is a signed whole mantissa times a power of two; a result that the
target width cannot hold is rounded to the nearest number, ties to the even mantissa.
-/

namespace Watch

namespace Floating

open Float.Model (Format UnpackedFloat)

/-- A number rounded to a format: to the nearest, ties to even. -/
def reround (format : Format) : UnpackedFloat → UnpackedFloat
  | .finite sign mantissa exponent _ => UnpackedFloat.round format sign mantissa exponent
  | .zero sign => .zero sign
  | .infinity sign => .infinity sign
  | .notANumber => .notANumber

/-- The single-precision number nearest to a double-precision one. -/
def narrow (number : Float) : Float32 :=
  .ofModel (.pack (reround .binary32 number.toModel.unpack))

/-- A single-precision number in double precision, which holds it exactly. -/
def widen (number : Float32) : Float :=
  .ofModel (.pack (reround .binary64 number.toModel.unpack))

/--
The remainder of the division whose quotient is cut to a whole number. It is exact, smaller than
the divisor, and has the sign of the dividend, also when it is zero.
-/
def remainder (format : Format) : UnpackedFloat → UnpackedFloat → UnpackedFloat
  | .notANumber, _ | _, .notANumber | .infinity _, _ | _, .zero _ => .notANumber
  | .zero sign, _ => .zero sign
  | dividend, .infinity _ => dividend
  | .finite sign mantissa exponent _, .finite _ divisor divisorExponent _ =>
    let unit := min exponent divisorExponent
    let rest :=
      (mantissa <<< (exponent - unit).toNat) % (divisor <<< (divisorExponent - unit).toNat)
    if rest = 0 then .zero sign else UnpackedFloat.round format sign rest unit

/-- The remainder of two single-precision numbers. -/
def remainder32 (dividend divisor : Float32) : Float32 :=
  .ofModel (.pack (remainder .binary32 dividend.toModel.unpack divisor.toModel.unpack))

/-- The remainder of two double-precision numbers. -/
def remainder64 (dividend divisor : Float) : Float :=
  .ofModel (.pack (remainder .binary64 dividend.toModel.unpack divisor.toModel.unpack))

end Floating

end Watch
