import Watch.Value.Text
import Watch.EvaluationError

/-!
# Conversions of values

Numbers convert among each other: an integer keeps its low bits where the target is narrower, a
floating-point number is cut to a whole number and brought to the nearest bound, and a character
counts as its code unit. Every primitive has a text. References pass wherever a reference is
expected, and nothing crosses between booleans and numbers.
-/

namespace Watch

namespace Value

/-- The error of a value that is used as one of another type. -/
def coercion (value : Value) (expected : TypeTag) : EvaluationError :=
  .coercion expected.name value.tag.name

/-- The truth of a boolean. -/
def asBoolean (value : Value) : Except EvaluationError Bool :=
  match value with
  | .boolean truth => .ok truth
  | _ => .error (value.coercion .boolean)

/-- A number as an `int`. -/
def asInt (value : Value) : Except EvaluationError Int32 :=
  match value with
  | .byte number => .ok number.toInt32
  | .char unit => .ok unit.toUInt32.toInt32
  | .short number => .ok number.toInt32
  | .int number => .ok number
  | .long number => .ok number.toInt32
  | .float number => .ok number.toModel.toInt32
  | .double number => .ok number.toModel.toInt32
  | _ => .error (value.coercion .int)

/-- A number as a `long`. -/
def asLong (value : Value) : Except EvaluationError Int64 :=
  match value with
  | .byte number => .ok number.toInt64
  | .char unit => .ok unit.toUInt64.toInt64
  | .short number => .ok number.toInt64
  | .int number => .ok number.toInt64
  | .long number => .ok number
  | .float number => .ok number.toModel.toInt64
  | .double number => .ok number.toModel.toInt64
  | _ => .error (value.coercion .long)

/-- A number as a `float`, rounded to the nearest. -/
def asFloat (value : Value) : Except EvaluationError Float32 :=
  match value with
  | .byte number => .ok (.ofInt number.toInt)
  | .char unit => .ok (.ofInt unit.toNat)
  | .short number => .ok (.ofInt number.toInt)
  | .int number => .ok (.ofInt number.toInt)
  | .long number => .ok (.ofInt number.toInt)
  | .float number => .ok number
  | .double number => .ok (Floating.narrow number)
  | _ => .error (value.coercion .float)

/-- A number as a `double`, rounded to the nearest. -/
def asDouble (value : Value) : Except EvaluationError Float :=
  match value with
  | .byte number => .ok (.ofInt number.toInt)
  | .char unit => .ok (.ofInt unit.toNat)
  | .short number => .ok (.ofInt number.toInt)
  | .int number => .ok (.ofInt number.toInt)
  | .long number => .ok (.ofInt number.toInt)
  | .float number => .ok (Floating.widen number)
  | .double number => .ok number
  | _ => .error (value.coercion .double)

/-- A number as a code unit: the low bits of the number as an `int`. -/
def asChar (value : Value) : Except EvaluationError UInt16 :=
  match value with
  | .char unit => .ok unit
  | .boolean _ => .error (value.coercion .char)
  | _ => value.asInt.map fun number => number.toUInt32.toUInt16

/-- A value as a string: primitives become their text, and references other than arrays pass. -/
def asString (value : Value) : Except EvaluationError Value :=
  match value with
  | .null | .object .. => .ok value
  | _ =>
    match value.plainText with
    | some text => .ok (.string text)
    | none => .error (value.coercion .string)

/-- A value as a reference of a type: references pass, primitives and `void` do not. -/
def asReference (value : Value) (target : TypeTag) : Except EvaluationError Value :=
  if value.isPrimitive || value.tag == .void then .error (value.coercion target) else .ok value

/-- A value converted to a type; a value of that type already is left alone. -/
def convertTo (value : Value) (target : TypeTag) : Except EvaluationError Value :=
  if value.tag = target then .ok value
  else match target with
    | .boolean => value.asBoolean.map .boolean
    | .byte => value.asInt.map fun number => .byte number.toInt8
    | .char => value.asChar.map .char
    | .short => value.asInt.map fun number => .short number.toInt16
    | .int => value.asInt.map .int
    | .long => value.asLong.map .long
    | .float => value.asFloat.map .float
    | .double => value.asDouble.map .double
    | .string => value.asString
    | .object | .array => value.asReference target
    | .void => .error (value.coercion target)

end Value

end Watch
