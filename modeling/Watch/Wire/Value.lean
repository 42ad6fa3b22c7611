import Watch.Wire.Reading
import Watch.Value

/-!
# Values on the wire

A value is an object whose only key is its type, except that the null reference and `void` are the
strings with these names. Floating-point numbers are written as the shortest numeral that reads
back, positionally in a range of magnitudes that depends on the width; infinities and not-a-number
have no numeral and are written as null.
-/

namespace Watch

namespace Json

/-- Numbers in double precision are written positionally from `0.00001` to below `1e+16`. -/
def doubleLayout : Decimal.Layout :=
  { least := -5, greatest := 15, wholeFraction := false, tie := .even }

/-- Numbers in single precision are written positionally from `0.000001` to below `1e+13`. -/
def floatLayout : Decimal.Layout :=
  { least := -6, greatest := 12, wholeFraction := false, tie := .even }

/-- A number in double precision. -/
def ofDouble (number : Float) : Json :=
  ofOption .number (Numeral.ofUnpacked? .binary64 doubleLayout number.toModel.unpack)

/-- A number in single precision. -/
def ofFloat (number : Float32) : Json :=
  ofOption .number (Numeral.ofUnpacked? .binary32 floatLayout number.toModel.unpack)

end Json

namespace TypeTag

/-- A type on the wire. -/
def toJson (tag : TypeTag) : Json :=
  .ofText tag.name

/-- Reads a type. -/
def ofJson? (reading : Reading) (json : Json) : Option TypeTag :=
  json.named? reading all name

end TypeTag

namespace Value

/-- A value on the wire. -/
def toJson : Value → Json
  | .boolean truth => .tagged "boolean" (.boolean truth)
  | .byte number => .tagged "byte" (.ofInt number.toInt)
  | .char unit => .tagged "char" (.ofInt unit.toNat)
  | .short number => .tagged "short" (.ofInt number.toInt)
  | .int number => .tagged "int" (.ofInt number.toInt)
  | .long number => .tagged "long" (.ofInt number.toInt)
  | .float number => .tagged "float" (.ofFloat number)
  | .double number => .tagged "double" (.ofDouble number)
  | .string text => .tagged "string" (.ofText text)
  | .null => .ofText "null"
  | .void => .ofText "void"
  | .object id typeName => .tagged "object" <| .ofMembers
    [("id", .ofInt id.toNat), ("type_name", .ofText typeName)]
  | .array id element length => .tagged "array" <| .ofMembers
    [("id", .ofInt id.toNat), ("element_type", element.toJson), ("length", .ofInt length.toNat)]

/-- Reads the content of a value of the type with a name. -/
def ofContent? (reading : Reading) (name : String) (content : Json) : Option Value :=
  match name with
  | "boolean" => content.truth?.map .boolean
  | "byte" =>
    (content.integer? Int8.minValue.toInt Int8.maxValue.toInt).map fun number =>
      .byte number.toInt8
  | "char" => content.word16?.map .char
  | "short" =>
    (content.integer? Int16.minValue.toInt Int16.maxValue.toInt).map fun number =>
      .short number.toInt16
  | "int" =>
    (content.integer? Int32.minValue.toInt Int32.maxValue.toInt).map fun number =>
      .int number.toInt32
  | "long" =>
    (content.integer? Int64.minValue.toInt Int64.maxValue.toInt).map fun number =>
      .long number.toInt64
  | "float" => content.float?.map .float
  | "double" => content.double?.map .double
  | "string" => content.text?.map .string
  | "object" => do
    let record ← content.record? ["id", "type_name"] 2
    return .object (← record.required "id" Json.word64?) (← record.required "type_name" Json.text?)
  | "array" => do
    let record ← content.record? ["id", "element_type", "length"] 3
    return .array (← record.required "id" Json.word64?)
      (← record.required "element_type" (TypeTag.ofJson? reading))
      (← record.required "length" Json.word32?)
  | _ => none

/-- Reads a value. -/
def ofJson? (reading : Reading) (json : Json) : Option Value := do
  let (name, content) ← json.variant?
  match name with
  | "null" => if reading.isNothing content then some .null else none
  | "void" => if reading.isNothing content then some .void else none
  | _ => content.bind (ofContent? reading name)

end Value

end Watch
