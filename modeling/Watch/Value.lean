import Watch.TypeTag

/-!
# Values

A value as a debugger sees it. Numbers, booleans, characters and strings are copies of what the
suspended program holds; objects and arrays are handles that name something inside it.
-/

namespace Watch

/-- A value fetched from the suspended program, or on its way back to it. -/
inductive Value where
  | boolean (truth : Bool)
  | byte (number : Int8)
  /-- A UTF-16 code unit, which need not be a character on its own. -/
  | char (unit : UInt16)
  | short (number : Int16)
  | int (number : Int32)
  | long (number : Int64)
  | float (number : Float32)
  | double (number : Float)
  | string (text : String)
  | null
  | void
  | object (id : UInt64) (typeName : String)
  | array (id : UInt64) (element : TypeTag) (length : UInt32)
deriving DecidableEq

namespace Value

/-- The type of a value; the null reference is an object. -/
def tag : Value → TypeTag
  | .boolean _ => .boolean
  | .byte _ => .byte
  | .char _ => .char
  | .short _ => .short
  | .int _ => .int
  | .long _ => .long
  | .float _ => .float
  | .double _ => .double
  | .string _ => .string
  | .null | .object .. => .object
  | .array .. => .array
  | .void => .void

/-- Whether a value is held by value: a number or a boolean. -/
def isPrimitive (value : Value) : Bool :=
  value.tag.isPrimitive

/-- Whether a value is the null reference. -/
def isNull : Value → Bool
  | .null => true
  | _ => false

end Value

end Watch
