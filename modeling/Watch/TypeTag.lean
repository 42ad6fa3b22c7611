/-!
# Type tags

The types that a debugger shows for a value of the suspended program, and the promotions that
choose the type an operator works in. A unary operator widens the three types narrower than `int`
to `int`; a binary operator widens both operands along `int < long < float < double`, works on
texts when either operand is a string, and treats whatever is left over as references.
-/

namespace Watch

/-- The type of a value of the suspended program. -/
inductive TypeTag where
  | boolean
  | byte
  | char
  | short
  | int
  | long
  | float
  | double
  | object
  | array
  | void
  | string
deriving DecidableEq

namespace TypeTag

/-- Every type tag, each once. -/
def all : List TypeTag :=
  [.boolean, .byte, .char, .short, .int, .long, .float, .double, .object, .array, .void, .string]

/-- The name of a type, as messages and the wire format write it. -/
def name : TypeTag → String
  | .boolean => "boolean"
  | .byte => "byte"
  | .char => "char"
  | .short => "short"
  | .int => "int"
  | .long => "long"
  | .float => "float"
  | .double => "double"
  | .object => "object"
  | .array => "array"
  | .void => "void"
  | .string => "string"

/-- The types whose values are numbers; a `char` counts as one. -/
def isNumeric : TypeTag → Bool
  | .byte | .char | .short | .int | .long | .float | .double => true
  | _ => false

/-- The types whose values are held by value: the numbers and `boolean`. -/
def isPrimitive (tag : TypeTag) : Bool :=
  tag.isNumeric || tag == .boolean

/-- The type a unary operator works in: `int` for the types narrower than `int`. -/
def unaryPromotion : TypeTag → TypeTag
  | .byte | .short | .char => .int
  | tag => tag

/-- The wider of two promoted numeric types along `int < long < float < double`. -/
def wider (left right : TypeTag) : TypeTag :=
  if left = .double ∨ right = .double then .double
  else if left = .float ∨ right = .float then .float
  else if left = .long ∨ right = .long then .long
  else .int

/-- The type a binary operator works in for operands of two types. -/
def binaryPromotion (left right : TypeTag) : TypeTag :=
  if left.isNumeric && right.isNumeric then wider left.unaryPromotion right.unaryPromotion
  else if left = .boolean ∧ right = .boolean then .boolean
  else if left = .string ∨ right = .string then .string
  else .object

end TypeTag

end Watch
