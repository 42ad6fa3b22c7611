import Watch.TypeTag

/-!
# Operations

The operators of an expression, and the form in which a compiled expression uses them: together
with the types that the compiler found for the operands and the result.
-/

namespace Watch

/-- An operator with two operands. -/
inductive BinaryOperation where
  | add
  | sub
  | mul
  | div
  | rem
  | and
  | or
  | xor
  | shl
  | shr
  | ushr
  | lt
  | le
  | gt
  | ge
  | eq
  | ne
  | logicalAnd
  | logicalOr
deriving DecidableEq

namespace BinaryOperation

/-- Every operator, each once. -/
def all : List BinaryOperation :=
  [.add, .sub, .mul, .div, .rem, .and, .or, .xor, .shl, .shr, .ushr, .lt, .le, .gt, .ge, .eq, .ne,
    .logicalAnd, .logicalOr]

/-- The operator as an expression writes it. -/
def symbol : BinaryOperation → String
  | .add => "+"
  | .sub => "-"
  | .mul => "*"
  | .div => "/"
  | .rem => "%"
  | .and => "&"
  | .or => "|"
  | .xor => "^"
  | .shl => "<<"
  | .shr => ">>"
  | .ushr => ">>>"
  | .lt => "<"
  | .le => "<="
  | .gt => ">"
  | .ge => ">="
  | .eq => "=="
  | .ne => "!="
  | .logicalAnd => "&&"
  | .logicalOr => "||"

/-- The comparisons, whose result is not converted to the result type. -/
def isRelational : BinaryOperation → Bool
  | .lt | .le | .gt | .ge | .eq | .ne => true
  | _ => false

/-- The shifts, whose right operand is a distance. -/
def isShift : BinaryOperation → Bool
  | .shl | .shr | .ushr => true
  | _ => false

end BinaryOperation

/-- An operator with one operand. -/
inductive UnaryOperation where
  | minus
  | plus
  | not
  | complement
  | preIncrement
  | preDecrement
  | postIncrement
  | postDecrement
deriving DecidableEq

namespace UnaryOperation

/-- Every operator, each once. -/
def all : List UnaryOperation :=
  [.minus, .plus, .not, .complement, .preIncrement, .preDecrement, .postIncrement, .postDecrement]

/-- The operator as an expression writes it. -/
def symbol : UnaryOperation → String
  | .minus => "-"
  | .plus => "+"
  | .not => "!"
  | .complement => "~"
  | .preIncrement | .postIncrement => "++"
  | .preDecrement | .postDecrement => "--"

/-- The operators that change the location of their operand. -/
def isUpdate : UnaryOperation → Bool
  | .preIncrement | .preDecrement | .postIncrement | .postDecrement => true
  | _ => false

/-- Whether an update adds one; the others take one away. -/
def isIncrement : UnaryOperation → Bool
  | .preIncrement | .postIncrement => true
  | _ => false

/-- Whether the value of an update is the new one. -/
def isPrefixForm : UnaryOperation → Bool
  | .preIncrement | .preDecrement => true
  | _ => false

end UnaryOperation

/-- A conditional operator, which may leave its right operand alone. -/
inductive Connective where
  | and
  | or
deriving DecidableEq

namespace Connective

/-- Both operators. -/
def all : List Connective :=
  [.and, .or]

/-- The left operand that settles the result without the right one. -/
def decidingValue : Connective → Bool
  | .and => false
  | .or => true

end Connective

/-- A binary operator with the types that the compiler found. -/
structure TypedBinary where
  operation : BinaryOperation
  result : TypeTag
  left : TypeTag
  right : TypeTag
  /-- Whether the result goes back to the location of the left operand, as in `x += y`. -/
  assigns : Bool := false
deriving DecidableEq

namespace TypedBinary

/-- The compound assignment of an operator, whose result has the type of its left operand. -/
def compound (operation : BinaryOperation) (left right : TypeTag) : TypedBinary :=
  ⟨operation, left, left, right, true⟩

/-- The type in which the operator works, before its result is converted. -/
def workType (operator : TypedBinary) : TypeTag :=
  if operator.operation.isShift then operator.left.unaryPromotion
  else if operator.operation.isRelational || operator.assigns then
    operator.left.binaryPromotion operator.right
  else operator.result.unaryPromotion

end TypedBinary

/-- A unary operator with the types that the compiler found. -/
structure TypedUnary where
  operation : UnaryOperation
  result : TypeTag
  operand : TypeTag
deriving DecidableEq

end Watch
