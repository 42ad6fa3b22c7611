import Watch.Evaluation
import Watch.Value.Conversion

/-!
# Unary operators

Sign, complement and negation work in the promoted result type; where one means nothing its result
is zero, false or the null reference. An update works in the promoted type of its operand: it
stores the neighbouring number, narrowed to that type, and its value is the new number in prefix
form and the old one in postfix form.
-/

namespace Watch

namespace TypedUnary

/-- The result of an operator that is no update, in the type it works in. -/
def compute (operator : TypedUnary) (operand : Value) : Except EvaluationError Value :=
  match operator.result.unaryPromotion with
  | .boolean =>
    match operator.operation with
    | .not => operand.asBoolean.map fun truth => .boolean !truth
    | _ => .ok (.boolean false)
  | .int => operand.asInt.map fun number => .int <|
    match operator.operation with
    | .minus => -number
    | .plus => number
    | .complement => ~~~number
    | _ => 0
  | .long => operand.asLong.map fun number => .long <|
    match operator.operation with
    | .minus => -number
    | .plus => number
    | .complement => ~~~number
    | _ => 0
  | .float => operand.asFloat.map fun number => .float <|
    match operator.operation with
    | .minus => -number
    | .plus => number
    | _ => 0
  | .double => operand.asDouble.map fun number => .double <|
    match operator.operation with
    | .minus => -number
    | .plus => number
    | _ => 0
  | _ => .ok .null

/-- The number next to the operand of an update, in the type it works in. -/
def neighbour (operator : TypedUnary) (operand : Value) : Except EvaluationError Value :=
  let up := operator.operation.isIncrement
  match operator.operand.unaryPromotion with
  | .int => operand.asInt.map fun number => .int (number + if up then 1 else -1)
  | .long => operand.asLong.map fun number => .long (number + if up then 1 else -1)
  | .float => operand.asFloat.map fun number => .float (number + if up then 1 else -1)
  | .double => operand.asDouble.map fun number => .double (number + if up then 1 else -1)
  | other => .error (.coercion "numeric" other.name)

/-- Takes a slot from the stack, stores the neighbour of its value, and puts one of both there. -/
def executeUpdate (operator : TypedUnary) : Evaluation Unit := do
  let (location, old) ← Evaluation.popSlot
  let stepped ← Evaluation.lift (operator.neighbour old)
  let updated ← Evaluation.lift (stepped.convertTo operator.operand)
  Evaluation.store location updated
  let shown := if operator.operation.isPrefixForm then updated else old
  let value ← Evaluation.lift (shown.convertTo operator.result)
  Evaluation.pushValue value

/-- Takes the operand from the stack and puts the value there. -/
def execute (operator : TypedUnary) : Evaluation Unit :=
  if operator.operation.isUpdate then operator.executeUpdate
  else do
    let operand ← Evaluation.popValue
    let computed ← Evaluation.lift (operator.compute operand)
    let value ← Evaluation.lift (computed.convertTo operator.result)
    Evaluation.pushValue value

end TypedUnary

end Watch
