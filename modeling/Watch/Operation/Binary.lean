import Watch.Evaluation
import Watch.Value.Conversion

/-!
# Binary operators

Each operator works in one type: on booleans, on the two integer widths with wrapping arithmetic,
on the two floating-point widths, on texts, or on references. In a type where an operator means
nothing its result is a fixed value of that type: zero, false or the null reference. References are
compared, and objects are turned into texts, by the suspended program.
-/

namespace Watch

namespace BinaryOperation

/-- An operator on booleans. -/
def onBooleans (operation : BinaryOperation) (left right : Bool) : Bool :=
  match operation with
  | .and | .logicalAnd => left && right
  | .or | .logicalOr => left || right
  | .xor | .ne => left != right
  | .eq => left == right
  | _ => false

/-- An operator on `int` values. -/
def onInts (operation : BinaryOperation) (left right : Int32) : Except EvaluationError Value :=
  match operation with
  | .add => .ok (.int (left + right))
  | .sub => .ok (.int (left - right))
  | .mul => .ok (.int (left * right))
  | .div => if right = 0 then .error .divisionByZero else .ok (.int (left / right))
  | .rem => if right = 0 then .error .divisionByZero else .ok (.int (left % right))
  | .and => .ok (.int (left &&& right))
  | .or => .ok (.int (left ||| right))
  | .xor => .ok (.int (left ^^^ right))
  | .shl => .ok (.int (left <<< right))
  | .shr => .ok (.int (left >>> right))
  | .ushr => .ok (.int (left.toUInt32 >>> right.toUInt32).toInt32)
  | .lt => .ok (.boolean (left < right))
  | .le => .ok (.boolean (left ≤ right))
  | .gt => .ok (.boolean (left > right))
  | .ge => .ok (.boolean (left ≥ right))
  | .eq => .ok (.boolean (left == right))
  | .ne => .ok (.boolean (left != right))
  | .logicalAnd | .logicalOr => .ok (.int 0)

/-- An operator on `long` values. -/
def onLongs (operation : BinaryOperation) (left right : Int64) : Except EvaluationError Value :=
  match operation with
  | .add => .ok (.long (left + right))
  | .sub => .ok (.long (left - right))
  | .mul => .ok (.long (left * right))
  | .div => if right = 0 then .error .divisionByZero else .ok (.long (left / right))
  | .rem => if right = 0 then .error .divisionByZero else .ok (.long (left % right))
  | .and => .ok (.long (left &&& right))
  | .or => .ok (.long (left ||| right))
  | .xor => .ok (.long (left ^^^ right))
  | .shl => .ok (.long (left <<< right))
  | .shr => .ok (.long (left >>> right))
  | .ushr => .ok (.long (left.toUInt64 >>> right.toUInt64).toInt64)
  | .lt => .ok (.boolean (left < right))
  | .le => .ok (.boolean (left ≤ right))
  | .gt => .ok (.boolean (left > right))
  | .ge => .ok (.boolean (left ≥ right))
  | .eq => .ok (.boolean (left == right))
  | .ne => .ok (.boolean (left != right))
  | .logicalAnd | .logicalOr => .ok (.long 0)

/-- An operator on `float` values. -/
def onFloats (operation : BinaryOperation) (left right : Float32) : Value :=
  match operation with
  | .add => .float (left + right)
  | .sub => .float (left - right)
  | .mul => .float (left * right)
  | .div => .float (left / right)
  | .rem => .float (Floating.remainder32 left right)
  | .lt => .boolean (left < right)
  | .le => .boolean (left ≤ right)
  | .gt => .boolean (right < left)
  | .ge => .boolean (right ≤ left)
  | .eq => .boolean (left == right)
  | .ne => .boolean (left != right)
  | _ => .float 0

/-- An operator on `double` values. -/
def onDoubles (operation : BinaryOperation) (left right : Float) : Value :=
  match operation with
  | .add => .double (left + right)
  | .sub => .double (left - right)
  | .mul => .double (left * right)
  | .div => .double (left / right)
  | .rem => .double (Floating.remainder64 left right)
  | .lt => .boolean (left < right)
  | .le => .boolean (left ≤ right)
  | .gt => .boolean (right < left)
  | .ge => .boolean (right ≤ left)
  | .eq => .boolean (left == right)
  | .ne => .boolean (left != right)
  | _ => .double 0

/-- An operator on references: equality, which the suspended program decides. -/
def onReferences (operation : BinaryOperation) (left right : Value) : Evaluation Value :=
  match operation with
  | .eq | .ne => do
    let answer ← Evaluation.invoke (.binary operation) [left, right]
    let truth ← Evaluation.lift answer.asBoolean
    return .boolean truth
  | _ => return .null

/-- The text of an operand of a concatenation; the suspended program renders its own objects. -/
def textOf (value : Value) : Evaluation String :=
  match value.plainText with
  | some text => return text
  | none => do
    match ← Evaluation.invoke .text [value] with
    | .string text => return text
    | .null => return "null"
    | other => Evaluation.fail (other.coercion .string)

/-- An operator on texts: concatenation and equality. -/
def onTexts (operation : BinaryOperation) (left right : Value) : Evaluation Value :=
  match operation with
  | .add => do
    let leftText ← textOf left
    let rightText ← textOf right
    return .string (leftText ++ rightText)
  | .eq | .ne => operation.onReferences left right
  | _ => return .null

end BinaryOperation

namespace TypedBinary

/-- The result of an operator in the type it works in; the left operand is converted first. -/
def compute (operator : TypedBinary) (left right : Value) : Evaluation Value :=
  match operator.workType with
  | .boolean => Evaluation.lift do
    return .boolean (operator.operation.onBooleans (← left.asBoolean) (← right.asBoolean))
  | .byte | .char | .short | .int => Evaluation.lift do
    operator.operation.onInts (← left.asInt) (← right.asInt)
  | .long => Evaluation.lift do
    operator.operation.onLongs (← left.asLong) (← right.asLong)
  | .float => Evaluation.lift do
    return operator.operation.onFloats (← left.asFloat) (← right.asFloat)
  | .double => Evaluation.lift do
    return operator.operation.onDoubles (← left.asDouble) (← right.asDouble)
  | .string => operator.operation.onTexts left right
  | .object | .array | .void => operator.operation.onReferences left right

/-- The value of an operator: its result converted to the result type, unless it is a comparison. -/
def valueOf (operator : TypedBinary) (left right : Value) : Evaluation Value := do
  let computed ← operator.compute left right
  if operator.operation.isRelational then return computed
  else Evaluation.lift (computed.convertTo operator.result)

/--
Takes the right operand and then the left one from the stack, and puts the value there; a compound
assignment stores it into the location of the left operand before.
-/
def execute (operator : TypedBinary) : Evaluation Unit := do
  let right ← Evaluation.popValue
  if operator.assigns then
    let (location, left) ← Evaluation.popSlot
    let value ← operator.valueOf left right
    Evaluation.store location value
    Evaluation.pushValue value
  else
    let left ← Evaluation.popValue
    let value ← operator.valueOf left right
    Evaluation.pushValue value

end TypedBinary

end Watch
