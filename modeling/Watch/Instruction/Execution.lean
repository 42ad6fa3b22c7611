import Watch.Instruction
import Watch.Operation.Binary
import Watch.Operation.Unary

/-!
# Executing an instruction

What each instruction does to the operand stack and to the suspended program, and which
instruction comes next. A jump may lead to the end of the program, and no further.
-/

namespace Watch

namespace InstructionKind

/-- The place a jump leads to in a program of some length. -/
def jumpTo (target : UInt64) (length : Nat) : Except EvaluationError Nat :=
  if target.toNat ≤ length then .ok target.toNat else .error (.invalidJump target length)

/-- Puts a field of the object on top in its place. -/
def readField (name : String) : Evaluation Unit := do
  match ← Evaluation.popValue with
  | .object id _ => Evaluation.pushSlot (.field id name)
  | .null => Evaluation.fail (.nullReference s!"read of field '{name}'")
  | other => Evaluation.fail (other.coercion .object)

/-- Whether an index names an element of an array of some length. -/
def inBounds (index : Int32) (length : UInt32) : Bool :=
  0 ≤ index && index.toUInt32 < length

/-- Puts an element in the place of the array and the index on top. -/
def readElement : Evaluation Unit := do
  let operand ← Evaluation.popValue
  let index ← Evaluation.lift operand.asInt
  match ← Evaluation.popValue with
  | .array id _ length =>
    if inBounds index length then Evaluation.pushSlot (.element id index.toUInt32)
    else Evaluation.fail (.indexOutOfBounds index.toInt64 length)
  | .null => Evaluation.fail (.nullReference "array element read")
  | other => Evaluation.fail (other.coercion .array)

/-- Puts the length in the place of the array on top. -/
def readLength : Evaluation Unit := do
  match ← Evaluation.popValue with
  | .array _ _ length => Evaluation.pushValue (.int length.toInt32)
  | .null => Evaluation.fail (.nullReference "array length")
  | other => Evaluation.fail (other.coercion .array)

/-- Stores the value on top, converted, into the location below it, and leaves the value there. -/
def assignTo (result : TypeTag) : Evaluation Unit := do
  let operand ← Evaluation.popValue
  let (location, _) ← Evaluation.popSlot
  let value ← Evaluation.lift (operand.convertTo result)
  Evaluation.store location value
  Evaluation.pushValue value

/-- How many operands a method call takes: the arguments, and a receiver unless it is static. -/
def operandCount (argumentCount : UInt64) (staticType : Option String) : Nat :=
  argumentCount.toNat + if staticType.isNone then 1 else 0

/-- Takes the operands of a method call; more of them than a word counts are never there. -/
def popOperands (argumentCount : UInt64) (staticType : Option String) :
    Evaluation (List Value) :=
  let count := operandCount argumentCount staticType
  if count < UInt64.size then Evaluation.popValues count else Evaluation.fail .stackUnderflow

/-- Calls a method with the operands on top, and puts what it returns there. -/
def callMethod (method : String) (argumentCount : UInt64) (staticType : Option String) :
    Evaluation Unit := do
  let operands ← popOperands argumentCount staticType
  let value ← Evaluation.invoke (.call method staticType) operands
  Evaluation.pushValue value

/-- Goes on at the target if the boolean on top is the given one, and else at the next place. -/
def branch (truth : Bool) (target : UInt64) (length next : Nat) : Evaluation Nat := do
  let operand ← Evaluation.popValue
  let decision ← Evaluation.lift operand.asBoolean
  if decision = truth then Evaluation.lift (jumpTo target length) else return next

/-- Skips the right operand of a connective if the boolean on top settles the result. -/
def skipRight (connective : Connective) (target : UInt64) (length next : Nat) :
    Evaluation Nat := do
  let left ← Evaluation.popValue
  let decision ← Evaluation.lift left.asBoolean
  if decision = connective.decidingValue then
    Evaluation.pushValue (.boolean decision)
    Evaluation.lift (jumpTo target length)
  else
    Evaluation.pushValue left
    return next

/-- Does something and goes on at the next place. -/
def thenNext (next : Nat) (evaluation : Evaluation Unit) : Evaluation Nat := do
  evaluation
  return next

/--
Executes the instruction at a place of a program of some length; the result is the place of the
instruction to execute next.
-/
def execute (kind : InstructionKind) (length place : Nat) : Evaluation Nat :=
  let next := place + 1
  match kind with
  | .pushLiteral value => thenNext next (Evaluation.pushValue value)
  | .pushLocal name => thenNext next (Evaluation.pushSlot (.local name))
  | .pushThis => thenNext next do
    let receiver ← Evaluation.fetch .this
    Evaluation.pushValue receiver
  | .pushField name => thenNext next (readField name)
  | .pushStaticField typeName name =>
    thenNext next (Evaluation.pushSlot (.staticField typeName name))
  | .pushElement => thenNext next readElement
  | .arrayLength => thenNext next readLength
  | .binary operator => thenNext next operator.execute
  | .unary operator => thenNext next operator.execute
  | .assign result => thenNext next (assignTo result)
  | .cast target => thenNext next do
    let operand ← Evaluation.popValue
    let value ← Evaluation.lift (operand.convertTo target)
    Evaluation.pushValue value
  | .invoke method argumentCount staticType =>
    thenNext next (callMethod method argumentCount staticType)
  | .jump target => Evaluation.lift (jumpTo target length)
  | .jumpIf truth target => branch truth target length next
  | .shortCircuit connective target => skipRight connective target length next
  | .pop => thenNext next do
    let _ ← Evaluation.pop
  | .noop => return next

end InstructionKind

end Watch
