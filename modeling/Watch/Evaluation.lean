import Watch.Action
import Watch.Stack
import Watch.Value.Text

/-!
# Evaluations

A computation that works on the operand stack, may call the suspended program and may fail. A
failure leaves the stack as it is at that moment: operands that were taken do not come back.
-/

namespace Watch

/-- A computation on the operand stack that may call the suspended program and may fail. -/
def Evaluation (Result : Type) : Type :=
  Stack → Action (Except EvaluationError Result × Stack)

namespace Evaluation

variable {Result Next : Type}

/-- A computation that yields a result at once. -/
def pure (result : Result) : Evaluation Result := fun stack =>
  .done (.ok result, stack)

/-- Goes on from the result of a computation; a failure ends it. -/
def bind (evaluation : Evaluation Result) (next : Result → Evaluation Next) : Evaluation Next :=
  fun stack => (evaluation stack).bind fun
    | (.ok result, stack) => next result stack
    | (.error error, stack) => .done (.error error, stack)

instance : Monad Evaluation where
  pure := pure
  bind := bind

/-- A result that was computed without the stack. -/
def lift (result : Except EvaluationError Result) : Evaluation Result := fun stack =>
  .done (result, stack)

/-- Fails with an error. -/
def fail (error : EvaluationError) : Evaluation Result :=
  lift (.error error)

/-- Makes a call on the suspended program. -/
def ask (call : Call) : Evaluation call.Result := fun stack =>
  .ask call fun answer => .done (answer, stack)

/-- Fetches the value of a location. -/
def fetch (location : Location) : Evaluation Value :=
  ask (.fetch location)

/-- Stores a value into a location. -/
def store (location : Location) (value : Value) : Evaluation Unit :=
  ask (.store location value)

/-- Has an operation carried out by the suspended program. -/
def invoke (operation : TargetOperation) (operands : List Value) : Evaluation Value :=
  ask (.invoke operation operands)

/-- Puts an operand on the stack. -/
def push (operand : Operand) : Evaluation Unit := fun stack =>
  match stack.push operand with
  | .ok stack => .done (.ok (), stack)
  | .error error => .done (.error error, stack)

/-- Puts a value on the stack. -/
def pushValue (value : Value) : Evaluation Unit :=
  push (.plain value)

/-- Fetches the value of a location and puts both on the stack. -/
def pushSlot (location : Location) : Evaluation Unit := do
  let value ← fetch location
  push (.slot location value)

/-- Takes the operand from the top of the stack. -/
def pop : Evaluation Operand := fun stack =>
  match stack.pop with
  | .ok (operand, stack) => .done (.ok operand, stack)
  | .error error => .done (.error error, stack)

/-- Takes the operand from the top of the stack for its value. -/
def popValue : Evaluation Value := do
  let operand ← pop
  return operand.value

/-- Takes the operand from the top of the stack, which has to be a slot. -/
def popSlot : Evaluation (Location × Value) := do
  match ← pop with
  | .slot location value => return (location, value)
  | .plain value => fail (.unaddressable value.display)

/-- Takes the values of a number of operands from the stack, bottom up. -/
def popValues (count : Nat) : Evaluation (List Value) := fun stack =>
  match stack.popMany count with
  | .ok (operands, stack) => .done (.ok (operands.map Operand.value), stack)
  | .error error => .done (.error error, stack)

end Evaluation

end Watch
