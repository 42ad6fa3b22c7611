import Watch.Target

/-!
# The operand stack

The operands of an evaluation: plain values, and slots, which remember the location that their
value was fetched from. A stack counts the places that are left, so that its depth limit is the
number of its operands and of those places together.
-/

namespace Watch

/-- An operand of an evaluation. -/
inductive Operand where
  | plain (value : Value)
  /-- A location with the value that was fetched from it. -/
  | slot (location : Location) (value : Value)
deriving DecidableEq

namespace Operand

/-- The value of an operand. -/
def value : Operand → Value
  | .plain value | .slot _ value => value

end Operand

/-- A stack of operands with room for some more. -/
structure Stack where
  /-- The operands, the one on top first. -/
  operands : List Operand
  /-- How many more operands fit on the stack. -/
  room : Nat
deriving DecidableEq

namespace Stack

/-- The stack without operands that holds a number of them. -/
def empty (limit : Nat) : Stack :=
  ⟨[], limit⟩

/-- How many operands are on the stack. -/
def depth (stack : Stack) : Nat :=
  stack.operands.length

/-- How many operands the stack can hold. -/
def limit (stack : Stack) : Nat :=
  stack.depth + stack.room

/-- The operands from bottom to top. -/
def toList (stack : Stack) : List Operand :=
  stack.operands.reverse

/-- Puts an operand on top, if there is room. -/
def push (stack : Stack) (operand : Operand) : Except EvaluationError Stack :=
  match stack.room with
  | 0 => .error (.stackOverflow stack.depth)
  | room + 1 => .ok ⟨operand :: stack.operands, room⟩

/-- Takes the operand from the top. -/
def pop (stack : Stack) : Except EvaluationError (Operand × Stack) :=
  match stack.operands with
  | [] => .error .stackUnderflow
  | operand :: operands => .ok (operand, ⟨operands, stack.room + 1⟩)

/-- The operand on top. -/
def peek (stack : Stack) : Except EvaluationError Operand :=
  match stack.operands with
  | [] => .error .stackUnderflow
  | operand :: _ => .ok operand

/-- Takes a number of operands from the top, if there are as many; they are listed bottom up. -/
def popMany (stack : Stack) (count : Nat) : Except EvaluationError (List Operand × Stack) :=
  if count ≤ stack.depth then
    .ok ((stack.operands.take count).reverse, ⟨stack.operands.drop count, stack.room + count⟩)
  else .error .stackUnderflow

end Stack

end Watch
