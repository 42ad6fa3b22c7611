import Watch.Operation
import Watch.Value

/-!
# Instructions

A compiled expression is a list of instructions for the operand stack. Each carries the offset of
the part of the expression that it was compiled from.
-/

namespace Watch

/-- What an instruction does. -/
inductive InstructionKind where
  /-- Puts a constant on the stack. -/
  | pushLiteral (value : Value)
  /-- Puts a local variable on the stack, as a slot. -/
  | pushLocal (name : String)
  /-- Puts the receiver on the stack, as a plain value. -/
  | pushThis
  /-- Takes an object and puts one of its fields there, as a slot. -/
  | pushField (name : String)
  /-- Puts a field of a type on the stack, as a slot. -/
  | pushStaticField (typeName name : String)
  /-- Takes an index and an array and puts the element there, as a slot. -/
  | pushElement
  /-- Takes an array and puts its length there. -/
  | arrayLength
  | binary (operator : TypedBinary)
  | unary (operator : TypedUnary)
  /-- Takes a value and a slot, and stores the value, converted, into the location of the slot. -/
  | assign (result : TypeTag)
  | cast (target : TypeTag)
  /-- Takes arguments, and a receiver unless the method is static, and calls the method. -/
  | invoke (method : String) (argumentCount : UInt64) (staticType : Option String)
  | jump (target : UInt64)
  /-- Takes a boolean and goes on at another instruction if it is the given one. -/
  | jumpIf (truth : Bool) (target : UInt64)
  /-- Looks at the left operand of a connective, and skips the right one if it is settled. -/
  | shortCircuit (connective : Connective) (target : UInt64)
  | pop
  | noop
deriving DecidableEq

/-- An instruction with the place in the expression that it belongs to. -/
structure Instruction where
  kind : InstructionKind
  /-- The offset in the expression that is reported when it fails. -/
  offset : UInt64
deriving DecidableEq

/-- A compiled expression. -/
abbrev Program := Array Instruction

end Watch
