/-!
# Evaluation errors

What can stop an evaluation, the message that a user reads, and the fault that is reported with
the place in the expression where it happened.
-/

namespace Watch

/-- Why an evaluation cannot go on. -/
inductive EvaluationError where
  /-- A value of one type stands where another is needed. -/
  | coercion (expected found : String)
  /-- Something is assigned to that is no location. -/
  | unaddressable (found : String)
  /-- An integer is divided by zero. -/
  | divisionByZero
  /-- The suspended program raised an exception. -/
  | remote (message : String)
  /-- The null reference is used as an object or an array. -/
  | nullReference (context : String)
  /-- An array has no element at an index. -/
  | indexOutOfBounds (index : Int64) (length : UInt32)
  /-- The suspended program cannot be reached any more. -/
  | connectionLost (message : String)
  /-- The user gave up on the evaluation. -/
  | cancelled
  /-- An instruction needs more operands than there are. -/
  | stackUnderflow
  /-- An operand does not fit on the stack. -/
  | stackOverflow (limit : Nat)
  /-- A jump leads out of the program. -/
  | invalidJump (target : UInt64) (length : Nat)
  /-- The program ended with another number of operands than one. -/
  | unbalancedStack (depth : Nat)
  /-- The program executed as many instructions as it may. -/
  | stepLimit (limit : UInt64)
deriving DecidableEq

/-- The classes of errors that are told apart in a report. -/
inductive FaultKind where
  | coercion
  | divisionByZero
  | remoteEvaluation
  | unaddressableOperand
  | cancelled
  | connectionLost
  | malformedProgram
deriving DecidableEq

namespace EvaluationError

/-- The message that describes an error. -/
def message : EvaluationError → String
  | .coercion expected found => s!"Cannot use {found} value as {expected}"
  | .unaddressable found => s!"Operand is not an assignable location: {found}"
  | .divisionByZero => "Division by zero"
  | .remote message => s!"Exception in target: {message}"
  | .nullReference context => s!"Null pointer dereference: {context}"
  | .indexOutOfBounds index length =>
    s!"Index out of bounds: index {index.toInt}, length {length.toNat}"
  | .connectionLost message => s!"Connection to target lost: {message}"
  | .cancelled => "Evaluation cancelled"
  | .stackUnderflow => "Stack underflow"
  | .stackOverflow limit => s!"Stack overflow: depth limit {limit} exceeded"
  | .invalidJump target length =>
    s!"Invalid jump target {target.toNat} (program length {length})"
  | .unbalancedStack depth =>
    s!"Evaluation ended with {depth} values on the stack, expected 1"
  | .stepLimit limit => s!"Step limit of {limit.toNat} exceeded"

/-- The class of an error. -/
def kind : EvaluationError → FaultKind
  | .coercion .. => .coercion
  | .unaddressable _ => .unaddressableOperand
  | .divisionByZero => .divisionByZero
  | .remote _ | .nullReference _ | .indexOutOfBounds .. => .remoteEvaluation
  | .connectionLost _ => .connectionLost
  | .cancelled => .cancelled
  | .stackUnderflow | .stackOverflow _ | .invalidJump .. | .unbalancedStack _ | .stepLimit _ =>
    .malformedProgram

end EvaluationError

namespace FaultKind

/-- Every class, each once. -/
def all : List FaultKind :=
  [.coercion, .divisionByZero, .remoteEvaluation, .unaddressableOperand, .cancelled,
    .connectionLost, .malformedProgram]

/-- The name of a class, as a user reads it. -/
def name : FaultKind → String
  | .coercion => "CoercionFault"
  | .divisionByZero => "DivisionByZero"
  | .remoteEvaluation => "RemoteEvaluationFault"
  | .unaddressableOperand => "UnaddressableOperand"
  | .cancelled => "Cancelled"
  | .connectionLost => "ConnectionLost"
  | .malformedProgram => "MalformedProgram"

end FaultKind

/-- An error as it is reported: its class, its message and the place in the expression. -/
structure Fault where
  kind : FaultKind
  /-- The offset in the expression of the instruction that failed. -/
  offset : UInt64
  message : String
deriving DecidableEq

namespace Fault

/-- The report of an error at an offset. -/
def ofError (error : EvaluationError) (offset : UInt64) : Fault :=
  ⟨error.kind, offset, error.message⟩

/-- The text of a fault. -/
def display (fault : Fault) : String :=
  s!"{fault.kind.name} at offset {fault.offset.toNat}: {fault.message}"

end Fault

end Watch
