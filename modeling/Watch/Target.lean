import Watch.Operation
import Watch.Value
import Watch.EvaluationError

/-!
# The suspended program

An evaluation reaches the suspended program through calls: it fetches a location, stores into one,
or has an operation carried out there. A `Target` answers the calls, with a value or an error, and
says whether the user has given up; what else it does is kept in its state, so that nothing is
assumed about the answers.
-/

namespace Watch

/-- A place in the suspended program that holds a value. -/
inductive Location where
  /-- A local variable of the suspended function. -/
  | local (name : String)
  /-- The receiver of the suspended function. -/
  | this
  | field (object : UInt64) (name : String)
  | staticField (typeName name : String)
  | element (array : UInt64) (index : UInt32)
deriving DecidableEq

namespace Location

/-- The text of a location. -/
def display : Location → String
  | .local name => name
  | .this => "this"
  | .field object name => s!"(id={object.toNat}).{name}"
  | .staticField typeName name => s!"{typeName}.{name}"
  | .element array index => s!"(id={array.toNat})[{index.toNat}]"

end Location

/-- An operation that the suspended program carries out. -/
inductive TargetOperation where
  /-- An operator on references. -/
  | binary (operation : BinaryOperation)
  /-- The text of a value in a string concatenation. -/
  | text
  /-- A method call; the operands are the arguments, after a receiver unless it is static. -/
  | call (method : String) (staticType : Option String)
deriving DecidableEq

/-- What an evaluation may ask of the suspended program. -/
inductive Call where
  | fetch (location : Location)
  | store (location : Location) (value : Value)
  | invoke (operation : TargetOperation) (operands : List Value)
deriving DecidableEq

/-- What a call yields when it succeeds. -/
abbrev Call.Result : Call → Type
  | .fetch _ => Value
  | .store .. => Unit
  | .invoke .. => Value

/-- What a call is answered with. -/
abbrev Call.Answer (call : Call) : Type :=
  Except EvaluationError call.Result

/-- A suspended program, with whatever it keeps between two calls as its state. -/
structure Target (State : Type) where
  answer (call : Call) : State → call.Answer × State
  /-- Says whether the user has given up on the evaluation. -/
  poll : State → Bool × State

end Watch
