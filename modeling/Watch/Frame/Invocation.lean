import Watch.Frame
import Watch.Text.Quoted
import Watch.Value.Text

/-!
# Operations on a frame

A frame carries out the operations that need no code of the suspended program: it compares
references, renders values, and answers the few methods that every object or string has. None of
them changes the frame.
-/

namespace Watch

namespace BinaryOperation

/-- The name of an operator in a report about an operation that cannot be carried out. -/
def reportName : BinaryOperation → String
  | .add => "Add"
  | .sub => "Sub"
  | .mul => "Mul"
  | .div => "Div"
  | .rem => "Rem"
  | .and => "And"
  | .or => "Or"
  | .xor => "Xor"
  | .shl => "Shl"
  | .shr => "Shr"
  | .ushr => "UShr"
  | .lt => "Lt"
  | .le => "Le"
  | .gt => "Gt"
  | .ge => "Ge"
  | .eq => "Eq"
  | .ne => "Ne"
  | .logicalAnd => "LogicalAnd"
  | .logicalOr => "LogicalOr"

end BinaryOperation

namespace TargetOperation

/-- The report of an optional text. -/
def reportOption : Option String → String
  | none => "None"
  | some content => "Some(" ++ Quoted.quote content ++ ")"

/-- An operation as the report shows it that it cannot be carried out. -/
def report : TargetOperation → String
  | .binary operation => s!"Binary({operation.reportName})"
  | .text => "ToString"
  | .call method staticType =>
    "Invoke \x7b method: " ++ Quoted.quote method ++ ", static_type: " ++
      reportOption staticType ++ " \x7d"

end TargetOperation

namespace Value

/-- Whether two values are the same reference; strings are compared by their text. -/
def isSameReference : Value → Value → Bool
  | .null, .null => true
  | .object left _, .object right _ => left == right
  | .array left _ _, .array right _ _ => left == right
  | .string left, .string right => left == right
  | _, _ => false

/-- The name of the class of a value. -/
def className : Value → String
  | .object _ typeName => typeName
  | .array _ element _ => s!"{element.name}[]"
  | .string _ => "String"
  | value => value.tag.name

/-- The text of a class name and an id, in the form of objects without a text of their own. -/
def identityText (name : String) (id : UInt64) : String :=
  name ++ "@" ++ String.ofList (Nat.toDigits 16 id.toNat)

/-- The text that a frame renders a value as. -/
def renderedText (value : Value) : String :=
  match value with
  | .object id _ | .array id _ _ => identityText value.className id
  | _ => value.plainText.getD ""

/-- The hash code of a value; only references have one. -/
def hashCode (value : Value) : Except EvaluationError Int32 :=
  match value with
  | .string text => .ok (Utf16.hash text)
  | .object id _ | .array id _ _ => .ok id.toUInt32.toInt32
  | _ => .error (.coercion TypeTag.object.name value.tag.name)

/-- The complaint about a method that a value does not have. -/
def noSuchMethod (receiver : Value) (method : String) : EvaluationError :=
  .remote s!"No such method: {receiver.className}.{method}()"

/-- Calls a method of a value. -/
def callMethod (receiver : Value) (method : String) (arguments : List Value) :
    Except EvaluationError Value :=
  if receiver.isNull then .error (.nullReference s!"call to {method}()")
  else match method, arguments with
    | "toString", [] => .ok (.string receiver.renderedText)
    | "equals", [other] => .ok (.boolean (receiver.isSameReference other))
    | "hashCode", [] => receiver.hashCode.map .int
    | "length", [] =>
      match receiver with
      | .string text => .ok (.int (Utf16.length text))
      | _ => .error (receiver.noSuchMethod method)
    | _, _ => .error (receiver.noSuchMethod method)

end Value

namespace TargetOperation

/-- Carries out an operation on values, without any code of the suspended program. -/
def carryOut (operation : TargetOperation) (operands : List Value) :
    Except EvaluationError Value :=
  match operation, operands with
  | .binary .eq, [left, right] => .ok (.boolean (left.isSameReference right))
  | .binary .ne, [left, right] => .ok (.boolean !left.isSameReference right)
  | .text, [value] => .ok (.string value.renderedText)
  | .call method (some typeName), _ =>
    .error (.remote s!"Cannot call static method {typeName}.{method}()")
  | .call method none, receiver :: arguments => receiver.callMethod method arguments
  | _, _ =>
    .error (.remote
      s!"Unsupported native operation {operation.report} on {operands.length} operands")

end TargetOperation

/-- A frame together with the word of the user who waits for the evaluation. -/
structure Suspended where
  frame : Frame
  /-- Whether the user has given up. -/
  cancelled : Bool
deriving DecidableEq

namespace Frame

/-- The answer of a frame to a call, and the frame afterwards. -/
def answer (frame : Frame) : (call : Call) → call.Answer × Frame
  | .fetch location => (frame.fetch location, frame)
  | .store location value =>
    match frame.store location value with
    | .ok frame => (.ok (), frame)
    | .error error => (.error error, frame)
  | .invoke operation operands => (operation.carryOut operands, frame)

/-- A frame as the suspended program of an evaluation. -/
def target : Target Suspended where
  answer call state :=
    let (answer, frame) := state.frame.answer call
    (answer, { state with frame := frame })
  poll state := (state.cancelled, state)

end Frame

end Watch
