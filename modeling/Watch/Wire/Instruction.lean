import Watch.Wire.Value
import Watch.Instruction
import Watch.Target

/-!
# Instructions and calls on the wire

Operators are written by name, with their types beside them; an instruction is an object whose only
key is its kind, or the kind alone where it needs no content. The locations and the operations of
the suspended program have the same form.
-/

namespace Watch

namespace BinaryOperation

/-- The name of an operator on the wire. -/
def wireName : BinaryOperation → String
  | .add => "add"
  | .sub => "sub"
  | .mul => "mul"
  | .div => "div"
  | .rem => "rem"
  | .and => "and"
  | .or => "or"
  | .xor => "xor"
  | .shl => "shl"
  | .shr => "shr"
  | .ushr => "u_shr"
  | .lt => "lt"
  | .le => "le"
  | .gt => "gt"
  | .ge => "ge"
  | .eq => "eq"
  | .ne => "ne"
  | .logicalAnd => "logical_and"
  | .logicalOr => "logical_or"

/-- An operator on the wire. -/
def toJson (operation : BinaryOperation) : Json :=
  .ofText operation.wireName

/-- Reads an operator. -/
def ofJson? (reading : Reading) (json : Json) : Option BinaryOperation :=
  json.named? reading all wireName

end BinaryOperation

namespace UnaryOperation

/-- The name of an operator on the wire. -/
def wireName : UnaryOperation → String
  | .minus => "minus"
  | .plus => "plus"
  | .not => "not"
  | .complement => "complement"
  | .preIncrement => "pre_increment"
  | .preDecrement => "pre_decrement"
  | .postIncrement => "post_increment"
  | .postDecrement => "post_decrement"

/-- An operator on the wire. -/
def toJson (operation : UnaryOperation) : Json :=
  .ofText operation.wireName

/-- Reads an operator. -/
def ofJson? (reading : Reading) (json : Json) : Option UnaryOperation :=
  json.named? reading all wireName

end UnaryOperation

namespace Connective

/-- The name of an operator on the wire. -/
def wireName : Connective → String
  | .and => "and"
  | .or => "or"

/-- An operator on the wire. -/
def toJson (connective : Connective) : Json :=
  .ofText connective.wireName

/-- Reads an operator. -/
def ofJson? (reading : Reading) (json : Json) : Option Connective :=
  json.named? reading all wireName

end Connective

namespace TypedBinary

/-- An operator with its types on the wire. -/
def toJson (operator : TypedBinary) : Json :=
  .ofMembers
    [("op", operator.operation.toJson), ("result", operator.result.toJson),
      ("left", operator.left.toJson), ("right", operator.right.toJson),
      ("assign", .boolean operator.assigns)]

/-- Reads an operator with its types. -/
def ofJson? (reading : Reading) (json : Json) : Option TypedBinary := do
  let record ← json.record? ["op", "result", "left", "right", "assign"] 4
  return {
    operation := ← record.required "op" (BinaryOperation.ofJson? reading)
    result := ← record.required "result" (TypeTag.ofJson? reading)
    left := ← record.required "left" (TypeTag.ofJson? reading)
    right := ← record.required "right" (TypeTag.ofJson? reading)
    assigns := ← record.optional "assign" false Json.truth? }

end TypedBinary

namespace TypedUnary

/-- An operator with its types on the wire. -/
def toJson (operator : TypedUnary) : Json :=
  .ofMembers
    [("op", operator.operation.toJson), ("result", operator.result.toJson),
      ("operand", operator.operand.toJson)]

/-- Reads an operator with its types. -/
def ofJson? (reading : Reading) (json : Json) : Option TypedUnary := do
  let record ← json.record? ["op", "result", "operand"] 3
  return {
    operation := ← record.required "op" (UnaryOperation.ofJson? reading)
    result := ← record.required "result" (TypeTag.ofJson? reading)
    operand := ← record.required "operand" (TypeTag.ofJson? reading) }

end TypedUnary

namespace InstructionKind

/-- The kind of an instruction on the wire. -/
def toJson : InstructionKind → Json
  | .pushLiteral value => .tagged "push_literal" value.toJson
  | .pushLocal name => .tagged "push_local" (.ofText name)
  | .pushThis => .ofText "push_this"
  | .pushField name => .tagged "push_field" (.ofText name)
  | .pushStaticField typeName name => .tagged "push_static_field" <| .ofMembers
    [("type_name", .ofText typeName), ("name", .ofText name)]
  | .pushElement => .ofText "push_array_element"
  | .arrayLength => .ofText "array_length"
  | .binary operator => .tagged "binary" operator.toJson
  | .unary operator => .tagged "unary" operator.toJson
  | .assign result => .tagged "assign" (.ofMembers [("result", result.toJson)])
  | .cast target => .tagged "cast" (.ofMembers [("target", target.toJson)])
  | .invoke method argumentCount staticType => .tagged "invoke" <| .ofMembers
    [("method", .ofText method), ("arg_count", .ofInt argumentCount.toNat),
      ("static_type", .ofOption .ofText staticType)]
  | .jump target => .tagged "jump" (.ofMembers [("target", .ofInt target.toNat)])
  | .jumpIf truth target => .tagged "conditional_jump" <| .ofMembers
    [("jump_on", .boolean truth), ("target", .ofInt target.toNat)]
  | .shortCircuit connective target => .tagged "short_circuit" <| .ofMembers
    [("op", connective.toJson), ("target", .ofInt target.toNat)]
  | .pop => .ofText "pop"
  | .noop => .ofText "noop"

/-- The kinds of instructions without content, by name. -/
def bare? (name : String) : Option InstructionKind :=
  match name with
  | "push_this" => some .pushThis
  | "push_array_element" => some .pushElement
  | "array_length" => some .arrayLength
  | "pop" => some .pop
  | "noop" => some .noop
  | _ => none

/-- Reads the content of an instruction of the kind with a name. -/
def ofContent? (reading : Reading) (name : String) (content : Json) : Option InstructionKind :=
  match name with
  | "push_literal" => (Value.ofJson? reading content).map .pushLiteral
  | "push_local" => content.text?.map .pushLocal
  | "push_field" => content.text?.map .pushField
  | "push_static_field" => do
    let record ← content.record? ["type_name", "name"] 2
    return .pushStaticField (← record.required "type_name" Json.text?)
      (← record.required "name" Json.text?)
  | "binary" => (TypedBinary.ofJson? reading content).map .binary
  | "unary" => (TypedUnary.ofJson? reading content).map .unary
  | "assign" => do
    let record ← content.record? ["result"] 1
    return .assign (← record.required "result" (TypeTag.ofJson? reading))
  | "cast" => do
    let record ← content.record? ["target"] 1
    return .cast (← record.required "target" (TypeTag.ofJson? reading))
  | "invoke" => do
    let record ← content.record? ["method", "arg_count", "static_type"] 2
    return .invoke (← record.required "method" Json.text?)
      (← record.required "arg_count" Json.word64?)
      (← record.optional "static_type" none (Json.nullable? Json.text?))
  | "jump" => do
    let record ← content.record? ["target"] 1
    return .jump (← record.required "target" Json.word64?)
  | "conditional_jump" => do
    let record ← content.record? ["jump_on", "target"] 2
    return .jumpIf (← record.required "jump_on" Json.truth?)
      (← record.required "target" Json.word64?)
  | "short_circuit" => do
    let record ← content.record? ["op", "target"] 2
    return .shortCircuit (← record.required "op" (Connective.ofJson? reading))
      (← record.required "target" Json.word64?)
  | _ => none

/-- Reads the kind of an instruction. -/
def ofJson? (reading : Reading) (json : Json) : Option InstructionKind := do
  let (name, content) ← json.variant?
  match bare? name with
  | some kind => if reading.isNothing content then some kind else none
  | none => content.bind (ofContent? reading name)

end InstructionKind

namespace Instruction

/-- An instruction on the wire. -/
def toJson (instruction : Instruction) : Json :=
  .ofMembers
    [("kind", instruction.kind.toJson), ("offset", .ofInt instruction.offset.toNat)]

/-- Reads an instruction. -/
def ofJson? (reading : Reading) (json : Json) : Option Instruction := do
  let record ← json.record? ["kind", "offset"] 2
  return {
    kind := ← record.required "kind" (InstructionKind.ofJson? reading)
    offset := ← record.required "offset" Json.word64? }

end Instruction

namespace Program

/-- A program on the wire. -/
def toJson (program : Program) : Json :=
  .array (program.toList.map Instruction.toJson)

/-- Reads a program. -/
def ofJson? (reading : Reading) (json : Json) : Option Program :=
  (json.list? (Instruction.ofJson? reading)).map List.toArray

end Program

namespace Location

/-- A location on the wire. -/
def toJson : Location → Json
  | .local name => .tagged "local" (.ofText name)
  | .this => .ofText "this"
  | .field object name => .tagged "field" <| .ofMembers
    [("object", .ofInt object.toNat), ("name", .ofText name)]
  | .staticField typeName name => .tagged "static_field" <| .ofMembers
    [("type_name", .ofText typeName), ("name", .ofText name)]
  | .element array index => .tagged "array_element" <| .ofMembers
    [("array", .ofInt array.toNat), ("index", .ofInt index.toNat)]

/-- Reads the content of a location of the kind with a name. -/
def ofContent? (name : String) (content : Json) : Option Location :=
  match name with
  | "local" => content.text?.map .local
  | "field" => do
    let record ← content.record? ["object", "name"] 2
    return .field (← record.required "object" Json.word64?) (← record.required "name" Json.text?)
  | "static_field" => do
    let record ← content.record? ["type_name", "name"] 2
    return .staticField (← record.required "type_name" Json.text?)
      (← record.required "name" Json.text?)
  | "array_element" => do
    let record ← content.record? ["array", "index"] 2
    return .element (← record.required "array" Json.word64?)
      (← record.required "index" Json.word32?)
  | _ => none

/-- Reads a location. -/
def ofJson? (reading : Reading) (json : Json) : Option Location := do
  let (name, content) ← json.variant?
  match name with
  | "this" => if reading.isNothing content then some .this else none
  | _ => content.bind (ofContent? name)

end Location

namespace TargetOperation

/-- An operation of the suspended program on the wire. -/
def toJson : TargetOperation → Json
  | .binary operation => .tagged "binary" operation.toJson
  | .text => .ofText "to_string"
  | .call method staticType => .tagged "invoke" <| .ofMembers
    [("method", .ofText method), ("static_type", .ofOption .ofText staticType)]

/-- Reads an operation of the suspended program. -/
def ofJson? (reading : Reading) (json : Json) : Option TargetOperation := do
  let (name, content) ← json.variant?
  match name, content with
  | "binary", some content => (BinaryOperation.ofJson? reading content).map .binary
  | "to_string", content => if reading.isNothing content then some .text else none
  | "invoke", some content => do
    let record ← content.record? ["method", "static_type"] 2
    return .call (← record.required "method" Json.text?)
      (← record.optional "static_type" none (Json.nullable? Json.text?))
  | _, _ => none

end TargetOperation

end Watch
