import Watch.Wire.Instruction
import Watch.Wire.Frame
import Watch.Message
import Watch.Run

/-!
# Messages on the wire

A request names its method and gives the parameters beside it. A reply has no name: its fields tell
which it is, and where those of several replies are there, the first in the order of `Reply` counts.
In an envelope the members of the message stand beside the version and the id.

The parameters of a request are set aside when they come before the method, and the members of a
message always are when they stand in an envelope; so is a reply, whose kind is not known before it
has been read. A part that is set aside has to be sound as a whole, and the text must not nest
deeper than a bound.
-/

namespace Watch

namespace FaultKind

/-- The name of a class of errors on the wire. -/
def wireName : FaultKind → String
  | .coercion => "coercion_fault"
  | .divisionByZero => "division_by_zero"
  | .remoteEvaluation => "remote_evaluation_fault"
  | .unaddressableOperand => "unaddressable_operand"
  | .cancelled => "cancelled"
  | .connectionLost => "connection_lost"
  | .malformedProgram => "malformed_program"

/-- A class of errors on the wire. -/
def toJson (kind : FaultKind) : Json :=
  .ofText kind.wireName

/-- Reads a class of errors. -/
def ofJson? (reading : Reading) (json : Json) : Option FaultKind :=
  json.named? reading all wireName

end FaultKind

namespace Fault

/-- A fault on the wire. -/
def toJson (fault : Fault) : Json :=
  .ofMembers
    [("kind", fault.kind.toJson), ("offset", .ofInt fault.offset.toNat),
      ("message", .ofText fault.message)]

/-- Reads a fault. -/
def ofJson? (reading : Reading) (json : Json) : Option Fault := do
  let record ← json.record? ["kind", "offset", "message"] 3
  return {
    kind := ← record.required "kind" (FaultKind.ofJson? reading)
    offset := ← record.required "offset" Json.word64?
    message := ← record.required "message" Json.text? }

end Fault

namespace Limits

/-- The limits of a run on the wire. -/
def toJson (limits : Limits) : Json :=
  .ofMembers
    [("max_stack_depth", .ofInt limits.maxStackDepth.toNat),
      ("max_steps", .ofInt limits.maxSteps.toNat)]

/-- Reads the limits of a run. -/
def ofJson? (json : Json) : Option Limits := do
  let record ← json.record? ["max_stack_depth", "max_steps"] 2
  return {
    maxStackDepth := ← record.required "max_stack_depth" Json.word64?
    maxSteps := ← record.required "max_steps" Json.word64? }

end Limits

namespace Json

/-- How deep a text may nest of which a part is set aside. -/
def deepest : Nat := 127

/-- Whether a part may be set aside that stands in a number of arrays and objects. -/
def canSetAside (json : Json) (around : Nat) : Bool :=
  json.isSound && json.nesting + around ≤ deepest

end Json

namespace Request

/-- The names of the methods. -/
def methods : List String :=
  ["load_frame", "evaluate", "cancel", "frame", "shutdown"]

/-- The members of a request. -/
def members : Request → List (String × Json)
  | .loadFrame session content =>
    [("method", .ofText "load_frame"),
      ("params", .ofMembers [("session", .ofText session), ("frame", content.toJson)])]
  | .evaluate session program =>
    [("method", .ofText "evaluate"),
      ("params", .ofMembers [("session", .ofText session), ("program", program.toJson)])]
  | .cancel id =>
    [("method", .ofText "cancel"), ("params", .ofMembers [("id", .ofInt id.toNat)])]
  | .frame session =>
    [("method", .ofText "frame"), ("params", .ofMembers [("session", .ofText session)])]
  | .shutdown => [("method", .ofText "shutdown")]

/-- A request on the wire. -/
def toJson (request : Request) : Json :=
  .ofMembers request.members

/-- Reads the parameters of a method. -/
def ofParameters? (reading : Reading) (method : String) (parameters : Json) : Option Request :=
  match method with
  | "load_frame" => do
    let record ← parameters.fields? ["session", "frame"]
    return .loadFrame (← record.required "session" Json.text?)
      (← record.required "frame" (Frame.ofJson? reading))
  | "evaluate" => do
    let record ← parameters.fields? ["session", "program"]
    return .evaluate (← record.required "session" Json.text?)
      (← record.required "program" (Program.ofJson? reading))
  | "cancel" => do
    let record ← parameters.fields? ["id"]
    return .cancel (← record.required "id" Json.word64?)
  | "frame" => do
    let record ← parameters.fields? ["session"]
    return .frame (← record.required "session" Json.text?)
  | _ => none

/-- Reads a method with its parameters; only `shutdown` does without them. -/
def ofMethod? (reading : Reading) (method : String) (parameters : Option Json) : Option Request :=
  match method, parameters with
  | "shutdown", none | "shutdown", some .null => some .shutdown
  | _, some parameters => ofParameters? reading method parameters
  | _, none => none

/-- Whether the first member with one of two keys has the first of them. -/
def comesFirst (first second : String) (members : List (String × Json)) : Bool :=
  match members.find? fun member => member.1 == first || member.1 == second with
  | some member => member.1 == first
  | none => true

/-- Reads a request straight from the text. -/
def ofJson? (json : Json) : Option Request :=
  match json with
  | .array [method, parameters] => do
    let method ← method.named? .direct methods id
    ofMethod? .direct method (some parameters)
  | .object _ => do
    let record ← json.fields? ["method", "params"]
    let method ← record.required "method" (Json.named? .direct methods id)
    let parameters := record.lookup "params"
    if comesFirst "method" "params" record then ofMethod? .direct method parameters
    else if parameters.all fun parameters => parameters.canSetAside 1 then
      ofMethod? .buffered method parameters
    else none
  | _ => none

/-- Reads a request whose members were set aside. -/
def ofMembers? (members : List (String × Json)) : Option Request := do
  let record ← (Json.ofMembers members).fields? ["method", "params"]
  let method ← record.required "method" (Json.named? .buffered methods id)
  ofMethod? .buffered method (record.lookup "params")

end Request

namespace Reply

/-- The members of a reply. -/
def members : Reply → List (String × Json)
  | .result text typeName value =>
    [("value", .ofText text), ("value_type", .ofText typeName), ("raw", value.toJson)]
  | .fault content => [("fault", content.toJson)]
  | .frame content => [("frame", content.toJson)]
  | .success done => [("ok", .boolean done)]
  | .error message => [("error", .ofText message)]

/-- A reply on the wire. -/
def toJson (reply : Reply) : Json :=
  .ofMembers reply.members

/-- Reads the value of an evaluation. -/
def result? (json : Json) : Option Reply := do
  let record ← json.fields? ["value", "value_type", "raw"]
  return .result (← record.required "value" Json.text?)
    (← record.required "value_type" Json.text?) (← record.required "raw" (Value.ofJson? .tried))

/-- Reads a reply with a single field. -/
def single? {Item : Type} (name : String) (read : Json → Option Item) (json : Json) :
    Option Item := do
  let record ← json.fields? [name]
  record.required name read

/-- Reads a reply that was set aside, by the fields that it has. -/
def ofSetAside? (json : Json) : Option Reply :=
  result? json
    <|> (single? "fault" (Fault.ofJson? .tried) json).map .fault
    <|> (single? "frame" (Frame.ofJson? .tried) json).map .frame
    <|> (single? "ok" Json.truth? json).map .success
    <|> (single? "error" Json.text? json).map .error

/-- Reads a reply. -/
def ofJson? (json : Json) : Option Reply :=
  if json.canSetAside 0 then ofSetAside? json else none

end Reply

namespace Envelope

variable {Content : Type}

/-- A message in its envelope on the wire. -/
def toJson (members : Content → List (String × Json)) (envelope : Envelope Content) : Json :=
  .ofMembers <|
    [("jsonrpc", .ofText envelope.version),
      ("id", .ofOption (fun id => .ofInt (UInt64.toNat id)) envelope.id)] ++
    members envelope.content

/-- Reads a message in its envelope; what stands beside the version and the id is set aside. -/
def ofJson? (read : List (String × Json) → Option Content) (json : Json) :
    Option (Envelope Content) := do
  let record ← json.fields? ["jsonrpc", "id"]
  let version ← record.required "jsonrpc" Json.text?
  let id ← record.optional "id" none (Json.nullable? Json.word64?)
  let rest := (← json.members?).filter fun member =>
    member.1 != "jsonrpc" && member.1 != "id"
  if rest.all fun member => member.2.canSetAside 1 then
    return ⟨version, id, ← read rest⟩
  else none

/-- Reads a request in its envelope. -/
def ofRequestJson? : Json → Option (Envelope Request) :=
  ofJson? Request.ofMembers?

/-- Reads a reply in its envelope. -/
def ofReplyJson? : Json → Option (Envelope Reply) :=
  ofJson? fun members => Reply.ofSetAside? (.ofMembers members)

/-- The text of a request in its envelope. -/
def writeRequest (envelope : Envelope Request) : String :=
  (envelope.toJson Request.members).write

/-- The text of a reply in its envelope. -/
def writeReply (envelope : Envelope Reply) : String :=
  (envelope.toJson Reply.members).write

end Envelope

end Watch
