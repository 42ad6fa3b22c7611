import Watch.SortedMap
import Watch.Target

/-!
# Frames

A copy of a suspended function: its local variables, its receiver, the static fields that it can
see, and the objects and arrays that these reach. Every location of the suspended program is a cell
of the frame or does not exist; storing changes the content of a cell and nothing else.
-/

namespace Watch

/-- An object of a frame. -/
structure ObjectContent where
  /-- The name of its class. -/
  typeName : String
  fields : SortedMap String Value
deriving DecidableEq

/-- An array of a frame. -/
structure ArrayContent where
  /-- The type of its elements. -/
  element : TypeTag
  elements : Array Value
deriving DecidableEq

namespace ArrayContent

/-- The length of an array, as a handle gives it. -/
def length (array : ArrayContent) : UInt32 :=
  array.elements.size.toUInt32

end ArrayContent

/-- A copy of a suspended function and what it reaches. -/
structure Frame where
  function : String
  /-- The receiver; a static function has none. -/
  receiver : Option Value
  locals : SortedMap String Value
  /-- The static fields, each under the name of its type, a dot and its own name. -/
  statics : SortedMap String Value
  objects : SortedMap UInt64 ObjectContent
  arrays : SortedMap UInt64 ArrayContent
deriving DecidableEq

namespace Frame

/-- The frame of a function without a name that reaches nothing. -/
def empty : Frame :=
  ⟨"", none, .empty, .empty, .empty, .empty⟩

instance : Inhabited Frame := ⟨empty⟩

/-- The key of a static field. -/
def staticKey (typeName name : String) : String :=
  s!"{typeName}.{name}"

/-- The frame with a local variable. -/
def withLocal (frame : Frame) (name : String) (value : Value) : Frame :=
  { frame with locals := frame.locals.insert name value }

/-- The frame with a receiver. -/
def withReceiver (frame : Frame) (value : Value) : Frame :=
  { frame with receiver := some value }

/-- The frame with a static field. -/
def withStatic (frame : Frame) (typeName name : String) (value : Value) : Frame :=
  { frame with statics := frame.statics.insert (staticKey typeName name) value }

/-- The frame with an object. -/
def withObject (frame : Frame) (id : UInt64) (object : ObjectContent) : Frame :=
  { frame with objects := frame.objects.insert id object }

/-- The frame with an array. -/
def withArray (frame : Frame) (id : UInt64) (array : ArrayContent) : Frame :=
  { frame with arrays := frame.arrays.insert id array }

/-- The handle of an object. -/
def objectHandle? (frame : Frame) (id : UInt64) : Option Value :=
  (frame.objects.get? id).map fun object => .object id object.typeName

/-- The handle of an array. -/
def arrayHandle? (frame : Frame) (id : UInt64) : Option Value :=
  (frame.arrays.get? id).map fun array => .array id array.element array.length

/-- The value of an optional cell, or the error that it does not exist. -/
def found (cell : Option Value) (complaint : String) : Except EvaluationError Value :=
  match cell with
  | some value => .ok value
  | none => .error (.remote complaint)

/-- The value in a location. -/
def fetch (frame : Frame) : Location → Except EvaluationError Value
  | .local name => found (frame.locals.get? name) s!"No local variable named '{name}'"
  | .this => found frame.receiver "No receiver in a static frame"
  | .field id name =>
    match frame.objects.get? id with
    | none => .error (.remote s!"No object with id {id.toNat}")
    | some object => found (object.fields.get? name) s!"No field named '{name}'"
  | .staticField typeName name =>
    found (frame.statics.get? (staticKey typeName name)) s!"No static field {typeName}.{name}"
  | .element id index =>
    match frame.arrays.get? id with
    | none => .error (.remote s!"No array with id {id.toNat}")
    | some array =>
      match array.elements[index.toNat]? with
      | some value => .ok value
      | none => .error (.indexOutOfBounds index.toUInt64.toInt64 array.length)

/-- The frame with another value in a location that exists. -/
def write (frame : Frame) (location : Location) (value : Value) : Frame :=
  match location with
  | .local name => { frame with locals := frame.locals.modify name fun _ => value }
  | .this => { frame with receiver := frame.receiver.map fun _ => value }
  | .field id name =>
    { frame with objects := frame.objects.modify id fun object =>
        { object with fields := object.fields.modify name fun _ => value } }
  | .staticField typeName name =>
    { frame with statics := frame.statics.modify (staticKey typeName name) fun _ => value }
  | .element id index =>
    { frame with arrays := frame.arrays.modify id fun array =>
        { array with elements := array.elements.setIfInBounds index.toNat value } }

/-- The frame after a store, which fails where a fetch does. -/
def store (frame : Frame) (location : Location) (value : Value) : Except EvaluationError Frame :=
  (frame.fetch location).map fun _ => frame.write location value

end Frame

end Watch
