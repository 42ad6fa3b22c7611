import Watch.Wire.Value
import Watch.Frame

/-!
# Frames on the wire

A frame is a record of its function, its receiver, its variables and its heap. Everything but the
class of an object and the element type of an array may be left out.
-/

namespace Watch

namespace ObjectContent

/-- An object of a frame on the wire. -/
def toJson (object : ObjectContent) : Json :=
  .ofMembers
    [("type_name", .ofText object.typeName), ("fields", .ofTextMap Value.toJson object.fields)]

/-- Reads an object of a frame. -/
def ofJson? (reading : Reading) (json : Json) : Option ObjectContent := do
  let record ← json.record? ["type_name", "fields"] 1
  return {
    typeName := ← record.required "type_name" Json.text?
    fields := ← record.optional "fields" .empty (Json.textMap? (Value.ofJson? reading)) }

end ObjectContent

namespace ArrayContent

/-- An array of a frame on the wire. -/
def toJson (array : ArrayContent) : Json :=
  .ofMembers
    [("element_type", array.element.toJson),
      ("elements", .array (array.elements.toList.map Value.toJson))]

/-- Reads an array of a frame. -/
def ofJson? (reading : Reading) (json : Json) : Option ArrayContent := do
  let record ← json.record? ["element_type", "elements"] 1
  return {
    element := ← record.required "element_type" (TypeTag.ofJson? reading)
    elements := (← record.optional "elements" [] (Json.list? (Value.ofJson? reading))).toArray }

end ArrayContent

namespace Frame

/-- A frame on the wire. -/
def toJson (frame : Frame) : Json :=
  .ofMembers
    [("function", .ofText frame.function), ("this", .ofOption Value.toJson frame.receiver),
      ("locals", .ofTextMap Value.toJson frame.locals),
      ("statics", .ofTextMap Value.toJson frame.statics),
      ("objects", .ofNumberedMap ObjectContent.toJson frame.objects),
      ("arrays", .ofNumberedMap ArrayContent.toJson frame.arrays)]

/-- Reads a frame. -/
def ofJson? (reading : Reading) (json : Json) : Option Frame := do
  let record ← json.record? ["function", "this", "locals", "statics", "objects", "arrays"] 0
  let values := Json.textMap? (Value.ofJson? reading)
  return {
    function := ← record.optional "function" "" Json.text?
    receiver := ← record.optional "this" none (Json.nullable? (Value.ofJson? reading))
    locals := ← record.optional "locals" .empty values
    statics := ← record.optional "statics" .empty values
    objects := ← record.optional "objects" .empty
      (Json.numberedMap? reading (ObjectContent.ofJson? reading))
    arrays := ← record.optional "arrays" .empty
      (Json.numberedMap? reading (ArrayContent.ofJson? reading)) }

end Frame

end Watch
