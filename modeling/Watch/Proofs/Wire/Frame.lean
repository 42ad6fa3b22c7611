import Watch.Wire.Frame
import Watch.Proofs.Wire.Value

/-!
# Frames that come back

A frame is read as the frame that was written, unless it was set aside and has a heap: the ids of
its objects and arrays are keys of a map with numbers, which is then refused.
-/

namespace Watch

namespace ObjectContent

theorem ofJson?_toJson (reading : Reading) {object : ObjectContent}
    (readsBack : ∀ value ∈ object.fields.items, value.ReadsBack) :
    ofJson? reading object.toJson = some object := by
  have fields : (Json.ofTextMap Value.toJson object.fields).textMap? (Value.ofJson? reading) =
      some object.fields :=
    Json.textMap?_ofTextMap fun value listed =>
      Value.ofJson?_toJson reading (readsBack value listed)
  simp [toJson, ofJson?, Json.record?_ofMembers, fields]

theorem normal_toJson (object : ObjectContent) : object.toJson.normal = object.toJson := by
  apply Json.normal_ofMembers
  simp [Json.normal_ofText, Json.normal_ofTextMap Value.normal_toJson]

theorem tidy_toJson {object : ObjectContent}
    (readsBack : ∀ value ∈ object.fields.items, value.ReadsBack) : object.toJson.Tidy 4 := by
  have fields : (Json.ofTextMap Value.toJson object.fields).Tidy 3 :=
    .ofTextMap fun value listed => Value.tidy_toJson (readsBack value listed)
  apply Json.Tidy.ofMembers
  simp [Json.Tidy.ofText, fields]

end ObjectContent

namespace ArrayContent

theorem ofJson?_toJson (reading : Reading) {array : ArrayContent}
    (readsBack : ∀ value ∈ array.elements.toList, value.ReadsBack) :
    ofJson? reading array.toJson = some array := by
  have elements : (Json.array (array.elements.toList.map Value.toJson)).list?
      (Value.ofJson? reading) = some array.elements.toList :=
    Json.list?_array fun value listed => Value.ofJson?_toJson reading (readsBack value listed)
  simp [toJson, ofJson?, Json.record?_ofMembers, elements]

theorem normal_toJson (array : ArrayContent) : array.toJson.normal = array.toJson := by
  have elements : (Json.array (array.elements.toList.map Value.toJson)).normal =
      .array (array.elements.toList.map Value.toJson) := by
    apply Json.normal_array
    intro json listed
    rcases List.mem_map.1 listed with ⟨value, -, rfl⟩
    exact value.normal_toJson
  apply Json.normal_ofMembers
  simp [TypeTag.toJson, Json.normal_ofText, elements]

theorem tidy_toJson {array : ArrayContent}
    (readsBack : ∀ value ∈ array.elements.toList, value.ReadsBack) : array.toJson.Tidy 4 := by
  have elements : (Json.array (array.elements.toList.map Value.toJson)).Tidy 3 := by
    apply Json.Tidy.array
    intro json listed
    rcases List.mem_map.1 listed with ⟨value, member, rfl⟩
    exact Value.tidy_toJson (readsBack value member)
  apply Json.Tidy.ofMembers
  simp [TypeTag.tidy_toJson, elements]

end ArrayContent

namespace Frame

/-- The values that a frame holds. -/
def values (frame : Frame) : List Value :=
  frame.receiver.toList ++ frame.locals.items ++ frame.statics.items ++
    frame.objects.items.flatMap (fun object => object.fields.items) ++
    frame.arrays.items.flatMap (fun array => array.elements.toList)

/-- Whether a frame reaches objects or arrays. -/
def hasHeap (frame : Frame) : Bool :=
  !(frame.objects.entries.isEmpty && frame.arrays.entries.isEmpty)

theorem normal_toJson (frame : Frame) : frame.toJson.normal = frame.toJson := by
  apply Json.normal_ofMembers
  simp [Json.normal_ofText, Json.normal_ofOption Value.normal_toJson,
    Json.normal_ofTextMap Value.normal_toJson,
    Json.normal_ofNumberedMap ObjectContent.normal_toJson,
    Json.normal_ofNumberedMap ArrayContent.normal_toJson]

/-- A frame that was set aside and is read as itself has no heap, and numerals that are read so. -/
theorem readsBack_of_ofJson? {reading : Reading} {frame : Frame}
    (noNumbers : reading.numberedKeys = false)
    (found : ofJson? reading frame.toJson = some frame) :
    frame.hasHeap = false ∧ ∀ value ∈ frame.values, value.ReadsBack := by
  rcases frame with ⟨function, receiver, locals, statics, objects, arrays⟩
  have record : (toJson ⟨function, receiver, locals, statics, objects, arrays⟩).record?
      ["function", "this", "locals", "statics", "objects", "arrays"] 0 = some _ :=
    Json.record?_ofMembers rfl (by decide)
  rw [ofJson?, record] at found
  simp only [Option.bind_eq_bind, Option.bind_some, Record.optional_self, Record.optional_of_ne,
    ne_eq, String.reduceEq, not_false_eq_true, Json.text?_ofText, Option.bind_eq_some_iff,
    Option.pure_def, Option.some.injEq, Frame.mk.injEq, true_and] at found
  rcases found with ⟨_, receiverRead, _, localsRead, _, staticsRead, _, objectsRead, _, arraysRead,
    rfl, rfl, rfl, rfl, rfl⟩
  have noObjects := Json.isEmpty_of_numberedMap? noNumbers objectsRead
  have noArrays := Json.isEmpty_of_numberedMap? noNumbers arraysRead
  refine ⟨by simp [hasHeap, noObjects, noArrays, -List.isEmpty_iff], ?_⟩
  intro value listed
  simp only [values, SortedMap.items, List.isEmpty_iff.1 noObjects, List.isEmpty_iff.1 noArrays,
    List.map_nil, List.flatMap_nil, List.append_nil, List.mem_append, Option.mem_toList] at listed
  rcases listed with (held | held) | held
  · exact Value.readsBack_of_ofJson?
      (Json.reads_of_nullable? Value.toJson_ne_null receiverRead value held)
  · exact Value.readsBack_of_ofJson? (Json.reads_of_textMap? localsRead value held)
  · exact Value.readsBack_of_ofJson? (Json.reads_of_textMap? staticsRead value held)

section Wire

variable {frame : Frame} (readsBack : ∀ value ∈ frame.values, value.ReadsBack)
include readsBack

theorem readsBack_receiver : ∀ value ∈ frame.receiver, value.ReadsBack := by
  intro value present
  apply readsBack
  simp [values, Option.mem_def.1 present]

theorem readsBack_locals : ∀ value ∈ frame.locals.items, value.ReadsBack := by
  intro value listed
  apply readsBack
  simp [values, listed]

theorem readsBack_statics : ∀ value ∈ frame.statics.items, value.ReadsBack := by
  intro value listed
  apply readsBack
  simp [values, listed]

theorem readsBack_object : ∀ object ∈ frame.objects.items,
    ∀ value ∈ object.fields.items, value.ReadsBack := by
  intro object listed value member
  apply readsBack
  have held : value ∈ frame.objects.items.flatMap fun object => object.fields.items :=
    List.mem_flatMap_of_mem listed member
  simp only [values, List.mem_append, held, true_or, or_true]

theorem readsBack_array : ∀ array ∈ frame.arrays.items,
    ∀ value ∈ array.elements.toList, value.ReadsBack := by
  intro array listed value member
  apply readsBack
  have held : value ∈ frame.arrays.items.flatMap fun array => array.elements.toList :=
    List.mem_flatMap_of_mem listed member
  simp only [values, List.mem_append, held, or_true]

/-- A frame is read again unless it has a heap and was set aside. -/
theorem ofJson?_toJson (reading : Reading) :
    ofJson? reading frame.toJson =
      if reading.numberedKeys || !frame.hasHeap then some frame else none := by
  have receiver : (Json.ofOption Value.toJson frame.receiver).nullable? (Value.ofJson? reading) =
      some frame.receiver :=
    Json.nullable?_ofOption Value.toJson_ne_null fun value present =>
      Value.ofJson?_toJson reading (readsBack_receiver readsBack value present)
  have locals : (Json.ofTextMap Value.toJson frame.locals).textMap? (Value.ofJson? reading) =
      some frame.locals :=
    Json.textMap?_ofTextMap fun value listed =>
      Value.ofJson?_toJson reading (readsBack_locals readsBack value listed)
  have statics : (Json.ofTextMap Value.toJson frame.statics).textMap? (Value.ofJson? reading) =
      some frame.statics :=
    Json.textMap?_ofTextMap fun value listed =>
      Value.ofJson?_toJson reading (readsBack_statics readsBack value listed)
  have objects : (Json.ofNumberedMap ObjectContent.toJson frame.objects).numberedMap? reading
      (ObjectContent.ofJson? reading) =
        if reading.numberedKeys || frame.objects.entries.isEmpty then some frame.objects
        else none :=
    Json.numberedMap?_ofNumberedMap fun object listed =>
      ObjectContent.ofJson?_toJson reading (readsBack_object readsBack object listed)
  have arrays : (Json.ofNumberedMap ArrayContent.toJson frame.arrays).numberedMap? reading
      (ArrayContent.ofJson? reading) =
        if reading.numberedKeys || frame.arrays.entries.isEmpty then some frame.arrays else none :=
    Json.numberedMap?_ofNumberedMap fun array listed =>
      ArrayContent.ofJson?_toJson reading (readsBack_array readsBack array listed)
  simp only [toJson, ofJson?]
  simp [Json.record?_ofMembers, receiver, locals, statics, objects, arrays, hasHeap,
    -List.isEmpty_iff]
  cases reading.numberedKeys with
  | true => simp
  | false => cases frame.objects.entries.isEmpty <;> cases frame.arrays.entries.isEmpty <;> rfl

/-- A frame takes up at most six levels of nesting. -/
theorem tidy_toJson : frame.toJson.Tidy 6 := by
  have receiver : (Json.ofOption Value.toJson frame.receiver).Tidy 5 :=
    .ofOption fun value present =>
      (Value.tidy_toJson (readsBack_receiver readsBack value present)).mono (by decide)
  have locals : (Json.ofTextMap Value.toJson frame.locals).Tidy 3 :=
    .ofTextMap fun value listed => Value.tidy_toJson (readsBack_locals readsBack value listed)
  have statics : (Json.ofTextMap Value.toJson frame.statics).Tidy 3 :=
    .ofTextMap fun value listed => Value.tidy_toJson (readsBack_statics readsBack value listed)
  have objects : (Json.ofNumberedMap ObjectContent.toJson frame.objects).Tidy 5 :=
    .ofNumberedMap fun object listed =>
      ObjectContent.tidy_toJson (readsBack_object readsBack object listed)
  have arrays : (Json.ofNumberedMap ArrayContent.toJson frame.arrays).Tidy 5 :=
    .ofNumberedMap fun array listed =>
      ArrayContent.tidy_toJson (readsBack_array readsBack array listed)
  apply Json.Tidy.ofMembers
  simp [Json.Tidy.ofText, receiver, locals.mono, statics.mono, objects, arrays]

end Wire

end Frame

end Watch
