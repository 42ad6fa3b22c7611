import Watch.Proofs.SortedMap
import Watch.Frame.Invocation

/-!
# The shape of a frame

The shape of a frame is all of it but the values in its cells: which cells there are. Whether a
location can be fetched depends on the shape alone, and no answer of a frame changes it. A location
that could be fetched once can therefore always be stored into.
-/

namespace Watch

/-- What a frame is without the values in its cells. -/
structure FrameShape where
  /-- The name of the function. -/
  function : String
  /-- Whether there is a receiver. -/
  hasReceiver : Bool
  /-- The names of the local variables. -/
  locals : List String
  /-- The keys of the static fields. -/
  statics : List String
  /-- The objects by id, with the names of their classes and of their fields. -/
  objects : List (UInt64 × String × List String)
  /-- The arrays by id, with their element types and lengths. -/
  arrays : List (UInt64 × TypeTag × Nat)
deriving DecidableEq

namespace ObjectContent

/-- The name of the class of an object and the names of its fields. -/
def shape (object : ObjectContent) : String × List String :=
  (object.typeName, object.fields.keys)

end ObjectContent

namespace ArrayContent

/-- The element type of an array and its length. -/
def shape (array : ArrayContent) : TypeTag × Nat :=
  (array.element, array.elements.size)

end ArrayContent

namespace Frame

/-- The shape of a frame. -/
def shape (frame : Frame) : FrameShape where
  function := frame.function
  hasReceiver := frame.receiver.isSome
  locals := frame.locals.keys
  statics := frame.statics.keys
  objects := frame.objects.entries.map fun entry => (entry.1, entry.2.shape)
  arrays := frame.arrays.entries.map fun entry => (entry.1, entry.2.shape)

theorem shape_write (frame : Frame) (location : Location) (value : Value) :
    (frame.write location value).shape = frame.shape := by
  cases location with
  | «local» name => simp only [write, shape, SortedMap.keys_modify]
  | this => simp only [write, shape, Option.isSome_map]
  | field id name =>
      simp only [write, shape]
      rw [SortedMap.map_entries_modify frame.objects id _ ObjectContent.shape]
      intro object
      simp only [ObjectContent.shape, SortedMap.keys_modify]
  | staticField typeName name => simp only [write, shape, SortedMap.keys_modify]
  | element id index =>
      simp only [write, shape]
      rw [SortedMap.map_entries_modify frame.arrays id _ ArrayContent.shape]
      intro array
      simp only [ArrayContent.shape, Array.size_setIfInBounds]

/-- A store that succeeds finds a value in the location, and writes the new one over it. -/
theorem eq_write_of_store {frame after : Frame} {location : Location} {value : Value}
    (stored : frame.store location value = .ok after) :
    ∃ old, frame.fetch location = .ok old ∧ after = frame.write location value := by
  rw [store] at stored
  cases fetched : frame.fetch location with
  | error error => simp [fetched, Except.map] at stored
  | ok old =>
      simp only [fetched, Except.map, Except.ok.injEq] at stored
      exact ⟨old, rfl, stored.symm⟩

theorem shape_store {frame after : Frame} {location : Location} {value : Value}
    (stored : frame.store location value = .ok after) : after.shape = frame.shape := by
  rcases eq_write_of_store stored with ⟨old, -, rfl⟩
  exact frame.shape_write location value

/-- No answer of a frame changes its shape. -/
theorem shape_answer (frame : Frame) (call : Call) :
    (frame.answer call).2.shape = frame.shape := by
  cases call with
  | fetch location => rfl
  | store location value =>
      rw [answer]
      split
      · next stored => exact shape_store stored
      · rfl
  | invoke operation operands => rfl

theorem isOk_found (cell : Option Value) (complaint : String) :
    (found cell complaint).isOk = cell.isSome := by
  cases cell <;> rfl

/-- Frames of one shape have the same locations. -/
theorem isOk_fetch {left right : Frame} (same : left.shape = right.shape) (location : Location) :
    (left.fetch location).isOk = (right.fetch location).isOk := by
  simp only [shape, FrameShape.mk.injEq] at same
  rcases same with ⟨-, receivers, locals, statics, objects, arrays⟩
  cases location with
  | «local» name => simp only [fetch, isOk_found, SortedMap.isSome_get?_of_keys locals]
  | this => simp only [fetch, isOk_found, receivers]
  | field id name =>
      have objectsEq := SortedMap.map_get?_eq ObjectContent.shape objects id
      simp only [fetch]
      cases inLeft : left.objects.get? id <;> cases inRight : right.objects.get? id <;>
        simp only [inLeft, inRight, Option.map_some, Option.map_none, reduceCtorEq,
          Option.some.injEq, ObjectContent.shape, Prod.mk.injEq] at objectsEq
      · rfl
      · next object other =>
        simp only [isOk_found, SortedMap.isSome_get?_of_keys objectsEq.2]
  | staticField typeName name =>
      simp only [fetch, isOk_found, SortedMap.isSome_get?_of_keys statics]
  | element id index =>
      have arraysEq := SortedMap.map_get?_eq ArrayContent.shape arrays id
      simp only [fetch]
      cases inLeft : left.arrays.get? id <;> cases inRight : right.arrays.get? id <;>
        simp only [inLeft, inRight, Option.map_some, Option.map_none, reduceCtorEq,
          Option.some.injEq, ArrayContent.shape, Prod.mk.injEq] at arraysEq
      · rfl
      · next array other =>
        by_cases inside : index.toNat < array.elements.size
        · have insideToo : index.toNat < other.elements.size := arraysEq.2 ▸ inside
          simp only [Array.getElem?_eq_getElem inside, Array.getElem?_eq_getElem insideToo]
          rfl
        · have outsideToo : ¬index.toNat < other.elements.size := arraysEq.2 ▸ inside
          simp only [Array.getElem?_eq_none (Nat.le_of_not_lt inside),
            Array.getElem?_eq_none (Nat.le_of_not_lt outsideToo)]
          rfl

end Frame

end Watch
