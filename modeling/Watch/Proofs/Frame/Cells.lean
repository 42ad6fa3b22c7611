import Watch.Proofs.Frame.Shape

/-!
# The cells of a frame

Locations stand for cells. Two locations may stand for one cell, for a static field is found under a
key that does not tell where the name of its type ends. A write into a location is seen in all
locations of its cell (`Frame.fetch_write_of_eq`) and in no other (`Frame.fetch_write_of_ne`), it
hides the writes into the same location before it (`Frame.write_write`), and writes into two cells
may be made in either order (`Frame.write_comm`).

Frames agree on some locations if they give the same answer there (`Frame.AgreeOn`). Whatever is
written into both, they still do, so that calls that stay within these locations cannot tell the
frames apart.
-/

namespace Watch

/-- What a location stands for in a frame. -/
inductive Cell where
  /-- The cell of a local variable. -/
  | local (name : String)
  /-- The cell of the receiver. -/
  | receiver
  /-- The cell of a field of an object. -/
  | field (object : UInt64) (name : String)
  /-- The cell of the static fields with a key. -/
  | static (key : String)
  /-- The cell of an element of an array. -/
  | element (array : UInt64) (index : UInt32)
deriving DecidableEq

namespace Location

/-- The cell of a location. -/
def cell : Location → Cell
  | .local name => .local name
  | .this => .receiver
  | .field object name => .field object name
  | .staticField typeName name => .static (Frame.staticKey typeName name)
  | .element array index => .element array index

end Location

namespace Call

/-- The location that a call is about. -/
def location? : Call → Option Location
  | .fetch location | .store location _ => some location
  | .invoke .. => none

end Call

namespace Frame

theorem found_map (cell : Option Value) (complaint : String) (value : Value) :
    found (cell.map fun _ => value) complaint = (found cell complaint).map fun _ => value := by
  cases cell <;> rfl

/-- A write is seen in every location of the cell that exists. -/
theorem fetch_write_of_eq (frame : Frame) {location other : Location} (value : Value)
    (same : location.cell = other.cell) :
    (frame.write location value).fetch other = (frame.fetch other).map fun _ => value := by
  cases location with
  | «local» name =>
      cases other with
      | «local» otherName =>
          cases same
          simp only [write, fetch, SortedMap.get?_modify_self, found_map]
      | _ => cases same
  | this =>
      cases other with
      | this => simp only [write, fetch, found_map]
      | _ => cases same
  | field id name =>
      cases other with
      | field otherId otherName =>
          cases same
          simp only [write, fetch, SortedMap.get?_modify_self]
          cases frame.objects.get? id with
          | none => rfl
          | some object => simp only [Option.map_some, SortedMap.get?_modify_self, found_map]
      | _ => cases same
  | staticField typeName name =>
      cases other with
      | staticField otherType otherName =>
          have sameKey : staticKey typeName name = staticKey otherType otherName :=
            Cell.static.inj same
          simp only [write, fetch, sameKey, SortedMap.get?_modify_self, found_map]
      | _ => cases same
  | element id index =>
      cases other with
      | element otherId otherIndex =>
          cases same
          simp only [write, fetch, SortedMap.get?_modify_self]
          cases frame.arrays.get? id with
          | none => rfl
          | some array =>
              simp only [Option.map_some, ArrayContent.length, Array.size_setIfInBounds,
                Array.getElem?_setIfInBounds_self]
              by_cases inside : index.toNat < array.elements.size
              · simp [inside, Except.map]
              · simp [inside, Except.map]
      | _ => cases same

/-- A write is not seen in other cells. -/
theorem fetch_write_of_ne (frame : Frame) {location other : Location} (value : Value)
    (different : location.cell ≠ other.cell) :
    (frame.write location value).fetch other = frame.fetch other := by
  cases location with
  | «local» name =>
      cases other with
      | «local» otherName =>
          have differentName : otherName ≠ name := by
            rintro rfl
            exact different rfl
          simp only [write, fetch, SortedMap.get?_modify_of_ne differentName]
      | _ => rfl
  | this =>
      cases other with
      | this => exact absurd rfl different
      | _ => rfl
  | field id name =>
      cases other with
      | field otherId otherName =>
          simp only [write, fetch]
          by_cases sameId : otherId = id
          · subst sameId
            have differentName : otherName ≠ name := by
              rintro rfl
              exact different rfl
            rw [SortedMap.get?_modify_self]
            cases frame.objects.get? otherId with
            | none => rfl
            | some object => simp only [Option.map_some, SortedMap.get?_modify_of_ne differentName]
          · rw [SortedMap.get?_modify_of_ne sameId]
      | _ => rfl
  | staticField typeName name =>
      cases other with
      | staticField otherType otherName =>
          have differentKey : staticKey otherType otherName ≠ staticKey typeName name := by
            intro sameKey
            exact different (congrArg Cell.static sameKey.symm)
          simp only [write, fetch, SortedMap.get?_modify_of_ne differentKey]
      | _ => rfl
  | element id index =>
      cases other with
      | element otherId otherIndex =>
          simp only [write, fetch]
          by_cases sameId : otherId = id
          · subst sameId
            have differentIndex : index.toNat ≠ otherIndex.toNat := by
              intro sameIndex
              exact different (congrArg (Cell.element otherId) (UInt32.toNat_inj.1 sameIndex))
            rw [SortedMap.get?_modify_self]
            cases frame.arrays.get? otherId with
            | none => rfl
            | some array =>
                simp only [Option.map_some, ArrayContent.length, Array.size_setIfInBounds,
                  Array.getElem?_setIfInBounds_ne differentIndex]
          · rw [SortedMap.get?_modify_of_ne sameId]
      | _ => rfl

/-- Of two writes into one location the second is the one that counts. -/
theorem write_write (frame : Frame) (location : Location) (value other : Value) :
    (frame.write location value).write location other = frame.write location other := by
  cases location with
  | «local» name => simp only [write, SortedMap.modify_modify]
  | this => simp only [write, Option.map_map, Function.comp_def]
  | field id name => simp only [write, SortedMap.modify_modify]
  | staticField typeName name => simp only [write, SortedMap.modify_modify]
  | element id index =>
      simp only [write, SortedMap.modify_modify, Array.setIfInBounds_setIfInBounds]

/-- Writing what is there already changes nothing. -/
theorem write_of_fetch {frame : Frame} {location : Location} {value : Value}
    (fetched : frame.fetch location = .ok value) : frame.write location value = frame := by
  have there : ∀ {cell : Option Value} {complaint : String},
      found cell complaint = .ok value → cell = some value := by
    rintro (_ | own) complaint ⟨⟩
    rfl
  cases location with
  | «local» name =>
      have same : ∀ item, frame.locals.get? name = some item → value = item := by
        intro item isItem
        exact Option.some.inj ((there fetched).symm.trans isItem)
      simp only [write, SortedMap.modify_eq_self same]
  | this =>
      have isReceiver := there fetched
      simp only [write, isReceiver, Option.map_some]
      rw [← isReceiver]
  | staticField typeName name =>
      have same : ∀ item, frame.statics.get? (staticKey typeName name) = some item →
          value = item := by
        intro item isItem
        exact Option.some.inj ((there fetched).symm.trans isItem)
      simp only [write, SortedMap.modify_eq_self same]
  | field id name =>
      have same : ∀ object, frame.objects.get? id = some object →
          { object with fields := object.fields.modify name fun _ => value } = object := by
        intro object isObject
        simp only [fetch, isObject] at fetched
        have sameField : ∀ item, object.fields.get? name = some item → value = item := by
          intro item isItem
          exact Option.some.inj ((there fetched).symm.trans isItem)
        rw [SortedMap.modify_eq_self sameField]
      simp only [write, SortedMap.modify_eq_self same]
  | element id index =>
      have same : ∀ array, frame.arrays.get? id = some array →
          { array with elements := array.elements.setIfInBounds index.toNat value } = array := by
        intro array isArray
        simp only [fetch, isArray] at fetched
        split at fetched
        · next item isItem =>
          cases fetched
          rcases Array.getElem?_eq_some_iff.1 isItem with ⟨inside, rfl⟩
          simp [Array.setIfInBounds, inside]
        · cases fetched
      simp only [write, SortedMap.modify_eq_self same]

/-- Writes into two cells may be made in either order. -/
theorem write_comm (frame : Frame) {location other : Location} (value otherValue : Value)
    (different : location.cell ≠ other.cell) :
    (frame.write location value).write other otherValue =
      (frame.write other otherValue).write location value := by
  cases location with
  | «local» name =>
      cases other with
      | «local» otherName =>
          simp only [write]
          rw [SortedMap.modify_comm]
          rintro rfl
          exact absurd rfl different
      | _ => rfl
  | this =>
      cases other with
      | this => exact absurd rfl different
      | _ => rfl
  | field id name =>
      cases other with
      | field otherId otherName =>
          simp only [write]
          rw [SortedMap.modify_comm]
          -- In one object the fields are not the same.
          rintro rfl object
          simp only
          rw [SortedMap.modify_comm]
          rintro rfl
          exact absurd rfl different
      | _ => rfl
  | staticField typeName name =>
      cases other with
      | staticField otherType otherName =>
          simp only [write]
          rw [SortedMap.modify_comm]
          intro sameKey
          exact absurd (congrArg Cell.static sameKey) different
      | _ => rfl
  | element id index =>
      cases other with
      | element otherId otherIndex =>
          simp only [write]
          rw [SortedMap.modify_comm]
          -- In one array the indices are not the same.
          rintro rfl array
          simp only
          rw [Array.setIfInBounds_comm]
          intro sameIndex
          exact different (congrArg (Cell.element id) (UInt32.toNat_inj.1 sameIndex))
      | _ => rfl

/-- The frame with other values in some locations, written one after another. -/
def writeAll (frame : Frame) (stores : List (Location × Value)) : Frame :=
  stores.foldl (fun frame store => frame.write store.1 store.2) frame

theorem fetch_writeAll_of_ne (frame : Frame) {stores : List (Location × Value)}
    {location : Location} (different : ∀ store ∈ stores, store.1.cell ≠ location.cell) :
    (frame.writeAll stores).fetch location = frame.fetch location := by
  induction stores generalizing frame with
  | nil => rfl
  | cons store stores ih =>
      rcases List.forall_mem_cons.1 different with ⟨first, rest⟩
      exact (ih _ rest).trans (frame.fetch_write_of_ne store.2 first)

theorem writeAll_write_comm (frame : Frame) {stores : List (Location × Value)}
    {location : Location} (value : Value)
    (different : ∀ store ∈ stores, store.1.cell ≠ location.cell) :
    (frame.write location value).writeAll stores =
      (frame.writeAll stores).write location value := by
  induction stores generalizing frame with
  | nil => rfl
  | cons store stores ih =>
      rcases List.forall_mem_cons.1 different with ⟨first, rest⟩
      simp only [writeAll, List.foldl_cons] at ih ⊢
      rw [← frame.write_comm _ _ first, ih _ rest]

/-- Two series of writes into different cells may be made in either order. -/
theorem writeAll_comm (frame : Frame) {stores others : List (Location × Value)}
    (different : ∀ store ∈ stores, ∀ other ∈ others, store.1.cell ≠ other.1.cell) :
    (frame.writeAll stores).writeAll others = (frame.writeAll others).writeAll stores := by
  induction others generalizing frame with
  | nil => rfl
  | cons other others ih =>
      have first : ∀ store ∈ stores, store.1.cell ≠ other.1.cell := fun store member =>
        different store member other List.mem_cons_self
      have rest := ih (frame.write other.1 other.2) fun store member later inLater =>
        different store member later (List.mem_cons_of_mem _ inLater)
      rw [writeAll_write_comm frame other.2 first] at rest
      exact rest

/-- Frames that give the same answers to fetches of some locations. -/
def AgreeOn (agreed : Location → Prop) (left right : Frame) : Prop :=
  ∀ location, agreed location → left.fetch location = right.fetch location

namespace AgreeOn

variable {agreed : Location → Prop} {left right : Frame}

/-- Whatever is written into both frames, wherever it is, they agree as before. -/
theorem write (agree : AgreeOn agreed left right) (location : Location) (value : Value) :
    AgreeOn agreed (left.write location value) (right.write location value) := by
  intro other isAgreed
  by_cases same : location.cell = other.cell
  · rw [fetch_write_of_eq _ _ same, fetch_write_of_eq _ _ same, agree other isAgreed]
  · rw [fetch_write_of_ne _ _ same, fetch_write_of_ne _ _ same, agree other isAgreed]

/-- A call that is about no other locations gets the same answer, and the frames agree as before. -/
theorem answer (agree : AgreeOn agreed left right) {call : Call}
    (within : ∀ location, call.location? = some location → agreed location) :
    (right.answer call).1 = (left.answer call).1 ∧
      AgreeOn agreed (left.answer call).2 (right.answer call).2 := by
  cases call with
  | fetch location => exact ⟨(agree location (within location rfl)).symm, agree⟩
  | store location value =>
      have fetchEq := agree location (within location rfl)
      simp only [Frame.answer, store, ← fetchEq]
      cases left.fetch location with
      | error error => exact ⟨rfl, agree⟩
      | ok old => exact ⟨rfl, agree.write location value⟩
  | invoke operation operands => exact ⟨rfl, agree⟩

end AgreeOn

end Frame

end Watch
