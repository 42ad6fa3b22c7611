import Watch.Proofs.Wire.Message
import Watch.Proofs.Wire.Reply

/-!
# Documents that come back

Programs, frames, locations, operations, faults, limits and requests are also exchanged by
themselves, without an envelope around them. Nothing is set aside then, so that a heap comes back
like everything else: the text of such a document is read as the document. The only thing that is
asked of it is that the numeral of each of its floating-point numbers is read as the number, which
leaves out the infinities and not-a-number.
-/

namespace Watch

namespace Json

variable {Item : Type} {write : Item → Json} {read : Json → Option Item} {item : Item}

/-- Whether the text of an item is read as the item. -/
def Restores (write : Item → Json) (read : Json → Option Item) (item : Item) : Prop :=
  (Json.read? (write item).write).bind read = some item

theorem Tidy.restores {depth : Nat} (tidy : (write item).Tidy depth)
    (found : read (write item) = some item) : Restores write read item := by
  rw [Restores, tidy.read?_write]
  exact found

end Json

namespace Limits

theorem ofJson?_toJson (limits : Limits) : ofJson? limits.toJson = some limits := by
  simp [toJson, ofJson?, Json.record?_ofMembers]

theorem tidy_toJson (limits : Limits) : limits.toJson.Tidy 1 := by
  apply Json.Tidy.ofMembers
  simp [Json.Tidy.ofWord]

end Limits

namespace Document

/-- The text of each kind of document is read as the document. -/
theorem restores_of_readsBack :
    (∀ program : Program, (∀ value ∈ program.values, value.ReadsBack) →
      Json.Restores Program.toJson (Program.ofJson? .direct) program) ∧
    (∀ frame : Frame, (∀ value ∈ frame.values, value.ReadsBack) →
      Json.Restores Frame.toJson (Frame.ofJson? .direct) frame) ∧
    (∀ request : Request, (∀ value ∈ request.values, value.ReadsBack) →
      Json.Restores Request.toJson Request.ofJson? request) ∧
    (∀ location : Location,
      Json.Restores Location.toJson (Location.ofJson? .direct) location) ∧
    (∀ operation : TargetOperation,
      Json.Restores TargetOperation.toJson (TargetOperation.ofJson? .direct) operation) ∧
    (∀ fault : Fault, Json.Restores Fault.toJson (Fault.ofJson? .direct) fault) ∧
    ∀ limits : Limits, Json.Restores Limits.toJson Limits.ofJson? limits := by
  refine ⟨?program, ?frame, ?request, ?location, ?operation, ?fault, ?limits⟩
  case program =>
    intro program readsBack
    exact (Program.tidy_toJson readsBack).restores (Program.ofJson?_toJson .direct readsBack)
  case frame =>
    intro frame readsBack
    exact (Frame.tidy_toJson readsBack).restores (Frame.ofJson?_toJson readsBack .direct)
  case request =>
    intro request readsBack
    have tidy : request.toJson.Tidy 8 := .ofMembers (Request.tidy_members readsBack)
    exact tidy.restores (Request.ofJson?_toJson readsBack)
  case location =>
    intro location
    exact location.tidy_toJson.restores (location.ofJson?_toJson .direct)
  case operation =>
    intro operation
    exact operation.tidy_toJson.restores (operation.ofJson?_toJson .direct)
  case fault =>
    intro fault
    exact fault.tidy_toJson.restores (fault.ofJson?_toJson .direct)
  case limits =>
    intro limits
    exact limits.tidy_toJson.restores limits.ofJson?_toJson

/-- A frame whose receiver is the null reference, with an object that has fields. -/
def heapFrame : Frame :=
  { Frame.empty with
    receiver := some .null
    objects := SortedMap.empty.insert 1
      ⟨"Point", (SortedMap.empty.insert "x" (.double 1.5)).insert "\n" (.string "null")⟩ }

theorem restores_heapFrame :
    Json.Restores Frame.toJson (Frame.ofJson? .direct) heapFrame ∧
      Json.Restores Request.toJson Request.ofJson? (.loadFrame "main" heapFrame) ∧
      Json.Restores Program.toJson (Program.ofJson? .direct) #[⟨.pushLiteral (.float 0.1), 4⟩] := by
  have frameReadsBack : ∀ value ∈ heapFrame.values, value.ReadsBack := by
    have listed : heapFrame.values = [.null, .string "null", .double 1.5] := rfl
    rw [listed]
    intro value member
    rcases List.mem_cons.1 member with rfl | others
    · trivial
    rcases List.mem_cons.1 others with rfl | last
    · trivial
    rcases List.mem_singleton.1 last with rfl
    show (Json.ofDouble 1.5).double? = some 1.5
    decide +kernel
  have programReadsBack : ∀ value ∈ Program.values #[⟨.pushLiteral (.float 0.1), 4⟩],
      value.ReadsBack := by
    intro value listed
    rcases List.mem_singleton.1 listed with rfl
    show (Json.ofFloat 0.1).float? = some 0.1
    decide +kernel
  refine ⟨restores_of_readsBack.2.1 heapFrame frameReadsBack, ?_, ?_⟩
  · exact restores_of_readsBack.2.2.1 (.loadFrame "main" heapFrame) frameReadsBack
  · exact restores_of_readsBack.1 _ programReadsBack

end Document

end Watch
