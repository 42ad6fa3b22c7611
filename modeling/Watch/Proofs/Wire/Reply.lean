import Watch.Proofs.Wire.Message

/-!
# Replies in their envelopes

A reply has no name: it is told by its fields, which are tried one kind after the other once all of
them were set aside. No kind takes the fields of another, so that what is read is the reply itself
or nothing at all, up to the numerals of floating-point numbers. The text of a reply comes back
exactly if it shows no frame with a heap and if every number that it carries is read as itself.
-/

namespace Watch

namespace FaultKind

@[simp]
theorem ofJson?_toJson (reading : Reading) (kind : FaultKind) :
    ofJson? reading kind.toJson = some kind := by
  apply Json.named?_ofText
  · cases kind <;> decide
  · cases kind <;> decide

end FaultKind

namespace Fault

theorem ofJson?_toJson (reading : Reading) (fault : Fault) :
    ofJson? reading fault.toJson = some fault := by
  simp [toJson, ofJson?, Json.record?_ofMembers]

theorem tidy_toJson (fault : Fault) : fault.toJson.Tidy 1 := by
  apply Json.Tidy.ofMembers
  simp [FaultKind.toJson, Json.Tidy.ofText, Json.Tidy.ofWord]

end Fault

namespace Reply

/-- The values that a reply carries. -/
def values : Reply → List Value
  | .result _ _ value => [value]
  | .frame content => content.values
  | .fault _ | .success _ | .error _ => []

/-- Whether a reply shows a frame with objects or arrays. -/
def hasHeap : Reply → Bool
  | .frame content => content.hasHeap
  | .result .. | .fault _ | .success _ | .error _ => false

theorem fitIn_members (reply : Reply) : Envelope.FitIn reply.members := by
  cases reply <;> constructor <;> simp [members]

theorem normal_members (reply : Reply) : ∀ member ∈ reply.members, member.2.normal = member.2 := by
  cases reply with
  | result text typeName value => simp [members, Json.normal_ofText, Value.normal_toJson]
  | fault content => simpa [members] using (content.tidy_toJson).normal
  | frame content => simpa [members] using content.normal_toJson
  | success done => simp [members, Json.normal]
  | error message => simp [members, Json.normal_ofText]

/-- The members of a reply take up at most six levels of nesting. -/
theorem tidy_members {reply : Reply} (readsBack : ∀ value ∈ reply.values, value.ReadsBack) :
    ∀ member ∈ reply.members, member.2.Tidy 6 := by
  cases reply with
  | result text typeName value =>
      have carried : value.toJson.Tidy 2 := Value.tidy_toJson (readsBack value (by simp [values]))
      simp [members, Json.Tidy.ofText, carried.mono]
  | fault content => simp [members, content.tidy_toJson.mono]
  | frame content => simpa [members] using Frame.tidy_toJson readsBack
  | success done => simp [members, Json.Tidy.boolean]
  | error message => simp [members, Json.Tidy.ofText]

/-- Of the kinds that are tried on a reply, only its own takes its fields. -/
theorem ofSetAside?_members (reply : Reply) :
    ofSetAside? (.ofMembers reply.members) =
      match reply with
      | .result text typeName value =>
        (Value.ofJson? .tried value.toJson).map (.result text typeName)
      | .frame content => (Frame.ofJson? .tried content.toJson).map .frame
      | .fault _ | .success _ | .error _ => some reply := by
  cases reply with
  | result text typeName value =>
      cases read : Value.ofJson? .tried value.toJson <;>
        simp [members, ofSetAside?, result?, single?, read]
  | fault content => simp [members, ofSetAside?, result?, single?, Fault.ofJson?_toJson]
  | frame content => simp [members, ofSetAside?, result?, single?]
  | success done => simp [members, ofSetAside?, result?, single?]
  | error message => simp [members, ofSetAside?, result?, single?]

theorem ofSetAside?_members_iff {reply : Reply} :
    ofSetAside? (.ofMembers reply.members) = some reply ↔
      reply.hasHeap = false ∧ ∀ value ∈ reply.values, value.ReadsBack := by
  rw [ofSetAside?_members]
  cases reply with
  | result text typeName value =>
      have read : (Value.ofJson? .tried value.toJson).map (result text typeName) =
          some (result text typeName value) ↔ Value.ofJson? .tried value.toJson = some value := by
        simp
      simp only [read, hasHeap, values, List.mem_singleton, forall_eq, true_and]
      exact ⟨Value.readsBack_of_ofJson?, Value.ofJson?_toJson .tried⟩
  | frame content =>
      have read : (Frame.ofJson? .tried content.toJson).map frame = some (frame content) ↔
          Frame.ofJson? .tried content.toJson = some content := by
        simp
      simp only [read, hasHeap, values]
      refine ⟨Frame.readsBack_of_ofJson? rfl, ?_⟩
      rintro ⟨noHeap, readsBack⟩
      simp [Frame.ofJson?_toJson readsBack, noHeap]
  | fault content => simp [hasHeap, values]
  | success done => simp [hasHeap, values]
  | error message => simp [hasHeap, values]

end Reply

namespace Envelope

/-- Which replies are read again in their envelopes. -/
theorem ofReplyJson?_toJson_iff {envelope : Envelope Reply} :
    ofReplyJson? (envelope.toJson Reply.members) = some envelope ↔
      envelope.content.hasHeap = false ∧ ∀ value ∈ envelope.content.values, value.ReadsBack := by
  have fit := envelope.content.fitIn_members
  constructor
  · intro found
    rw [ofReplyJson?, ofJson?_toJson_eq fit] at found
    split at found
    · rcases Option.map_eq_some_iff.1 found with ⟨content, read, same⟩
      have contentEq : content = envelope.content := congrArg Envelope.content same
      exact Reply.ofSetAside?_members_iff.1 (contentEq ▸ read)
    · contradiction
  · rintro ⟨noHeap, readsBack⟩
    rw [ofReplyJson?, ofJson?_toJson fit (Reply.tidy_members readsBack) (by decide),
      Reply.ofSetAside?_members_iff.2 ⟨noHeap, readsBack⟩]
    rfl

theorem read?_writeReply (envelope : Envelope Reply) :
    Json.read? envelope.writeReply = some (envelope.toJson Reply.members) := by
  rw [writeReply, Json.read?_write, normal_toJson envelope.content.normal_members]

end Envelope

end Watch
