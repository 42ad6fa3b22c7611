import Watch.Server.Line
import Watch.Proofs.Wire.Message

/-!
# Sending a request

A request is sent to the server as the text of its envelope. The server reads the same request under
the same id, or, if the request carries the objects or arrays of a frame, no request at all.
-/

namespace Watch

namespace Line

theorem isBlankText_writeRequest (envelope : Envelope Request) :
    Blank.isBlankText envelope.writeRequest = false := by
  rcases envelope with ⟨version, id, content⟩
  have brace : Blank.isBlank '\x7b' = false := by decide
  simp [Blank.isBlankText, Envelope.writeRequest, Json.write, Envelope.toJson, Json.ofMembers,
    Json.chars, brace]

/-- The line of a request is that request exactly if it carries no heap, and malformed otherwise. -/
theorem ofText_writeRequest (id : UInt64) {request : Request}
    (readsBack : ∀ value ∈ request.values, value.ReadsBack) :
    (Json.read? (Envelope.ofContent id request).writeRequest).bind Envelope.ofRequestJson? =
        (if request.hasHeap then none else some (Envelope.ofContent id request)) ∧
      ofText (Envelope.ofContent id request).writeRequest =
        if request.hasHeap then .malformed else .request id request := by
  have read : (Json.read? (Envelope.ofContent id request).writeRequest).bind
      Envelope.ofRequestJson? =
        if request.hasHeap then none else some (Envelope.ofContent id request) :=
    Envelope.read?_writeRequest readsBack
  refine ⟨read, ?_⟩
  rw [ofText, isBlankText_writeRequest, read]
  cases request.hasHeap <;> rfl

/-- A program with a constant in single precision. -/
def sentProgram : Program :=
  #[⟨.pushLiteral (.float 0.1), 4⟩]

/-- A frame that reaches an object, which has a field in double precision. -/
def sentFrame : Frame :=
  Frame.empty.withObject 1 ⟨"Point", SortedMap.empty.insert "x" (.double 1.5)⟩

theorem ofText_writeRequest_sent :
    ofText (Envelope.ofContent 7 (.evaluate "main" sentProgram)).writeRequest =
        .request 7 (.evaluate "main" sentProgram) ∧
      ofText (Envelope.ofContent 8 (.loadFrame "main" sentFrame)).writeRequest = .malformed := by
  constructor
  · have readsBack : ∀ value ∈ (Request.evaluate "main" sentProgram).values, value.ReadsBack := by
      intro value listed
      rcases List.mem_singleton.1 listed with rfl
      show (Json.ofFloat 0.1).float? = some 0.1
      decide +kernel
    exact (ofText_writeRequest 7 readsBack).2
  · have readsBack : ∀ value ∈ (Request.loadFrame "main" sentFrame).values, value.ReadsBack := by
      intro value listed
      rcases List.mem_singleton.1 listed with rfl
      show (Json.ofDouble 1.5).double? = some 1.5
      decide +kernel
    exact (ofText_writeRequest 8 readsBack).2

end Line

end Watch
