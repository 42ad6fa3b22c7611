import Watch.Server.Line
import Watch.Proofs.Server.History
import Watch.Proofs.Wire.Reply

/-!
# Reading an answer

The server answers a request with a line, the text of a reply in its envelope. The debugger reads
the same reply under the same id from it, unless the reply shows the heap of a frame or carries a
number that is not read as itself.
-/

namespace Watch

namespace Line

/--
The line of a reply, of whatever kind and with whatever content, is read as that reply under its id
exactly if it shows no objects and arrays and if each floating-point number in it is read as itself.
-/
theorem ofReply_iff (id : UInt64) (reply : Reply) :
    (Json.read? (ofReply id reply)).bind Envelope.ofReplyJson? =
        some (Envelope.ofContent id reply) ↔
      reply.hasHeap = false ∧ ∀ value ∈ reply.values, value.ReadsBack := by
  rw [ofReply, Envelope.read?_writeReply, Option.bind_some]
  exact Envelope.ofReplyJson?_toJson_iff

/-- A frame that reaches an object without fields. -/
def shownFrame : Frame :=
  Frame.empty.withObject 1 ⟨"Point", .empty⟩

/-- Zero is divided by zero in a session whose frame has a heap. -/
def dividing : List Event :=
  [.request 1 (.loadFrame "main" shownFrame),
    .request 2 (.evaluate "main"
      #[⟨.pushLiteral (.double 0), 0⟩, ⟨.pushLiteral (.double 0), 4⟩,
        ⟨.binary ⟨.div, .double, .double, .double, false⟩, 2⟩]),
    .acquire 1, .work 1 4, .release 1]

/-- The server sends a number without a numeral, and a heap; neither is read as what was sent. -/
theorem ofReply_iff_dividing :
    let server := (History.ofEvents {} dividing).server
    (∃ number : Float, number.isNaN = true ∧
      (server.finish 1).2 = some (.ofValue (.double number)) ∧
      (Json.read? (ofReply 2 (.ofValue (.double number)))).bind Envelope.ofReplyJson? ≠
        some (Envelope.ofContent 2 (.ofValue (.double number)))) ∧
      (server.handle 3 (.frame "main")).2 = .reply (.frame shownFrame) ∧
      (Json.read? (ofReply 3 (.frame shownFrame))).bind Envelope.ofReplyJson? ≠
        some (Envelope.ofContent 3 (.frame shownFrame)) := by
  intro server
  have quotient : (0 / 0 : Float).isNaN = true := by decide +kernel
  refine ⟨⟨0 / 0, quotient, by decide +kernel, ?_⟩, by decide +kernel, ?_⟩
  · rw [Ne, ofReply_iff]
    rintro ⟨-, readsBack⟩
    have finite := Value.isFinite_of_readsBack (readsBack (.double (0 / 0)) List.mem_cons_self)
    revert finite
    decide +kernel
  · rw [Ne, ofReply_iff]
    rintro ⟨noHeap, -⟩
    contradiction

end Line

end Watch
