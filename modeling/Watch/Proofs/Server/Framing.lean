import Watch.Server.Line
import Watch.Proofs.Json.Graphic
import Watch.Proofs.Wire.Reply

/-!
# One line for each reply

A reply is sent as the text of its envelope and a line feed behind it. Nothing in a reply can end
the line early: the text of an envelope has no line feed and no carriage return of its own, whatever
stands in the values, the names and the messages. A client that splits what it is sent at the line
feeds therefore has one text for each reply, in the order in which they were sent, and each of these
is the whole text of an envelope.
-/

namespace Watch

theorem Envelope.graphic_writeReply (envelope : Envelope Reply) :
    Graphic envelope.writeReply.toList :=
  (envelope.toJson Reply.members).graphic_write

namespace Line

/-- What is written when some replies are sent, each under the id of what it answers. -/
def output (sent : List (UInt64 × Reply)) : List Char :=
  sent.flatMap fun answer => (ofReply answer.1 answer.2).toList ++ ['\n']

/-- No reply has a line break in its text, so that what is sent has one line for each reply. -/
theorem splitOn_output :
    (∀ envelope : Envelope Reply,
      '\n' ∉ envelope.writeReply.toList ∧ '\r' ∉ envelope.writeReply.toList ∧
        Json.read? envelope.writeReply = some (envelope.toJson Reply.members)) ∧
    ∀ sent : List (UInt64 × Reply),
      (output sent).splitOn '\n' =
        sent.map (fun answer => (ofReply answer.1 answer.2).toList) ++ [[]] := by
  refine ⟨?unbroken, ?lines⟩
  case unbroken =>
    intro envelope
    have graphic := envelope.graphic_writeReply
    exact ⟨graphic.not_mem (by decide), graphic.not_mem (by decide), envelope.read?_writeReply⟩
  case lines =>
    intro sent
    induction sent with
    | nil => rfl
    | cons answer sent ih =>
        have graphic : Graphic (ofReply answer.1 answer.2).toList :=
          (Envelope.ofContent answer.1 answer.2).graphic_writeReply
        have unbroken : '\n' ∉ (ofReply answer.1 answer.2).toList := graphic.not_mem (by decide)
        have first : output (answer :: sent) =
            (ofReply answer.1 answer.2).toList ++ '\n' :: output sent := by
          simp [output]
        rw [first, List.splitOn_append_cons_self_of_not_mem unbroken, ih]
        simp

end Line

end Watch
