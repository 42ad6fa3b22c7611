import Watch.Frame
import Watch.Instruction
import Watch.Value.Text

/-!
# Messages

What a debugger asks of the evaluation server and what the server answers. Each message travels in
an envelope with an id, by which an answer belongs to its request.
-/

namespace Watch

/-- What a debugger asks of the server. -/
inductive Request where
  /-- Install the frame that a session evaluates in, in place of an earlier one. -/
  | loadFrame (session : String) (frame : Frame)
  /-- Evaluate a program in the frame of a session. -/
  | evaluate (session : String) (program : Program)
  /-- Give up on the evaluation that a request started. -/
  | cancel (id : UInt64)
  /-- Show the frame of a session with everything that was stored into it. -/
  | frame (session : String)
  | shutdown
deriving DecidableEq

/-- What the server answers. -/
inductive Reply where
  /-- The value of an evaluation: its text, the name of its type, and itself. -/
  | result (text typeName : String) (value : Value)
  /-- The fault of an evaluation. -/
  | fault (fault : Fault)
  | frame (frame : Frame)
  /-- Whether something was done. -/
  | success (done : Bool)
  /-- Why a request cannot be served. -/
  | error (message : String)
deriving DecidableEq

namespace Reply

/-- The reply with the value of an evaluation. -/
def ofValue (value : Value) : Reply :=
  .result value.display value.tag.name value

end Reply

/-- A message with the id that ties an answer to its request. -/
structure Envelope (Content : Type) where
  version : String
  /-- The id of the request. -/
  id : Option UInt64
  content : Content
deriving DecidableEq

namespace Envelope

variable {Content : Type}

/-- A message under an id, in the version of the protocol that the server speaks. -/
def ofContent (id : UInt64) (content : Content) : Envelope Content :=
  ⟨"2.0", some id, content⟩

end Envelope

end Watch
