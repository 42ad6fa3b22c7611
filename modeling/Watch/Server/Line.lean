import Watch.Server
import Watch.Json.Reader
import Watch.Wire.Message
import Watch.Text.Blank

/-!
# Lines and limits

The server is spoken to in lines of text, each with one message, and takes its limits from its
surroundings. Blank lines are passed over; a line that is no request is answered under the id zero,
as is a request without an id.
-/

namespace Watch

/-- What a line of text says to the server. -/
inductive Line where
  /-- Nothing. -/
  | blank
  /-- Something that is no request. -/
  | malformed
  /-- A request with its id. -/
  | request (id : UInt64) (request : Request)
deriving DecidableEq

namespace Line

/-- Reads a line. -/
def ofText (text : String) : Line :=
  if Blank.isBlankText text then .blank
  else match (Json.read? text).bind Envelope.ofRequestJson? with
    | some envelope => .request (envelope.id.getD 0) envelope.content
    | none => .malformed

/-- The line that answers the request with an id. -/
def ofReply (id : UInt64) (reply : Reply) : String :=
  (Envelope.ofContent id reply).writeReply

/-- The reply to a line that is no request. -/
def complaint : Reply :=
  .error "Parse error: the line is not a request"

end Line

namespace Limits

/-- A limit as text: decimal digits, perhaps after a plus sign, of a number of 64 bits. -/
def ofText? (text : String) : Option UInt64 :=
  let digits := match Blank.trim text with
    | '+' :: rest => rest
    | chars => chars
  if digits.isEmpty then none
  else do
    let numbers ← digits.mapM Digit.ofChar?
    let number := numbers.foldl (fun number digit => number * 10 + digit.val) 0
    if number < UInt64.size then return number.toUInt64 else none

/-- The limits that are set by texts; a text that is missing or says nothing leaves the default. -/
def ofTexts (maxSteps maxStackDepth : Option String) : Limits :=
  let usual : Limits := {}
  { maxSteps := (maxSteps.bind ofText?).getD usual.maxSteps
    maxStackDepth := (maxStackDepth.bind ofText?).getD usual.maxStackDepth }

end Limits

end Watch
