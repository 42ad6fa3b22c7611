import Watch.Server.Line

/-!
# The server program

Reads requests from the standard input, one in a line, and writes replies to the standard output.
The lines are read beside the jobs: while no line is there every job works on by a slice of steps,
so that a request to cancel reaches a job that runs.
-/

namespace Watch

namespace Main

/-- How many steps a job makes before the next line is looked for. -/
def slice : Nat := 1000

/-- Reads the bytes of a line; without any the input has ended. -/
partial def readBytes (input : IO.FS.Stream) (bytes : ByteArray) : IO ByteArray := do
  let next ← input.read 1
  if next.isEmpty then return bytes
  if next[0]? == some 10 then return bytes ++ next
  readBytes input (bytes ++ next)

/-- A line without its end. -/
def withoutEnd (text : String) : String :=
  let chars := match text.toList.reverse with
    | '\n' :: '\r' :: rest => rest
    | '\n' :: rest => rest
    | rest => rest
  String.ofList chars.reverse

/-- Writes a line. -/
def send (id : UInt64) (reply : Reply) : IO Unit := do
  let output ← IO.getStdout
  output.putStrLn (Line.ofReply id reply)
  output.flush

/-- Lets every job make a slice of steps, and answers those that are finished. -/
def workOn (server : Server) : IO Server := do
  let mut current := server
  for (number, job) in server.jobs.entries do
    let (after, reply) := current.progress number slice
    current := after
    if let some reply := reply then send job.request reply
  return current

/-- Serves requests until the input ends or the server is stopped. -/
partial def serve (server : Server) (input : IO.FS.Stream)
    (line : Task (Except IO.Error ByteArray)) : IO UInt32 := do
  if server.jobs.entries.isEmpty || (← IO.hasFinished line) then
    let bytes ← IO.ofExcept line.get
    if bytes.isEmpty then return 0
    let some text := String.fromUTF8? bytes | do
      (← IO.getStderr).putStrLn "Error: stream did not contain valid UTF-8"
      return 1
    let server ← match Line.ofText (withoutEnd text) with
      | .blank => pure (some server)
      | .malformed => do
        send 0 Line.complaint
        pure (some server)
      | .request id request => do
        let (server, dispatch) := server.handle id request
        match dispatch with
        | .reply reply => do
          send id reply
          pure (some server)
        | .started _ => pure (some server)
        | .stopped reply => do
          send id reply
          pure none
    match server with
    | none => return 0
    | some server => serve server input (← IO.asTask (readBytes input .empty))
  else
    serve (← workOn server) input line

end Main

end Watch

/-- Runs the server with the limits that the environment sets. -/
def main : IO UInt32 := do
  let limits := Watch.Limits.ofTexts (← IO.getEnv "FRAMEVAL_MAX_STEPS")
    (← IO.getEnv "FRAMEVAL_MAX_STACK")
  let input ← IO.getStdin
  let line ← IO.asTask (Watch.Main.readBytes input .empty)
  Watch.Main.serve (.start limits) input line
