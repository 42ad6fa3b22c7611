import Watch.Message
import Watch.Run
import Watch.Frame.Invocation

/-!
# The evaluation server

A server keeps a frame for every session and runs evaluations side by side. An evaluation that a
request starts is a `Job`: it waits until no other job holds its frame, works on the frame, gives
it back, and is finished when its reply is sent. A session that is loaded again gets a new frame;
jobs that were started before go on with the old one.

The server finds the job to cancel by the id of the request that started it. It keeps one job for
each id, the one that was started last, and forgets the id as soon as any job with it is finished.

Every function here is one indivisible step, so that the steps of several jobs and the handling of
requests may follow one another in any order.
-/

namespace Watch

/-- How far a job has come. -/
inductive Stage where
  /-- It waits for its frame. -/
  | waiting
  /-- It holds its frame and works on it. -/
  | holding (run : Run) (frame : Frame)
  /-- It has given its frame back. -/
  | settled (reply : Reply)
deriving DecidableEq

/-- An evaluation that a request started. -/
structure Job where
  /-- The id of the request. -/
  request : UInt64
  /-- The number of the frame. -/
  cell : Nat
  program : Program
  /-- Whether the user has given up. -/
  cancelled : Bool
  /-- How far the job has come. -/
  stage : Stage
deriving DecidableEq

namespace Job

/-- Whether a job holds the frame with a number. -/
def holds (job : Job) (cell : Nat) : Bool :=
  match job.stage with
  | .holding .. => job.cell == cell
  | .waiting | .settled _ => false

end Job

namespace Status

/-- The reply to an evaluation that has ended. -/
def reply? : Status → Option Reply
  | .completed value => some (.ofValue value)
  | .faulted fault => some (.fault fault)
  | .ready | .running => none

end Status

/-- The state of a server. -/
structure Server where
  /-- The limits of every evaluation. -/
  limits : Limits
  /-- The frames that were loaded, by number. -/
  cells : SortedMap Nat Frame
  /-- The number of the frame of each session. -/
  sessions : SortedMap String Nat
  /-- The number of the job that each id stands for. -/
  running : SortedMap UInt64 Nat
  /-- The jobs that are not finished, by number. -/
  jobs : SortedMap Nat Job
  /-- A number that was not given to a frame or a job yet. -/
  next : Nat
deriving DecidableEq

/-- How a request is answered. -/
inductive Dispatch where
  /-- With a reply, at once. -/
  | reply (reply : Reply)
  /-- By a job, once it is finished. -/
  | started (job : Nat)
  /-- With a reply, after which the server stops. -/
  | stopped (reply : Reply)
deriving DecidableEq

namespace Server

/-- A server without sessions. -/
def start (limits : Limits) : Server :=
  ⟨limits, .empty, .empty, .empty, .empty, 0⟩

/-- Installs a frame as the one of a session. -/
def loadFrame (server : Server) (session : String) (frame : Frame) : Server :=
  { server with
    cells := server.cells.insert server.next frame
    sessions := server.sessions.insert session server.next
    next := server.next + 1 }

/-- Starts a job under an id, which stands for it from then on. -/
def startJob (server : Server) (id : UInt64) (cell : Nat) (program : Program) : Server :=
  { server with
    running := server.running.insert id server.next
    jobs := server.jobs.insert server.next ⟨id, cell, program, false, .waiting⟩
    next := server.next + 1 }

/-- Tells a job that the user has given up on it. -/
def cancelJob (server : Server) (number : Nat) : Server :=
  { server with jobs := server.jobs.modify number fun job => { job with cancelled := true } }

/-- Tells every job that an id stands for that the user has given up on it. -/
def cancelAll (server : Server) : Server :=
  server.running.items.foldl cancelJob server

/-- The error about a session that was never loaded. -/
def unknownSession (session : String) : Reply :=
  .error s!"Unknown session: {session}"

/-- Whether a job holds the frame with a number. -/
def isHeld (server : Server) (cell : Nat) : Bool :=
  server.jobs.items.any fun job => job.holds cell

/-- The reply to a request for the frame of a session, which never waits for a job. -/
def showFrame (server : Server) (session : String) : Reply :=
  match server.sessions.get? session with
  | none => unknownSession session
  | some cell =>
    if server.isHeld cell then .error s!"Session {session} is busy evaluating"
    else match server.cells.get? cell with
      | some frame => .frame frame
      | none => unknownSession session

/-- Handles a request with an id. -/
def handle (server : Server) (id : UInt64) : Request → Server × Dispatch
  | .loadFrame session frame => (server.loadFrame session frame, .reply (.success true))
  | .evaluate session program =>
    match server.sessions.get? session with
    | none => (server, .reply (unknownSession session))
    | some cell => (server.startJob id cell program, .started server.next)
  | .cancel target =>
    match server.running.get? target with
    | some number => (server.cancelJob number, .reply (.success true))
    | none =>
      (server, .reply (.error s!"No running evaluation with id {target.toNat}"))
  | .frame session => (server, .reply (server.showFrame session))
  | .shutdown => (server.cancelAll, .stopped (.success true))

/-- Changes the stage of a job. -/
def setStage (server : Server) (number : Nat) (stage : Stage) : Server :=
  { server with jobs := server.jobs.modify number fun job => { job with stage := stage } }

/-- Lets a job that waits take its frame, if no other job holds it. -/
def acquire (server : Server) (number : Nat) : Server :=
  match server.jobs.get? number with
  | some ⟨_, cell, _, _, .waiting⟩ =>
    match server.cells.get? cell with
    | some frame =>
      if server.isHeld cell then server
      else server.setStage number (.holding (.start server.limits) frame)
    | none => server
  | _ => server

/-- Lets a job that holds its frame make a number of steps, or fewer if its run ends. -/
def work (server : Server) (number steps : Nat) : Server :=
  match server.jobs.get? number with
  | some ⟨_, _, program, cancelled, .holding run frame⟩ =>
    let (run, state) := run.stepMany server.limits program Frame.target steps ⟨frame, cancelled⟩
    server.setStage number (.holding run state.frame)
  | _ => server

/-- Lets a job whose run has ended give its frame back. -/
def release (server : Server) (number : Nat) : Server :=
  match server.jobs.get? number with
  | some ⟨_, cell, _, _, .holding run frame⟩ =>
    match run.status.reply? with
    | some reply =>
      { server with cells := server.cells.insert cell frame }.setStage number (.settled reply)
    | none => server
  | _ => server

/-- Finishes a job that has given its frame back: its id stands for no job any more. -/
def finish (server : Server) (number : Nat) : Server × Option Reply :=
  match server.jobs.get? number with
  | some ⟨request, _, _, _, .settled reply⟩ =>
    ({ server with
        running := server.running.erase request
        jobs := server.jobs.erase number }, some reply)
  | _ => (server, none)

/-- Lets a job do whatever it can in a number of steps; it is finished if a reply comes back. -/
def progress (server : Server) (number steps : Nat) : Server × Option Reply :=
  (((server.acquire number).work number steps).release number).finish number

/-- Lets a job that can take its frame work until it is finished. -/
def complete (server : Server) (number : Nat) : Server × Option Reply :=
  server.progress number (server.limits.maxSteps.toNat + 1)

end Server

end Watch
