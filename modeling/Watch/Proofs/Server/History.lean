import Watch.Proofs.SortedMap
import Watch.Server

/-!
# The history of a server

The requests that a server handles and the moves of its jobs follow one another in any order. A
`History` is the state that they lead to, together with what has happened to the ids: a mark for
every job that was started under an id, and for every job with the id that was finished.

The marks say which job an id stands for. `History.running_eq` is the invariant: an id stands for a
job as long as the last that happened to the id is the start of that job. Another start under the id
puts the later job in its place, and the end of any job with the id leaves it without one.
-/

namespace Watch

/-- What can happen at a server: a request comes in, or a job makes one of its moves. -/
inductive Event where
  | request (id : UInt64) (request : Request)
  | acquire (number : Nat)
  | work (number steps : Nat)
  | release (number : Nat)
  | finish (number : Nat)
deriving DecidableEq

/-- What can happen to an id. -/
inductive Mark where
  /-- A job with a number was started under the id. -/
  | started (number : Nat)
  /-- A job with the id was finished. -/
  | finished
deriving DecidableEq

namespace Server

/-- The server after an event. -/
def afterEvent (server : Server) : Event → Server
  | .request id request => (server.handle id request).1
  | .acquire number => server.acquire number
  | .work number steps => server.work number steps
  | .release number => server.release number
  | .finish number => (server.finish number).1

/-- The id that an event marks, and how. -/
def mark? (server : Server) : Event → Option (UInt64 × Mark)
  | .request id (.evaluate session _) =>
    (server.sessions.get? session).map fun _ => (id, .started server.next)
  | .finish number =>
    match server.jobs.get? number with
    | some ⟨request, _, _, _, .settled _⟩ => some (request, .finished)
    | _ => none
  | _ => none

/-- The id of the request that started a job that is not finished. -/
def requestOf? (server : Server) (number : Nat) : Option UInt64 :=
  (server.jobs.get? number).map Job.request

/-- The ids stand for the same jobs, and the jobs have the same ids. -/
structure SameIds (server after : Server) : Prop where
  running_eq : after.running = server.running
  requestOf?_eq : ∀ number, after.requestOf? number = server.requestOf? number
  next_le : server.next ≤ after.next

/-- What an event that marks an id, or none, does to the ids. -/
inductive Marks (server : Server) : Option (UInt64 × Mark) → Server → Prop where
  /-- The ids are left alone. -/
  | nothing {after : Server} (same : SameIds server after) : Marks server none after
  /-- A job is started. -/
  | started (id : UInt64) (cell : Nat) (program : Program) :
      Marks server (some (id, .started server.next)) (server.startJob id cell program)
  /-- A job is finished. -/
  | finished {number : Nat} {job : Job} (found : server.jobs.get? number = some job) :
      Marks server (some (job.request, .finished))
        { server with
          running := server.running.erase job.request
          jobs := server.jobs.erase number }

theorem SameIds.refl (server : Server) : SameIds server server :=
  ⟨rfl, fun _ => rfl, Nat.le_refl _⟩

theorem SameIds.trans {first second third : Server} (before : SameIds first second)
    (later : SameIds second third) : SameIds first third :=
  ⟨later.running_eq.trans before.running_eq,
    fun number => (later.requestOf?_eq number).trans (before.requestOf?_eq number),
    Nat.le_trans before.next_le later.next_le⟩

/-- Changing something about a job other than its id leaves the ids alone. -/
theorem sameIds_modify {server : Server} {change : Job → Job}
    (kept : ∀ job, (change job).request = job.request) (number : Nat) :
    SameIds server { server with jobs := server.jobs.modify number change } := by
  refine ⟨rfl, fun other => ?_, Nat.le_refl _⟩
  by_cases same : other = number
  · subst same
    simp [requestOf?, Function.comp_def, kept]
  · simp [requestOf?, SortedMap.get?_modify_of_ne same]

theorem requestOf?_startJob_self (server : Server) (id : UInt64) (cell : Nat)
    (program : Program) :
    (server.startJob id cell program).requestOf? server.next = some id := by
  simp [requestOf?, startJob]

theorem requestOf?_startJob_of_ne {server : Server} {number : Nat}
    (different : number ≠ server.next) (id : UInt64) (cell : Nat) (program : Program) :
    (server.startJob id cell program).requestOf? number = server.requestOf? number := by
  simp [requestOf?, startJob, SortedMap.get?_insert_of_ne different]

theorem sameIds_cancelJob (server : Server) (number : Nat) :
    SameIds server (server.cancelJob number) :=
  sameIds_modify (by intro job; rfl) number

theorem sameIds_setStage (server : Server) (number : Nat) (stage : Stage) :
    SameIds server (server.setStage number stage) :=
  sameIds_modify (by intro job; rfl) number

theorem sameIds_foldl_cancelJob (server : Server) (numbers : List Nat) :
    SameIds server (numbers.foldl cancelJob server) := by
  induction numbers generalizing server with
  | nil => exact .refl server
  | cons number rest ih => exact (sameIds_cancelJob server number).trans (ih _)

theorem sameIds_acquire (server : Server) (number : Nat) :
    SameIds server (server.acquire number) := by
  rw [acquire]
  repeat' split
  all_goals first
    | exact .refl server
    | exact sameIds_setStage server number _

theorem sameIds_work (server : Server) (number steps : Nat) :
    SameIds server (server.work number steps) := by
  rw [work]
  split
  · exact sameIds_setStage server number _
  · exact .refl server

theorem sameIds_release (server : Server) (number : Nat) :
    SameIds server (server.release number) := by
  rw [release]
  split
  · next cell _ _ run frame found =>
    split
    · next reply ended =>
      have stored : SameIds server { server with cells := server.cells.insert cell frame } :=
        ⟨rfl, fun _ => rfl, Nat.le_refl _⟩
      exact stored.trans (sameIds_setStage _ number _)
    · exact .refl server
  · exact .refl server

theorem marks_handle (server : Server) (id : UInt64) (request : Request) :
    Marks server (server.mark? (.request id request)) (server.handle id request).1 := by
  cases request with
  | loadFrame session frame => exact .nothing ⟨rfl, fun _ => rfl, Nat.le_succ _⟩
  | evaluate session program =>
      simp only [handle, mark?]
      cases server.sessions.get? session with
      | none => exact .nothing (.refl server)
      | some cell => exact .started id cell program
  | cancel target =>
      simp only [handle, mark?]
      cases server.running.get? target with
      | none => exact .nothing (.refl server)
      | some number => exact .nothing (sameIds_cancelJob server number)
  | frame session => exact .nothing (.refl server)
  | shutdown => exact .nothing (sameIds_foldl_cancelJob server _)

theorem marks_finish (server : Server) (number : Nat) :
    Marks server (server.mark? (.finish number)) (server.finish number).1 := by
  rcases found : server.jobs.get? number with
    _ | ⟨request, cell, program, cancelled, _ | _ | reply⟩
  · simpa [mark?, finish, found] using .nothing (.refl server)
  · simpa [mark?, finish, found] using .nothing (.refl server)
  · simpa [mark?, finish, found] using .nothing (.refl server)
  · simpa [mark?, finish, found] using Marks.finished found

theorem marks_afterEvent (server : Server) (event : Event) :
    Marks server (server.mark? event) (server.afterEvent event) := by
  cases event with
  | request id request => exact marks_handle server id request
  | acquire number => exact .nothing (sameIds_acquire server number)
  | work number steps => exact .nothing (sameIds_work server number steps)
  | release number => exact .nothing (sameIds_release server number)
  | finish number => exact marks_finish server number

end Server

/-- A server and what has happened to the ids until now, the latest first. -/
structure History where
  server : Server
  marks : List (UInt64 × Mark)

namespace History

/-- Nothing has happened. -/
def start (limits : Limits) : History :=
  ⟨.start limits, []⟩

/-- The history with one more event. -/
def record (history : History) (event : Event) : History :=
  ⟨history.server.afterEvent event, (history.server.mark? event).toList ++ history.marks⟩

/-- The history of some events, listed in the order in which they happen. -/
def ofEvents (limits : Limits) (events : List Event) : History :=
  events.foldl record (start limits)

/-- The last that happened to an id. -/
def lastMark? (history : History) (id : UInt64) : Option Mark :=
  history.marks.lookup id

/-- The job that an id stands for after the last that happened to it. -/
def jobOf? : Option Mark → Option Nat
  | some (.started number) => some number
  | some .finished | none => none

/-- What holds of every history: which job an id stands for, and which numbers are free. -/
structure Invariant (history : History) : Prop where
  /-- An id stands for a job as long as the last that happened to it is the start of that job. -/
  running_eq : ∀ id, history.server.running.get? id = jobOf? (history.lastMark? id)
  /-- The job that an id stands for is not finished, and has the id. -/
  requested : ∀ id number, history.server.running.get? id = some number →
    history.server.requestOf? number = some id
  /-- The numbers from the next one on are free. -/
  fresh : ∀ number, history.server.next ≤ number → history.server.requestOf? number = none

theorem invariant_start (limits : Limits) : (start limits).Invariant where
  running_eq := fun _ => rfl
  requested := by
    intro id number found
    simp [start, Server.start] at found
  fresh := fun _ _ => rfl

theorem lastMark?_cons_self (server : Server) (id : UInt64) (mark : Mark)
    (marks : List (UInt64 × Mark)) : lastMark? ⟨server, (id, mark) :: marks⟩ id = some mark := by
  simp [lastMark?]

theorem lastMark?_cons_of_ne {id other : UInt64} (different : other ≠ id) (server : Server)
    (mark : Mark) (history : History) :
    lastMark? ⟨server, (id, mark) :: history.marks⟩ other = history.lastMark? other := by
  have notSame : (other == id) = false := beq_eq_false_iff_ne.2 different
  simp [lastMark?, List.lookup_cons, notSame]

theorem Invariant.nothing {history : History} {after : Server} (invariant : history.Invariant)
    (same : history.server.SameIds after) : Invariant ⟨after, history.marks⟩ where
  running_eq := by
    intro id
    rw [same.running_eq, invariant.running_eq]
    rfl
  requested := by
    intro id number found
    rw [same.running_eq] at found
    rw [same.requestOf?_eq, invariant.requested id number found]
  fresh := by
    intro number le
    rw [same.requestOf?_eq, invariant.fresh number (Nat.le_trans same.next_le le)]

theorem Invariant.started {history : History} (invariant : history.Invariant) (id : UInt64)
    (cell : Nat) (program : Program) :
    Invariant ⟨history.server.startJob id cell program,
      (id, .started history.server.next) :: history.marks⟩ where
  running_eq := by
    intro other
    by_cases same : other = id
    · subst same
      simp [Server.startJob, lastMark?_cons_self, jobOf?]
    · simp [Server.startJob, SortedMap.get?_insert_of_ne same, lastMark?_cons_of_ne same,
        invariant.running_eq]
  requested := by
    intro other number found
    by_cases same : other = id
    · subst same
      have numberEq : history.server.next = number := by simpa [Server.startJob] using found
      rw [← numberEq, Server.requestOf?_startJob_self]
    · have before : history.server.running.get? other = some number := by
        simpa [Server.startJob, SortedMap.get?_insert_of_ne same] using found
      have requested := invariant.requested other number before
      have taken : number ≠ history.server.next := by
        rintro rfl
        simp [invariant.fresh] at requested
      rw [Server.requestOf?_startJob_of_ne taken, requested]
  fresh := by
    intro number le
    have beyond : history.server.next < number := le
    rw [Server.requestOf?_startJob_of_ne (Nat.ne_of_gt beyond),
      invariant.fresh number (Nat.le_of_lt beyond)]

theorem Invariant.finished {history : History} (invariant : history.Invariant) {number : Nat}
    {job : Job} (found : history.server.jobs.get? number = some job) :
    Invariant ⟨{ history.server with
        running := history.server.running.erase job.request
        jobs := history.server.jobs.erase number },
      (job.request, .finished) :: history.marks⟩ where
  running_eq := by
    intro other
    by_cases same : other = job.request
    · subst same
      simp [lastMark?_cons_self, jobOf?]
    · simp [SortedMap.get?_erase_of_ne same, lastMark?_cons_of_ne same, invariant.running_eq]
  requested := by
    intro other otherNumber running
    have different : other ≠ job.request := by
      rintro rfl
      simp at running
    simp only [SortedMap.get?_erase_of_ne different] at running
    have requested := invariant.requested other otherNumber running
    have otherJob : otherNumber ≠ number := by
      rintro rfl
      simp only [Server.requestOf?, found, Option.map_some, Option.some.injEq] at requested
      exact different requested.symm
    simpa [Server.requestOf?, SortedMap.get?_erase_of_ne otherJob] using requested
  fresh := by
    intro other le
    have free := invariant.fresh other le
    by_cases same : other = number
    · simp [Server.requestOf?, same]
    · simpa [Server.requestOf?, SortedMap.get?_erase_of_ne same] using free

/-- Every event keeps the invariant. -/
theorem Invariant.record {history : History} (invariant : history.Invariant) (event : Event) :
    (history.record event).Invariant := by
  have marks := history.server.marks_afterEvent event
  rw [History.record]
  generalize history.server.mark? event = mark, history.server.afterEvent event = after at marks ⊢
  cases marks with
  | nothing same => exact invariant.nothing same
  | started id cell program => exact invariant.started id cell program
  | finished found => exact invariant.finished found

theorem invariant_ofEvents (limits : Limits) (events : List Event) :
    (ofEvents limits events).Invariant := by
  have kept : ∀ history : History, history.Invariant →
      (events.foldl History.record history).Invariant := by
    induction events with
    | nil => exact fun _ invariant => invariant
    | cons event rest ih => exact fun _ invariant => ih _ (invariant.record event)
  exact kept _ (invariant_start limits)

end History

end Watch
