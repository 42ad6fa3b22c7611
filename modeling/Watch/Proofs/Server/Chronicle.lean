import Watch.Proofs.Run.Replay
import Watch.Proofs.Server.Deeds

/-!
# The chronicle of a server

A chronicle is the state of a server together with the deeds that led to it. `Chronicle.Invariant`
says that the frames of the server are those that the deeds ask for, as long as nobody asks to give
up on an evaluation. A job that holds a frame has come some steps through its own program, starting
from what its predecessors left, and no other job holds that frame at the same time; this carries
the invariant through the moves of the other jobs.
-/

namespace Watch

/-- The reply with the outcome of an evaluation. -/
def Reply.ofOutcome : Except Fault Value → Reply
  | .ok value => .ofValue value
  | .error cause => .fault cause

theorem Status.isTerminal_of_outcome? {status : Status} {outcome : Except Fault Value}
    (ended : status.outcome? = some outcome) : status.isTerminal = true := by
  cases status with
  | ready => contradiction
  | running => contradiction
  | completed value => rfl
  | faulted fault => rfl

theorem Status.reply?_eq (status : Status) : status.reply? = status.outcome?.map .ofOutcome := by
  cases status <;> rfl

namespace Job

theorem holds_iff {job : Job} {cell : Nat} :
    job.holds cell = true ↔ (∃ run frame, job.stage = .holding run frame) ∧ job.cell = cell := by
  rcases job with ⟨request, own, program, cancelled, _ | ⟨run, frame⟩ | reply⟩ <;> simp [holds]

end Job

namespace Server

/-- No two jobs hold the same frame. -/
def Exclusive (jobs : SortedMap Nat Job) : Prop :=
  ∀ cell number other job otherJob, jobs.get? number = some job → jobs.get? other = some otherJob →
    job.holds cell = true → otherJob.holds cell = true → number = other

/-- Jobs that hold what they held before hold different frames. -/
theorem Exclusive.of_held {jobs after : SortedMap Nat Job} (exclusive : Exclusive jobs)
    (held : ∀ cell number job, after.get? number = some job → job.holds cell = true →
      ∃ before, jobs.get? number = some before ∧ before.holds cell = true) : Exclusive after := by
  intro cell number other job otherJob found otherFound holds otherHolds
  rcases held cell number job found holds with ⟨before, foundBefore, heldBefore⟩
  rcases held cell other otherJob otherFound otherHolds with ⟨otherBefore, otherFound, otherHeld⟩
  exact exclusive cell number other before otherBefore foundBefore otherFound heldBefore otherHeld

theorem of_get?_setStage {server : Server} {number other : Nat} {stage : Stage} {job : Job}
    (found : (server.setStage number stage).jobs.get? other = some job) :
    ∃ before, server.jobs.get? other = some before ∧
      (other = number ∧ job = { before with stage := stage } ∨ other ≠ number ∧ job = before) := by
  by_cases same : other = number
  · subst same
    rw [setStage, SortedMap.get?_modify_self] at found
    rcases Option.map_eq_some_iff.1 found with ⟨before, foundBefore, rfl⟩
    exact ⟨before, foundBefore, .inl ⟨rfl, rfl⟩⟩
  · rw [setStage, SortedMap.get?_modify_of_ne same] at found
    exact ⟨job, found, .inr ⟨same, rfl⟩⟩

theorem holds_of_isHeld_eq_false {server : Server} {cell number : Nat} {job : Job}
    (free : server.isHeld cell = false) (found : server.jobs.get? number = some job) :
    job.holds cell ≠ true :=
  List.any_eq_false.1 free job (SortedMap.mem_items_iff.2 ⟨number, found⟩)

/-- A job may take a frame that no job holds. -/
theorem Exclusive.acquired {server : Server} (exclusive : Exclusive server.jobs) {number : Nat}
    {job : Job} (found : server.jobs.get? number = some job)
    (free : server.isHeld job.cell = false) (stage : Stage) :
    Exclusive (server.setStage number stage).jobs := by
  intro cell first second firstJob secondJob firstFound secondFound firstHolds secondHolds
  rcases of_get?_setStage firstFound with ⟨before, beforeFound, ⟨rfl, rfl⟩ | ⟨-, rfl⟩⟩ <;>
    rcases of_get?_setStage secondFound with ⟨behind, behindFound, ⟨rfl, rfl⟩ | ⟨-, rfl⟩⟩
  · rfl
  · cases Option.some.inj (found.symm.trans beforeFound)
    have cellEq : job.cell = cell := (Job.holds_iff.1 firstHolds).2
    exact absurd (cellEq ▸ secondHolds) (holds_of_isHeld_eq_false free behindFound)
  · cases Option.some.inj (found.symm.trans behindFound)
    have cellEq : job.cell = cell := (Job.holds_iff.1 secondHolds).2
    exact absurd (cellEq ▸ firstHolds) (holds_of_isHeld_eq_false free beforeFound)
  · exact exclusive cell first second _ _ beforeFound behindFound firstHolds secondHolds

end Server

/-- A server and what was done to its frames until now, the latest deed first. -/
structure Chronicle where
  server : Server
  deeds : List Deed

namespace Chronicle

/-- Nothing has happened. -/
def start (limits : Limits) : Chronicle :=
  ⟨.start limits, []⟩

/-- The chronicle with one more event. -/
def record (chronicle : Chronicle) (event : Event) : Chronicle :=
  ⟨chronicle.server.afterEvent event,
    (chronicle.server.deed? event).toList ++ chronicle.deeds⟩

/-- The chronicle of some events, listed in the order in which they happen. -/
def ofEvents (limits : Limits) (events : List Event) : Chronicle :=
  events.foldl record (start limits)

/-- A reply is the outcome of the errand of a job, alone on the frame that its predecessors left. -/
def IsOutcome (limits : Limits) (deeds : List Deed) (job : Nat) (reply : Reply) : Prop :=
  ∃ errand outcome, errand? job deeds = some errand ∧
    (Run.evaluate limits errand.program Frame.target
      ⟨errand.load.frameAfter limits deeds, false⟩).1 = some outcome ∧
    reply = .ofOutcome outcome

/-- How the stage of a job fits to its errand. -/
def StageFits (limits : Limits) (deeds : List Deed) (number : Nat) (errand : Errand) : Stage → Prop
  | .waiting => True
  | .holding run frame =>
    ∃ count, Run.after limits errand.program Frame.target
      ⟨errand.load.frameAfter limits deeds, false⟩ count = (run, ⟨frame, false⟩)
  | .settled reply => .completed number reply ∈ deeds

/-- How a job fits to its errand: nobody has given up on it, and it does what was asked. -/
structure JobFits (limits : Limits) (deeds : List Deed) (number : Nat) (job : Job)
    (errand : Errand) : Prop where
  cancelled_eq : job.cancelled = false
  errand_eq : errand? number deeds = some errand
  cell_eq : job.cell = errand.load.cell
  program_eq : job.program = errand.program
  stage : StageFits limits deeds number errand job.stage

/-- Every reply is the outcome of the errand of its job. -/
def Replies (limits : Limits) (deeds : List Deed) : Prop :=
  ∀ later job reply earlier, deeds = later ++ .completed job reply :: earlier →
    IsOutcome limits earlier job reply

/-- What holds of a server that nobody asks to give up. -/
structure Invariant (limits : Limits) (chronicle : Chronicle) : Prop where
  limits_eq : chronicle.server.limits = limits
  /-- A session has the frame of its latest load. -/
  sessions_eq : ∀ session, chronicle.server.sessions.get? session =
    (latestLoad? session chronicle.deeds).map Load.cell
  /-- Every load has the frame that it has to have. -/
  cells_eq : ∀ load, .loaded load ∈ chronicle.deeds →
    chronicle.server.cells.get? load.cell = some (load.frameAfter limits chronicle.deeds)
  numbered : Numbered chronicle.server.next chronicle.deeds
  jobs : ∀ number job, chronicle.server.jobs.get? number = some job →
    ∃ errand, JobFits limits chronicle.deeds number job errand
  exclusive : Server.Exclusive chronicle.server.jobs
  replies : Replies limits chronicle.deeds

theorem invariant_start (limits : Limits) : (start limits).Invariant limits where
  limits_eq := rfl
  sessions_eq := fun _ => rfl
  cells_eq := by
    intro load member
    cases member
  numbered := .nil
  jobs := by
    intro number job found
    simp [start, Server.start] at found
  exclusive := by
    intro cell number other job otherJob found
    simp [start, Server.start] at found
  replies := by
    intro later job reply earlier deedsEq
    simp [start] at deedsEq

theorem Replies.cons {limits : Limits} {deeds : List Deed} {deed : Deed}
    (replies : Replies limits deeds)
    (isOutcome : ∀ job reply, deed = .completed job reply → IsOutcome limits deeds job reply) :
    Replies limits (deed :: deeds) := by
  intro later job reply earlier deedsEq
  rcases List.cons_eq_append_iff.1 deedsEq with ⟨-, here⟩ | ⟨before, rfl, restEq⟩
  · cases here
    exact isOutcome job reply rfl
  · exact replies before job reply earlier restEq

section Steps

variable {limits : Limits} {server : Server} {deeds : List Deed}

/-- A job goes on to fit to its errand if what it works on is left alone. -/
theorem JobFits.cons {number : Nat} {job : Job} {errand : Errand} {deed : Deed}
    (fits : JobFits limits deeds number job errand)
    (errandEq : errand? number (deed :: deeds) = errand? number deeds)
    (frameEq : ∀ run frame, job.stage = .holding run frame →
      errand.load.frameAfter limits (deed :: deeds) = errand.load.frameAfter limits deeds) :
    JobFits limits (deed :: deeds) number job errand := by
  refine ⟨fits.cancelled_eq, errandEq.trans fits.errand_eq, fits.cell_eq, fits.program_eq, ?_⟩
  have stage := fits.stage
  cases stageEq : job.stage with
  | waiting => trivial
  | holding run frame =>
      rw [stageEq] at stage
      simpa only [StageFits, frameEq run frame stageEq] using stage
  | settled reply =>
      rw [stageEq] at stage
      exact List.mem_cons_of_mem _ stage

theorem Invariant.loaded (invariant : Invariant limits ⟨server, deeds⟩) (session : String)
    (frame : Frame) :
    Invariant limits ⟨server.loadFrame session frame,
      .loaded ⟨server.next, session, frame⟩ :: deeds⟩ where
  limits_eq := invariant.limits_eq
  sessions_eq := by
    intro other
    by_cases same : session = other
    · subst same
      simp [Server.loadFrame, latestLoad?]
    · simpa [Server.loadFrame, latestLoad?, same, SortedMap.get?_insert_of_ne (Ne.symm same)]
        using invariant.sessions_eq other
  cells_eq := by
    intro load member
    rcases List.mem_cons.1 member with here | before
    · cases here
      have notLoaded := invariant.numbered.not_mem_next session frame
      simp [Server.loadFrame, Load.frameAfter, Load.completions, completions_of_not_mem notLoaded]
    · have different : load.cell ≠ server.next :=
        Nat.ne_of_lt (invariant.numbered.load_lt load before)
      simp only [Server.loadFrame, SortedMap.get?_insert_of_ne different]
      exact invariant.cells_eq load before
  numbered := invariant.numbered.loaded session frame
  jobs := by
    intro number job found
    rcases invariant.jobs number job found with ⟨errand, fits⟩
    exact ⟨errand, fits.cons rfl fun _ _ _ => rfl⟩
  exclusive := invariant.exclusive
  replies := invariant.replies.cons fun _ _ deedEq => by cases deedEq

theorem Invariant.requested (invariant : Invariant limits ⟨server, deeds⟩) (id : UInt64)
    {session : String} {cell : Nat} (program : Program)
    (known : server.sessions.get? session = some cell) :
    Invariant limits ⟨server.startJob id cell program,
      .requested server.next session program :: deeds⟩ where
  limits_eq := invariant.limits_eq
  sessions_eq := invariant.sessions_eq
  cells_eq := by
    intro load member
    rcases List.mem_cons.1 member with here | before
    · cases here
    · exact invariant.cells_eq load before
  numbered := invariant.numbered.requested session program
  jobs := by
    intro number job found
    by_cases same : number = server.next
    · subst same
      rcases Option.map_eq_some_iff.1 ((invariant.sessions_eq session).symm.trans known) with
        ⟨load, latest, rfl⟩
      simp only [Server.startJob, SortedMap.get?_insert_self, Option.some.injEq] at found
      subst found
      exact ⟨⟨load, program⟩, rfl, by simp [errand?, latest], rfl, rfl, trivial⟩
    · simp only [Server.startJob, SortedMap.get?_insert_of_ne same] at found
      rcases invariant.jobs number job found with ⟨errand, fits⟩
      exact ⟨errand, fits.cons (by simp [errand?, Ne.symm same]) fun _ _ _ => rfl⟩
  exclusive := by
    refine invariant.exclusive.of_held fun held number job found holds => ?_
    by_cases same : number = server.next
    · subst same
      simp only [Server.startJob, SortedMap.get?_insert_self, Option.some.injEq] at found
      subst found
      contradiction
    · simp only [Server.startJob, SortedMap.get?_insert_of_ne same] at found
      exact ⟨job, found, holds⟩
  replies := invariant.replies.cons fun _ _ deedEq => by cases deedEq

theorem Invariant.setStage (invariant : Invariant limits ⟨server, deeds⟩) {number : Nat} {job : Job}
    {errand : Errand} (found : server.jobs.get? number = some job)
    (fits : JobFits limits deeds number job errand) {stage : Stage}
    (stageFits : StageFits limits deeds number errand stage)
    (exclusive : Server.Exclusive (server.setStage number stage).jobs) :
    Invariant limits ⟨server.setStage number stage, deeds⟩ where
  limits_eq := invariant.limits_eq
  sessions_eq := invariant.sessions_eq
  cells_eq := invariant.cells_eq
  numbered := invariant.numbered
  jobs := by
    intro other otherJob otherFound
    rcases Server.of_get?_setStage otherFound with ⟨before, foundBefore, ⟨rfl, rfl⟩ | ⟨-, rfl⟩⟩
    · cases Option.some.inj (found.symm.trans foundBefore)
      exact ⟨errand, fits.cancelled_eq, fits.errand_eq, fits.cell_eq, fits.program_eq, stageFits⟩
    · exact invariant.jobs other _ foundBefore
  exclusive := exclusive
  replies := invariant.replies

theorem Invariant.acquired (invariant : Invariant limits ⟨server, deeds⟩) {number : Nat}
    {job : Job} {frame : Frame} (found : server.jobs.get? number = some job)
    (loaded : server.cells.get? job.cell = some frame) (free : server.isHeld job.cell = false) :
    Invariant limits ⟨server.setStage number (.holding (.start server.limits) frame), deeds⟩ := by
  rcases invariant.jobs number job found with ⟨errand, fits⟩
  refine invariant.setStage found fits ⟨0, ?_⟩ (invariant.exclusive.acquired found free _)
  have frameEq := invariant.cells_eq errand.load (mem_of_errand? fits.errand_eq)
  rw [← fits.cell_eq] at frameEq
  cases Option.some.inj (loaded.symm.trans frameEq)
  have limitsEq : server.limits = limits := invariant.limits_eq
  rw [limitsEq, Run.after]

/-- The steps of a job that holds its frame go on from those that it has made. -/
theorem Invariant.worked (invariant : Invariant limits ⟨server, deeds⟩) {number : Nat}
    {job : Job} {run after : Run} {frame : Frame} {state : Suspended}
    (found : server.jobs.get? number = some job) (holding : job.stage = .holding run frame)
    (steps : Nat) (stepped : run.stepMany server.limits job.program Frame.target steps
      ⟨frame, job.cancelled⟩ = (after, state)) :
    Invariant limits ⟨server.setStage number (.holding after state.frame), deeds⟩ := by
  rcases invariant.jobs number job found with ⟨errand, fits⟩
  have limitsEq : server.limits = limits := invariant.limits_eq
  have stage := fits.stage
  rw [holding] at stage
  rcases stage with ⟨count, afterEq⟩
  have steppedEq : Run.after limits errand.program Frame.target
      ⟨errand.load.frameAfter limits deeds, false⟩ (count + steps) = (after, state) := by
    rw [← Run.stepMany_after, afterEq, ← stepped, limitsEq, fits.program_eq, fits.cancelled_eq]
  have notCancelled : state.cancelled = false := by
    rw [← congrArg (·.2.cancelled) steppedEq]
    exact Run.cancelled_after ..
  refine invariant.setStage found fits ⟨count + steps, ?_⟩ ?_
  · rw [steppedEq, ← notCancelled]
  · refine invariant.exclusive.of_held fun cell other otherJob otherFound holds => ?_
    rcases Server.of_get?_setStage otherFound with ⟨before, foundBefore, ⟨rfl, rfl⟩ | ⟨-, rfl⟩⟩
    · cases Option.some.inj (found.symm.trans foundBefore)
      exact ⟨job, found, Job.holds_iff.2 ⟨⟨run, frame, holding⟩, (Job.holds_iff.1 holds).2⟩⟩
    · exact ⟨_, foundBefore, holds⟩

/-- A run that has ended has done all that its program does to the frame. -/
theorem evaluated_of_ended {program : Program} {base frame : Frame} {run : Run} {count : Nat}
    {reply : Reply} (afterEq : Run.after limits program Frame.target ⟨base, false⟩ count =
      (run, ⟨frame, false⟩)) (ended : run.status.reply? = some reply) :
    base.evaluated limits program = frame ∧ ∃ outcome,
      (Run.evaluate limits program Frame.target ⟨base, false⟩).1 = some outcome ∧
        reply = .ofOutcome outcome := by
  rw [Status.reply?_eq] at ended
  rcases Option.map_eq_some_iff.1 ended with ⟨outcome, outcomeEq, rfl⟩
  have terminal : (Run.after limits program Frame.target ⟨base, false⟩
      count).1.status.isTerminal = true := by
    rw [afterEq]
    exact Status.isTerminal_of_outcome? outcomeEq
  have evaluateEq := Run.evaluate_of_isTerminal terminal
  rw [afterEq] at evaluateEq
  refine ⟨?_, outcome, ?_, rfl⟩
  · rw [Frame.evaluated, evaluateEq]
  · rw [evaluateEq, outcomeEq]

/--
A job gives its frame back with what its program makes of it. The other jobs do not notice: none of
them holds that frame, so that those that hold one work on another load.
-/
theorem Invariant.completed (invariant : Invariant limits ⟨server, deeds⟩) {number : Nat}
    {job : Job} {run : Run} {frame : Frame} {reply : Reply}
    (found : server.jobs.get? number = some job) (holding : job.stage = .holding run frame)
    (ended : run.status.reply? = some reply) :
    Invariant limits
      ⟨{ server with cells := server.cells.insert job.cell frame }.setStage number (.settled reply),
        .completed number reply :: deeds⟩ := by
  rcases invariant.jobs number job found with ⟨errand, fits⟩
  have stage := fits.stage
  rw [holding] at stage
  rcases stage with ⟨count, afterEq⟩
  rcases evaluated_of_ended afterEq ended with ⟨frameEq, outcome, evaluateEq, replyEq⟩
  have loadMember := mem_of_errand? fits.errand_eq
  refine
    { limits_eq := invariant.limits_eq
      sessions_eq := invariant.sessions_eq
      cells_eq := ?_
      numbered := invariant.numbered.completed number reply
      jobs := ?_
      exclusive := ?_
      replies := ?_ }
  · intro load listed
    have member : .loaded load ∈ deeds := Numbered.mem_of_mem_cons listed (by simp)
    by_cases same : load.cell = job.cell
    · cases invariant.numbered.load_eq load errand.load member loadMember
        (same.trans fits.cell_eq)
      rw [frameAfter_completed_self fits.errand_eq, frameEq, ← fits.cell_eq]
      exact SortedMap.get?_insert_self _ _ _
    · have different : errand.load ≠ load := by
        rintro rfl
        exact same fits.cell_eq.symm
      rw [frameAfter_completed_of_ne fits.errand_eq different]
      exact (SortedMap.get?_insert_of_ne same _ _).trans
        (invariant.cells_eq load member)
  · intro other otherJob otherFound
    rcases Server.of_get?_setStage otherFound with ⟨before, foundBefore, ⟨rfl, rfl⟩ | ⟨different,
      rfl⟩⟩
    · cases Option.some.inj (found.symm.trans foundBefore)
      exact ⟨errand, fits.cancelled_eq, fits.errand_eq, fits.cell_eq, fits.program_eq,
        List.mem_cons_self⟩
    · -- A job that holds a frame at the same time is on another load, which the deed leaves alone.
      rcases invariant.jobs other _ foundBefore with ⟨otherErrand, otherFits⟩
      refine ⟨otherErrand, otherFits.cons rfl fun otherRun otherFrame otherHolding => ?_⟩
      refine frameAfter_completed_of_ne fits.errand_eq (fun sameLoad => different ?_) reply
      have sameCell : _ = job.cell := otherFits.cell_eq.trans (sameLoad ▸ fits.cell_eq.symm)
      exact invariant.exclusive job.cell other number _ job foundBefore found
        (Job.holds_iff.2 ⟨⟨otherRun, otherFrame, otherHolding⟩, sameCell⟩)
        (Job.holds_iff.2 ⟨⟨run, frame, holding⟩, rfl⟩)
  · refine invariant.exclusive.of_held fun cell other otherJob otherFound holds => ?_
    rcases Server.of_get?_setStage otherFound with ⟨before, foundBefore, ⟨rfl, rfl⟩ | ⟨-, rfl⟩⟩
    · contradiction
    · exact ⟨_, foundBefore, holds⟩
  · refine invariant.replies.cons fun doneJob doneReply deedEq => ?_
    cases deedEq
    exact ⟨errand, outcome, fits.errand_eq, evaluateEq, replyEq⟩

theorem Invariant.finished (invariant : Invariant limits ⟨server, deeds⟩) {number : Nat}
    (running : SortedMap UInt64 Nat) :
    Invariant limits
      ⟨{ server with running := running, jobs := server.jobs.erase number }, deeds⟩ := by
  have ofErased : ∀ {other : Nat} {job : Job}, (server.jobs.erase number).get? other = some job →
      server.jobs.get? other = some job := by
    intro other job found
    have different : other ≠ number := by
      rintro rfl
      simp at found
    rwa [SortedMap.get?_erase_of_ne different] at found
  exact { invariant with
    jobs := fun other job found => invariant.jobs other job (ofErased found)
    exclusive := invariant.exclusive.of_held fun _ _ job found holds =>
      ⟨job, ofErased found, holds⟩ }

end Steps

/-- Every event keeps the invariant. -/
theorem Invariant.record {limits : Limits} {chronicle : Chronicle}
    (invariant : chronicle.Invariant limits) {event : Event} (serving : event.isServing = true) :
    (chronicle.record event).Invariant limits := by
  have does := chronicle.server.does_afterEvent serving
  rw [Chronicle.record]
  generalize chronicle.server.deed? event = deed at does ⊢
  generalize chronicle.server.afterEvent event = after at does ⊢
  cases does with
  | nothing => exact invariant
  | loaded session frame => exact invariant.loaded session frame
  | requested id program known => exact invariant.requested id program known
  | acquired found loaded free => exact invariant.acquired found loaded free
  | worked found holding steps stepped => exact invariant.worked found holding steps stepped
  | completed found holding ended => exact invariant.completed found holding ended
  | finished found => exact invariant.finished _

theorem invariant_ofEvents (limits : Limits) {events : List Event}
    (serving : ∀ event ∈ events, event.isServing = true) :
    (ofEvents limits events).Invariant limits := by
  have kept : ∀ chronicle : Chronicle, chronicle.Invariant limits →
      (events.foldl Chronicle.record chronicle).Invariant limits := by
    induction events with
    | nil => exact fun _ invariant => invariant
    | cons event rest ih =>
        intro chronicle invariant
        refine ih (fun other member => serving other (List.mem_cons_of_mem _ member)) _ ?_
        exact invariant.record (serving event List.mem_cons_self)
  exact kept _ (invariant_start limits)

end Chronicle

end Watch
