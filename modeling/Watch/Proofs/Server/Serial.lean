import Watch.Proofs.Server.Chronicle

/-!
# Evaluations in order

Whatever the order in which requests come in and jobs move, the evaluations on a frame have the
effect that they have one after the other. That is what `Chronicle.serial` says of the frames, of
the replies, and of what a debugger is shown.
-/

namespace Watch

namespace Server

variable {server : Server}

theorem deed?_eq_loaded {event : Event} {load : Load}
    (deedEq : server.deed? event = some (.loaded load)) :
    ∃ id, event = .request id (.loadFrame load.session load.frame) := by
  cases event with
  | request id request =>
      cases request with
      | loadFrame session frame =>
          cases deedEq
          exact ⟨id, rfl⟩
      | evaluate session program => simp [deed?] at deedEq
      | cancel target => contradiction
      | frame session => contradiction
      | shutdown => contradiction
  | release number =>
      simp only [deed?] at deedEq
      split at deedEq
      · simp at deedEq
      · contradiction
  | acquire number => contradiction
  | work number steps => contradiction
  | finish number => contradiction

theorem deed?_eq_completed {event : Event} {job : Nat} {reply : Reply}
    (deedEq : server.deed? event = some (.completed job reply)) : event = .release job := by
  cases event with
  | request id request =>
      cases request with
      | loadFrame session frame => simp [deed?] at deedEq
      | evaluate session program => simp [deed?] at deedEq
      | cancel target => contradiction
      | frame session => contradiction
      | shutdown => contradiction
  | release number =>
      simp only [deed?] at deedEq
      split at deedEq
      · rcases Option.map_eq_some_iff.1 deedEq with ⟨reply, -, same⟩
        cases same
        rfl
      · contradiction
  | acquire number => contradiction
  | work number steps => contradiction
  | finish number => contradiction

theorem settled_of_finish {number : Nat} {reply : Reply}
    (sent : (server.finish number).2 = some reply) :
    ∃ job, server.jobs.get? number = some job ∧ job.stage = .settled reply := by
  rw [finish] at sent
  split at sent
  · next found =>
    cases sent
    exact ⟨_, found, rfl⟩
  · contradiction

end Server

namespace Chronicle

variable {limits : Limits} {chronicle : Chronicle}

theorem Invariant.frame?_eq (invariant : chronicle.Invariant limits) (session : String) :
    chronicle.server.frame? session = (latestLoad? session chronicle.deeds).map fun load =>
      load.frameAfter limits chronicle.deeds := by
  rw [Server.frame?, invariant.sessions_eq]
  cases latest : latestLoad? session chronicle.deeds with
  | none => rfl
  | some load => exact invariant.cells_eq load (mem_of_latestLoad? latest)

/-- Only a load for a session and a completion on its latest load change its frame. -/
theorem Invariant.of_frame?_ne (invariant : chronicle.Invariant limits) {event : Event}
    (serving : event.isServing = true) {session : String}
    (changed : (chronicle.server.afterEvent event).frame? session ≠
      chronicle.server.frame? session) :
    (∃ id frame, event = .request id (.loadFrame session frame)) ∨
      ∃ number errand, event = .release number ∧ errand? number chronicle.deeds = some errand ∧
        latestLoad? session chronicle.deeds = some errand.load := by
  -- The frames before and after are those that the deeds ask for, so that the new deed decides.
  have before := invariant.frame?_eq session
  have after := (invariant.record serving).frame?_eq session
  rw [before] at changed
  simp only [Chronicle.record] at after
  rw [after] at changed
  cases deedEq : chronicle.server.deed? event with
  | none => simp [deedEq] at changed
  | some deed =>
      simp only [deedEq, Option.toList_some, List.singleton_append] at changed
      cases deed with
      | requested number session program => exact absurd rfl changed
      | loaded load =>
          by_cases same : load.session = session
          · rcases Server.deed?_eq_loaded deedEq with ⟨id, rfl⟩
            exact .inl ⟨id, load.frame, by rw [same]⟩
          · simp only [latestLoad?, same, if_false] at changed
            exact absurd rfl changed
      | completed number reply =>
          simp only [latestLoad?] at changed
          cases latest : latestLoad? session chronicle.deeds with
          | none => simp [latest] at changed
          | some load =>
              simp only [latest, Option.map_some, ne_eq, Option.some.injEq] at changed
              cases found : errand? number chronicle.deeds with
              | none => simp [Load.frameAfter, Load.completions, found] at changed
              | some errand =>
                  by_cases same : errand.load = load
                  · have eventEq := Server.deed?_eq_completed deedEq
                    exact .inr ⟨number, errand, eventEq, found, by rw [same]⟩
                  · exact absurd (frameAfter_completed_of_ne found same reply) changed

/-- What a debugger is shown: the frame of the session, unless a job holds it or there is none. -/
theorem Invariant.showFrame_eq (invariant : chronicle.Invariant limits) (session : String) :
    chronicle.server.showFrame session =
      match latestLoad? session chronicle.deeds with
      | none => Server.unknownSession session
      | some load =>
        if chronicle.server.isHeld load.cell then .error s!"Session {session} is busy evaluating"
        else .frame (load.frameAfter limits chronicle.deeds) := by
  rw [Server.showFrame, invariant.sessions_eq]
  cases latest : latestLoad? session chronicle.deeds with
  | none => rfl
  | some load =>
      have cellEq := invariant.cells_eq load (mem_of_latestLoad? latest)
      simp only [Option.map_some, cellEq]

/--
Loads, evaluations and requests for frames may be interleaved with the moves of the jobs in any way.
The frame of a session is always that of its latest load, changed by the completed evaluations on
that load, one after the other in the order of their completion. A job that holds a frame holds it
alone and is on the way from that frame through its own program. Each reply that is sent is the
outcome of the program of its job, evaluated alone on the frame that its predecessors on the same
load left. A load finds none of the evaluations that were requested before it: they stay on their
loads. So the frame of a session changes only when it is loaded and when an evaluation on its latest
load is completed. A request for the frame shows that frame, unless the session was never loaded or
a job holds the frame.
-/
theorem serial (limits : Limits) (events : List Event)
    (serving : ∀ event ∈ events, event.isServing = true) :
    let chronicle := ofEvents limits events
    let server := chronicle.server
    let deeds := chronicle.deeds
    (∀ session, server.frame? session =
        (latestLoad? session deeds).map fun load => load.frameAfter limits deeds) ∧
      (∀ number job run frame, server.jobs.get? number = some job →
        job.stage = .holding run frame →
          (∃ errand count, errand? number deeds = some errand ∧
            Run.after limits errand.program Frame.target
              ⟨errand.load.frameAfter limits deeds, false⟩ count = (run, ⟨frame, false⟩)) ∧
          ∀ other otherJob, other ≠ number → server.jobs.get? other = some otherJob →
            otherJob.holds job.cell = false) ∧
      (∀ number reply, (server.finish number).2 = some reply →
        ∃ later earlier, deeds = later ++ .completed number reply :: earlier ∧
          ∃ errand outcome, errand? number earlier = some errand ∧
            (Run.evaluate limits errand.program Frame.target
              ⟨errand.load.frameAfter limits earlier, false⟩).1 = some outcome ∧
            reply = .ofOutcome outcome) ∧
      (∀ later load earlier number errand, deeds = later ++ .loaded load :: earlier →
        errand? number earlier = some errand →
          errand? number deeds = some errand ∧ errand.load ≠ load) ∧
      (∀ event session, event.isServing = true →
        (server.afterEvent event).frame? session ≠ server.frame? session →
          (∃ id frame, event = .request id (.loadFrame session frame)) ∨
            ∃ number errand, event = .release number ∧ errand? number deeds = some errand ∧
              latestLoad? session deeds = some errand.load) ∧
      ∀ id session, (server.handle id (.frame session)).2 = .reply
        (match latestLoad? session deeds with
        | none => .error s!"Unknown session: {session}"
        | some load =>
          if server.isHeld load.cell then .error s!"Session {session} is busy evaluating"
          else .frame (load.frameAfter limits deeds)) := by
  intro chronicle server deeds
  have invariant : chronicle.Invariant limits := invariant_ofEvents limits serving
  refine ⟨invariant.frame?_eq, ?_, ?_, ?_, ?_, ?_⟩
  · intro number job run frame found holding
    rcases invariant.jobs number job found with ⟨errand, fits⟩
    have stage := fits.stage
    rw [holding] at stage
    rcases stage with ⟨count, afterEq⟩
    refine ⟨⟨errand, count, fits.errand_eq, afterEq⟩, ?_⟩
    intro other otherJob different otherFound
    refine Bool.eq_false_iff.2 fun otherHolds => different ?_
    exact invariant.exclusive job.cell other number otherJob job otherFound found otherHolds
      (Job.holds_iff.2 ⟨⟨run, frame, holding⟩, rfl⟩)
  · intro number reply sent
    rcases Server.settled_of_finish sent with ⟨job, found, settled⟩
    rcases invariant.jobs number job found with ⟨errand, fits⟩
    have stage := fits.stage
    rw [settled] at stage
    rcases List.append_of_mem stage with ⟨later, earlier, deedsEq⟩
    exact ⟨later, earlier, deedsEq, invariant.replies later number reply earlier deedsEq⟩
  · intro later load earlier number errand deedsEq found
    refine ⟨?_, ?_⟩
    · have split : deeds = (later ++ [.loaded load]) ++ earlier := by
        rw [List.append_assoc]
        exact deedsEq
      exact invariant.numbered.errand_stays _ earlier number errand split found
    · rintro rfl
      exact invariant.numbered.load_new later errand.load earlier deedsEq (mem_of_errand? found)
  · intro event session eventServing changed
    exact invariant.of_frame?_ne eventServing changed
  · intro id session
    exact congrArg Dispatch.reply (invariant.showFrame_eq session)

/--
The same assignment to a local variable is evaluated on two sessions. One of them is loaded again
while its evaluation is under way.
-/
def reloading : List Event :=
  let loaded := Frame.empty.withLocal "x" (.int 1)
  let program : Program :=
    #[⟨.pushLocal "x", 0⟩, ⟨.pushLiteral (.int 7), 1⟩, ⟨.assign .int, 2⟩]
  [.request 1 (.loadFrame "s" loaded), .request 2 (.evaluate "s" program), .acquire 1, .work 1 2,
    .request 3 (.loadFrame "t" loaded), .request 4 (.evaluate "t" program), .acquire 3, .work 3 4,
    .request 5 (.loadFrame "s" .empty), .work 1 2, .release 1, .release 3]

/--
Both evaluations are replied to as if they were alone. The session that was loaded again has the new
frame as it was loaded, and the other one, which shows its frame, has the assigned number in it.
-/
theorem serial_reloading :
    let chronicle := ofEvents {} reloading
    let assigned := Frame.empty.withLocal "x" (.int 7)
    (∀ event ∈ reloading, event.isServing = true) ∧
      chronicle.server.frame? "s" = some .empty ∧
      chronicle.server.frame? "t" = some assigned ∧
      (chronicle.server.handle 6 (.frame "t")).2 = .reply (.frame assigned) ∧
      (chronicle.server.finish 1).2 = some (.ofValue (.int 7)) ∧
      ∃ later earlier, chronicle.deeds = later ++ .completed 1 (.ofValue (.int 7)) :: earlier ∧
        ∃ errand outcome, errand? 1 earlier = some errand ∧
          (Run.evaluate {} errand.program Frame.target
            ⟨errand.load.frameAfter {} earlier, false⟩).1 = some outcome ∧
          .ofValue (.int 7) = Reply.ofOutcome outcome := by
  intro chronicle assigned
  have serving : ∀ event ∈ reloading, event.isServing = true := by decide
  have sent : (chronicle.server.finish 1).2 = some (.ofValue (.int 7)) := by decide +kernel
  rcases serial {} reloading serving with ⟨frames, -, replies, -, -, shown⟩
  refine ⟨serving, ?_, ?_, ?_, sent, replies 1 _ sent⟩
  · rw [frames "s"]
    decide +kernel
  · rw [frames "t"]
    decide +kernel
  · rw [shown 6 "t"]
    decide +kernel

end Chronicle

end Watch
