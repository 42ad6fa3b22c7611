import Watch.Proofs.Server.History

/-!
# Deeds

What the requests and the jobs of a server do to its frames: a frame is loaded, an evaluation is
requested, an evaluation is completed. The deeds alone, listed with the latest first, say what the
frame of a load has to be: the loaded frame, changed by the programs that were completed on it, one
after the other (`Load.frameAfter`). An evaluation is on the latest load of its session at the time
of the request (`errand?`), whatever is loaded afterwards. `Server.Does` lists what an event can do
to a server, each with the deed that it is.
-/

namespace Watch

/-- A frame that was loaded for a session, with the number that it got. -/
structure Load where
  cell : Nat
  session : String
  frame : Frame
deriving DecidableEq

/-- An evaluation: the load it is on and its program. -/
structure Errand where
  load : Load
  program : Program

/-- What is done to the frames of a server. -/
inductive Deed where
  /-- A frame was loaded. -/
  | loaded (load : Load)
  /-- An evaluation was requested on a session, and a job was started for it. -/
  | requested (job : Nat) (session : String) (program : Program)
  /-- The evaluation of a job was completed with a reply. -/
  | completed (job : Nat) (reply : Reply)

/-- The latest load of a session. -/
def latestLoad? (session : String) : List Deed → Option Load
  | [] => none
  | .loaded load :: earlier =>
    if load.session = session then some load else latestLoad? session earlier
  | .requested .. :: earlier | .completed .. :: earlier => latestLoad? session earlier

/-- The evaluation of a job: it is on the load that is the latest of its session at the request. -/
def errand? (job : Nat) : List Deed → Option Errand
  | [] => none
  | .requested number session program :: earlier =>
    if number = job then (latestLoad? session earlier).map fun load => ⟨load, program⟩
    else errand? job earlier
  | .loaded _ :: earlier | .completed .. :: earlier => errand? job earlier

namespace Load

/-- The programs that were completed on a load, in the order of their completion. -/
def completions (load : Load) : List Deed → List Program
  | [] => []
  | .completed job _ :: earlier =>
    match errand? job earlier with
    | some errand =>
      if errand.load = load then load.completions earlier ++ [errand.program]
      else load.completions earlier
    | none => load.completions earlier
  | .loaded _ :: earlier | .requested .. :: earlier => load.completions earlier

end Load

/-- The frame that a program leaves when it is evaluated alone. -/
def Frame.evaluated (limits : Limits) (frame : Frame) (program : Program) : Frame :=
  (Run.evaluate limits program Frame.target ⟨frame, false⟩).2.frame

/-- The frame of a load: what was loaded, changed by what was completed on it. -/
def Load.frameAfter (limits : Limits) (load : Load) (deeds : List Deed) : Frame :=
  (load.completions deeds).foldl (Frame.evaluated limits) load.frame

section Deeds

variable {limits : Limits} {deeds : List Deed} {session : String} {job : Nat} {load : Load}
  {errand : Errand}

theorem mem_of_latestLoad? (found : latestLoad? session deeds = some load) :
    .loaded load ∈ deeds := by
  induction deeds with
  | nil => contradiction
  | cons deed earlier ih =>
      cases deed with
      | loaded other =>
          rw [latestLoad?] at found
          split at found
          · cases found
            exact List.mem_cons_self
          · exact List.mem_cons_of_mem _ (ih found)
      | requested number session program => exact List.mem_cons_of_mem _ (ih found)
      | completed number reply => exact List.mem_cons_of_mem _ (ih found)

theorem mem_of_errand? (found : errand? job deeds = some errand) : .loaded errand.load ∈ deeds := by
  induction deeds with
  | nil => contradiction
  | cons deed earlier ih =>
      cases deed with
      | loaded other => exact List.mem_cons_of_mem _ (ih found)
      | completed number reply => exact List.mem_cons_of_mem _ (ih found)
      | requested number session program =>
          rw [errand?] at found
          split at found
          · rcases Option.map_eq_some_iff.1 found with ⟨load, latest, rfl⟩
            exact List.mem_cons_of_mem _ (mem_of_latestLoad? latest)
          · exact List.mem_cons_of_mem _ (ih found)

/-- Nothing is completed on what was not loaded. -/
theorem completions_of_not_mem (notLoaded : .loaded load ∉ deeds) :
    load.completions deeds = [] := by
  induction deeds with
  | nil => rfl
  | cons deed earlier ih =>
      have before := ih fun member => notLoaded (List.mem_cons_of_mem _ member)
      cases deed with
      | loaded other => exact before
      | requested number session program => exact before
      | completed number reply =>
          rw [Load.completions]
          split
          · next errand found =>
            split
            · next same =>
              exact absurd (List.mem_cons_of_mem _ (same ▸ mem_of_errand? found)) notLoaded
            · exact before
          · exact before

theorem frameAfter_completed_self (found : errand? job deeds = some errand) (reply : Reply) :
    errand.load.frameAfter limits (.completed job reply :: deeds) =
      (errand.load.frameAfter limits deeds).evaluated limits errand.program := by
  simp [Load.frameAfter, Load.completions, found]

theorem frameAfter_completed_of_ne (found : errand? job deeds = some errand)
    (different : errand.load ≠ load) (reply : Reply) :
    load.frameAfter limits (.completed job reply :: deeds) = load.frameAfter limits deeds := by
  simp [Load.frameAfter, Load.completions, found, different]

end Deeds

/--
Loads and jobs have numbers below the next one, and each a number of its own, so that later deeds
leave the errand of a job alone.
-/
structure Numbered (next : Nat) (deeds : List Deed) : Prop where
  load_lt : ∀ load, .loaded load ∈ deeds → load.cell < next
  load_eq : ∀ load other, .loaded load ∈ deeds → .loaded other ∈ deeds → load.cell = other.cell →
    load = other
  load_new : ∀ later load earlier, deeds = later ++ .loaded load :: earlier → .loaded load ∉ earlier
  errand_lt : ∀ job errand, errand? job deeds = some errand → job < next
  errand_stays : ∀ later earlier job errand, deeds = later ++ earlier →
    errand? job earlier = some errand → errand? job deeds = some errand

namespace Numbered

variable {next : Nat} {deeds : List Deed}

theorem nil : Numbered 0 [] where
  load_lt := by
    intro load member
    cases member
  load_eq := by
    intro load other member
    cases member
  load_new := by
    intro later load earlier deedsEq
    simp at deedsEq
  errand_lt := by
    intro job errand found
    contradiction
  errand_stays := by
    intro later earlier job errand deedsEq found
    rw [(List.append_eq_nil_iff.1 deedsEq.symm).2] at found
    exact found

theorem errand_stays_cons (numbered : Numbered next deeds) {deed : Deed}
    (kept : ∀ job errand, errand? job deeds = some errand →
      errand? job (deed :: deeds) = some errand)
    (later earlier : List Deed) (job : Nat) (errand : Errand)
    (deedsEq : deed :: deeds = later ++ earlier)
    (found : errand? job earlier = some errand) : errand? job (deed :: deeds) = some errand := by
  rcases List.cons_eq_append_iff.1 deedsEq with ⟨rfl, rfl⟩ | ⟨before, rfl, restEq⟩
  · exact found
  · exact kept job errand (numbered.errand_stays before earlier job errand restEq found)

/-- A deed that is no load adds none. -/
theorem mem_of_mem_cons {deed : Deed} {load : Load} (member : .loaded load ∈ deed :: deeds)
    (noLoad : ∀ load, deed ≠ .loaded load) : .loaded load ∈ deeds :=
  (List.mem_cons.1 member).resolve_left fun same => noLoad load same.symm

theorem load_new_cons (numbered : Numbered next deeds) {deed : Deed}
    (new : ∀ load, deed = .loaded load → .loaded load ∉ deeds) (later : List Deed) (load : Load)
    (earlier : List Deed) (deedsEq : deed :: deeds = later ++ .loaded load :: earlier) :
    .loaded load ∉ earlier := by
  rcases List.cons_eq_append_iff.1 deedsEq with ⟨-, here⟩ | ⟨before, rfl, restEq⟩
  · cases here
    exact new load rfl
  · exact numbered.load_new before load earlier restEq

theorem not_mem_next (numbered : Numbered next deeds) (session : String) (frame : Frame) :
    .loaded ⟨next, session, frame⟩ ∉ deeds :=
  fun member => Nat.lt_irrefl _ (numbered.load_lt _ member)

theorem loaded (numbered : Numbered next deeds) (session : String) (frame : Frame) :
    Numbered (next + 1) (.loaded ⟨next, session, frame⟩ :: deeds) where
  load_lt := by
    intro load member
    rcases List.mem_cons.1 member with here | before
    · cases here
      exact Nat.lt_succ_self _
    · exact Nat.lt_succ_of_lt (numbered.load_lt load before)
  load_eq := by
    intro load other member otherMember cellEq
    rcases List.mem_cons.1 member with here | before <;>
      rcases List.mem_cons.1 otherMember with otherHere | otherBefore
    · cases here
      cases otherHere
      rfl
    · cases here
      exact absurd (numbered.load_lt other otherBefore) (by simp [← cellEq])
    · cases otherHere
      exact absurd (numbered.load_lt load before) (by simp [cellEq])
    · exact numbered.load_eq load other before otherBefore cellEq
  load_new := by
    refine numbered.load_new_cons fun load here => ?_
    cases here
    exact numbered.not_mem_next session frame
  errand_lt := fun job errand found => Nat.lt_succ_of_lt (numbered.errand_lt job errand found)
  errand_stays := numbered.errand_stays_cons fun _ _ found => found

theorem requested (numbered : Numbered next deeds) (session : String) (program : Program) :
    Numbered (next + 1) (.requested next session program :: deeds) where
  load_lt := by
    intro load member
    exact Nat.lt_succ_of_lt (numbered.load_lt load (mem_of_mem_cons member (by simp)))
  load_eq := by
    intro load other member otherMember
    exact numbered.load_eq load other (mem_of_mem_cons member (by simp))
      (mem_of_mem_cons otherMember (by simp))
  load_new := numbered.load_new_cons (by simp)
  errand_lt := by
    intro job errand found
    by_cases same : next = job
    · exact same ▸ Nat.lt_succ_self _
    · rw [errand?, if_neg same] at found
      exact Nat.lt_succ_of_lt (numbered.errand_lt job errand found)
  errand_stays := by
    refine numbered.errand_stays_cons fun job errand found => ?_
    rw [errand?, if_neg (Nat.ne_of_gt (numbered.errand_lt job errand found)), found]

theorem completed (numbered : Numbered next deeds) (job : Nat) (reply : Reply) :
    Numbered next (.completed job reply :: deeds) where
  load_lt := by
    intro load member
    exact numbered.load_lt load (mem_of_mem_cons member (by simp))
  load_eq := by
    intro load other member otherMember
    exact numbered.load_eq load other (mem_of_mem_cons member (by simp))
      (mem_of_mem_cons otherMember (by simp))
  load_new := numbered.load_new_cons (by simp)
  errand_lt := numbered.errand_lt
  errand_stays := numbered.errand_stays_cons fun _ _ found => found

end Numbered

namespace Event

/-- Requests to load, evaluate and show, and the moves of jobs, but no request to give up. -/
def isServing : Event → Bool
  | .request _ (.cancel _) | .request _ .shutdown => false
  | _ => true

end Event

namespace Server

/-- The frame that is current for a session. -/
def frame? (server : Server) (session : String) : Option Frame :=
  (server.sessions.get? session).bind server.cells.get?

/-- The deed that an event is, if it is one. -/
def deed? (server : Server) : Event → Option Deed
  | .request _ (.loadFrame session frame) => some (.loaded ⟨server.next, session, frame⟩)
  | .request _ (.evaluate session program) =>
    (server.sessions.get? session).map fun _ => .requested server.next session program
  | .release number =>
    match server.jobs.get? number with
    | some ⟨_, _, _, _, .holding run _⟩ => run.status.reply?.map (.completed number)
    | _ => none
  | _ => none

/-- What an event does to a server, by the deed that it is. -/
inductive Does (server : Server) : Option Deed → Server → Prop where
  | nothing : Does server none server
  | loaded (session : String) (frame : Frame) :
      Does server (some (.loaded ⟨server.next, session, frame⟩)) (server.loadFrame session frame)
  | requested (id : UInt64) {session : String} {cell : Nat} (program : Program)
      (known : server.sessions.get? session = some cell) :
      Does server (some (.requested server.next session program)) (server.startJob id cell program)
  | acquired {number : Nat} {job : Job} {frame : Frame}
      (found : server.jobs.get? number = some job)
      (loaded : server.cells.get? job.cell = some frame) (free : server.isHeld job.cell = false) :
      Does server none (server.setStage number (.holding (.start server.limits) frame))
  | worked {number : Nat} {job : Job} {run after : Run} {frame : Frame} {state : Suspended}
      (found : server.jobs.get? number = some job) (holding : job.stage = .holding run frame)
      (steps : Nat) (stepped : run.stepMany server.limits job.program Frame.target steps
        ⟨frame, job.cancelled⟩ = (after, state)) :
      Does server none (server.setStage number (.holding after state.frame))
  | completed {number : Nat} {job : Job} {run : Run} {frame : Frame} {reply : Reply}
      (found : server.jobs.get? number = some job) (holding : job.stage = .holding run frame)
      (ended : run.status.reply? = some reply) :
      Does server (some (.completed number reply))
        ({ server with cells := server.cells.insert job.cell frame }.setStage number
          (.settled reply))
  | finished {number : Nat} {job : Job} (found : server.jobs.get? number = some job) :
      Does server none
        { server with
          running := server.running.erase job.request
          jobs := server.jobs.erase number }

theorem does_handle {server : Server} {id : UInt64} {request : Request}
    (serving : (Event.request id request).isServing = true) :
    Does server (server.deed? (.request id request)) (server.handle id request).1 := by
  cases request with
  | loadFrame session frame => exact .loaded session frame
  | evaluate session program =>
      simp only [handle, deed?]
      cases known : server.sessions.get? session with
      | none => exact .nothing
      | some cell => exact .requested id program known
  | frame session => exact .nothing
  | cancel target => contradiction
  | shutdown => contradiction

theorem does_acquire (server : Server) (number : Nat) :
    Does server none (server.acquire number) := by
  rw [acquire]
  split
  · next request cell program cancelled found =>
    split
    · next frame loaded =>
      cases free : server.isHeld cell with
      | true => exact .nothing
      | false => exact .acquired found loaded free
    · exact .nothing
  · exact .nothing

theorem does_work (server : Server) (number steps : Nat) :
    Does server none (server.work number steps) := by
  rw [work]
  split
  · next found => exact .worked found rfl steps rfl
  · exact .nothing

theorem does_release (server : Server) (number : Nat) :
    Does server (server.deed? (.release number)) (server.release number) := by
  rcases found : server.jobs.get? number with
    _ | ⟨request, cell, program, cancelled, _ | ⟨run, frame⟩ | reply⟩
  · simpa [deed?, release, found] using .nothing
  · simpa [deed?, release, found] using .nothing
  · cases ended : run.status.reply? with
    | none => simpa [deed?, release, found, ended] using .nothing
    | some reply => simpa [deed?, release, found, ended] using .completed found rfl ended
  · simpa [deed?, release, found] using .nothing

theorem does_finish (server : Server) (number : Nat) :
    Does server none (server.finish number).1 := by
  rw [finish]
  split
  · next found => exact .finished found
  · exact .nothing

theorem does_afterEvent (server : Server) {event : Event} (serving : event.isServing = true) :
    Does server (server.deed? event) (server.afterEvent event) := by
  cases event with
  | request id request => exact does_handle serving
  | acquire number => exact does_acquire server number
  | work number steps => exact does_work server number steps
  | release number => exact does_release server number
  | finish number => exact does_finish server number

end Server

end Watch
