import Watch.Proofs.Server.Cancellation

/-!
# The jobs that ids stand for

The server looks a job up by the id of the request that started it, and takes the id off its table
when any job with the id is finished. Ids may be used again while jobs with them still run, so that
an entry could be left over from a job that is gone, or lead to a job that is not meant. Neither
happens, in whichever order requests and the moves of jobs follow one another: an entry leads to an
unfinished job that was started under the id, and no job was started under the id after it. The
entry is there for as long as nothing else happens to the id.
-/

namespace Watch

namespace History

/-- The job that was started last under an id. -/
def lastStart? (history : History) (id : UInt64) : Option Nat :=
  history.marks.findSome? fun entry => if entry.1 = id then jobOf? (some entry.2) else none

theorem lastStart?_of_lastMark? {history : History} {id : UInt64} {number : Nat}
    (last : history.lastMark? id = some (.started number)) :
    history.lastStart? id = some number := by
  rcases history with ⟨server, marks⟩
  induction marks with
  | nil => simp [lastMark?] at last
  | cons entry marks ih =>
      rcases entry with ⟨other, mark⟩
      by_cases same : other = id
      · subst same
        have markEq : mark = .started number := by
          simpa [lastMark?_cons_self] using last
        simp [lastStart?, markEq, jobOf?]
      · have earlier : lastMark? ⟨server, marks⟩ id = some (.started number) := by
          rwa [lastMark?_cons_of_ne (Ne.symm same) server mark ⟨server, marks⟩] at last
        simpa [lastStart?, same] using ih earlier

section Running

variable {history : History} (invariant : history.Invariant)
include invariant

/-- An entry of the table leads to an unfinished job, the last one that its id has started. -/
theorem Invariant.unfinished {id : UInt64} {number : Nat}
    (entry : history.server.running.get? id = some number) :
    (∃ job, history.server.jobs.get? number = some job ∧ job.request = id) ∧
      history.lastStart? id = some number := by
  have requested := invariant.requested id number entry
  have last := invariant.get?_running_iff.1 entry
  exact ⟨Option.map_eq_some_iff.1 requested, lastStart?_of_lastMark? last⟩

theorem Invariant.get?_running_eq_none {id : UInt64}
    (finished : ∀ number job, history.server.jobs.get? number = some job → job.request ≠ id) :
    history.server.running.get? id = none := by
  cases entry : history.server.running.get? id with
  | none => rfl
  | some number =>
      rcases (invariant.unfinished entry).1 with ⟨job, found, same⟩
      exact absurd same (finished number job found)

theorem Invariant.running_eq_empty (idle : history.server.jobs = .empty) :
    history.server.running = .empty := by
  apply SortedMap.eq_empty_of_get?
  intro id
  apply invariant.get?_running_eq_none
  intro number job found
  simp [idle] at found

end Running

/-- Whatever has been requested and done, the table of ids has no entry that is out of date. -/
theorem running_ofEvents (limits : Limits) (events : List Event) :
    let history := ofEvents limits events
    let server := history.server
    (∀ id number, server.running.get? id = some number ↔
      history.lastMark? id = some (.started number)) ∧
    (∀ id number, server.running.get? id = some number →
      (∃ job, server.jobs.get? number = some job ∧ job.request = id) ∧
        history.lastStart? id = some number) ∧
    (∀ asker id, (∀ number job, server.jobs.get? number = some job → job.request ≠ id) →
      server.handle asker (.cancel id) =
        (server, .reply (.error s!"No running evaluation with id {id.toNat}"))) ∧
    (∀ asker session program, server.sessions.get? session = none →
      server.handle asker (.evaluate session program) =
        (server, .reply (Server.unknownSession session))) ∧
    (server.jobs = .empty → server.running = .empty) := by
  intro history server
  have invariant : history.Invariant := invariant_ofEvents limits events
  refine ⟨?registered, ?entries, ?cancel, ?evaluate, invariant.running_eq_empty⟩
  case registered =>
    intro id number
    exact invariant.get?_running_iff
  case entries =>
    intro id number entry
    exact invariant.unfinished entry
  case cancel =>
    intro asker id finished
    have absent : server.running.get? id = none := invariant.get?_running_eq_none finished
    simp [Server.handle, absent]
  case evaluate =>
    intro asker session program unknown
    simp [Server.handle, unknown]

end History

end Watch
