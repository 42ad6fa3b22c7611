import Watch.Proofs.Server.History

/-!
# Who is told to give up

A request to cancel names an id, and a request to stop means every job. Both find the jobs by the
ids that stand for them. The main statement, `Server.cancelled_iff`, says which jobs they reach: a
job whose start is the last that has happened to its id, and no other. A job is out of reach, though
it is not finished, once another job was started under its id or a job with its id was finished.
-/

namespace Watch

namespace Server

/-- A job that is told that the user has given up. -/
def told (job : Job) : Job :=
  { job with cancelled := true }

theorem told_comp_told : told ∘ told = told :=
  rfl

theorem get?_cancelJob_self (server : Server) (number : Nat) :
    (server.cancelJob number).jobs.get? number = (server.jobs.get? number).map told :=
  SortedMap.get?_modify_self _ _ _

theorem get?_cancelJob_of_ne {number other : Nat} (different : other ≠ number)
    (server : Server) : (server.cancelJob number).jobs.get? other = server.jobs.get? other :=
  SortedMap.get?_modify_of_ne different _ _

theorem get?_foldl_cancelJob (numbers : List Nat) (server : Server) (number : Nat) :
    (numbers.foldl cancelJob server).jobs.get? number =
      if number ∈ numbers then (server.jobs.get? number).map told
      else server.jobs.get? number := by
  induction numbers generalizing server with
  | nil => simp
  | cons head rest ih =>
      rw [List.foldl_cons, ih]
      by_cases same : number = head
      · subst same
        simp [get?_cancelJob_self, told_comp_told]
      · simp [get?_cancelJob_of_ne same, same]

/-- A request to cancel reaches the job that the id stands for. -/
theorem get?_handle_cancel (server : Server) (asker id : UInt64) (number : Nat) :
    (server.handle asker (.cancel id)).1.jobs.get? number =
      if server.running.get? id = some number then (server.jobs.get? number).map told
      else server.jobs.get? number := by
  simp only [handle]
  cases found : server.running.get? id with
  | none => simp
  | some other =>
      by_cases same : number = other
      · subst same
        simp [get?_cancelJob_self]
      · simp [get?_cancelJob_of_ne same, Ne.symm same]

/-- A request to stop reaches the jobs that some id stands for. -/
theorem get?_handle_shutdown (server : Server) (asker : UInt64) (number : Nat) :
    (server.handle asker .shutdown).1.jobs.get? number =
      if number ∈ server.running.items then (server.jobs.get? number).map told
      else server.jobs.get? number :=
  get?_foldl_cancelJob _ _ _

end Server

namespace History

/-- An unfinished job is found by its id as long as its start is the last event of the id. -/
theorem Invariant.get?_running_iff {history : History} (invariant : history.Invariant) {id : UInt64}
    {number : Nat} :
    history.server.running.get? id = some number ↔
      history.lastMark? id = some (.started number) := by
  rw [invariant.running_eq]
  cases history.lastMark? id with
  | none => simp [jobOf?]
  | some mark => cases mark <;> simp [jobOf?]

theorem Invariant.request_eq {history : History} (invariant : history.Invariant) {id : UInt64}
    {number : Nat} {job : Job} (unfinished : history.server.jobs.get? number = some job)
    (found : history.server.running.get? id = some number) : job.request = id := by
  have requested := invariant.requested id number found
  simpa [Server.requestOf?, unfinished] using requested

theorem Invariant.mem_running_iff {history : History} (invariant : history.Invariant)
    {number : Nat} {job : Job} (unfinished : history.server.jobs.get? number = some job) :
    number ∈ history.server.running.items ↔
      history.lastMark? job.request = some (.started number) := by
  rw [SortedMap.mem_items_iff, ← invariant.get?_running_iff]
  constructor
  · rintro ⟨id, found⟩
    rwa [invariant.request_eq unfinished found]
  · intro found
    exact ⟨job.request, found⟩

/--
Which jobs learn that the user has given up, after any requests and moves of jobs in any order. A
job that is not finished learns it from a request to cancel its id, or from a request to stop, if
the last that has happened to its id is its own start, and otherwise it does not learn it from them.
-/
theorem cancelled_iff (limits : Limits) (events : List Event) (asker : UInt64) :
    let history := ofEvents limits events
    ∀ number job, history.server.jobs.get? number = some job →
      (∀ id, ∃ after, (history.server.handle asker (.cancel id)).1.jobs.get? number = some after ∧
        (after.cancelled = true ↔ job.cancelled = true ∨
          job.request = id ∧ history.lastMark? id = some (.started number))) ∧
        ∃ after, (history.server.handle asker .shutdown).1.jobs.get? number = some after ∧
          (after.cancelled = true ↔ job.cancelled = true ∨
            history.lastMark? job.request = some (.started number)) := by
  intro history number job unfinished
  have invariant : history.Invariant := invariant_ofEvents limits events
  constructor
  · intro id
    rw [Server.get?_handle_cancel, ← invariant.get?_running_iff]
    by_cases found : history.server.running.get? id = some number
    · have sameId : job.request = id := invariant.request_eq unfinished found
      exact ⟨Server.told job, by simp [found, unfinished], by simp [Server.told, found, sameId]⟩
    · exact ⟨job, by simp [found, unfinished], by simp [found]⟩
  · rw [Server.get?_handle_shutdown, ← invariant.mem_running_iff unfinished]
    by_cases found : number ∈ history.server.running.items
    · exact ⟨Server.told job, by simp [found, unfinished], by simp [Server.told, found]⟩
    · exact ⟨job, by simp [found, unfinished], by simp [found]⟩

/-- Two jobs under one id, each with a frame of its own; the later one is finished first. -/
def overtaking : List Event :=
  [.request 1 (.loadFrame "a" .empty), .request 2 (.loadFrame "b" .empty),
    .request 5 (.evaluate "a" #[⟨.jump 0, 0⟩]),
    .request 5 (.evaluate "b" #[⟨.pushLiteral .null, 0⟩]),
    .acquire 2, .acquire 3, .work 3 2, .release 3, .finish 3]

/-- The earlier of two jobs under one id is out of reach after the later one was finished. -/
theorem cancelled_iff_overtaking :
    let history := ofEvents {} overtaking
    ∃ job, history.server.jobs.get? 2 = some job ∧ job.request = 5 ∧
      (∃ after, (history.server.handle 6 (.cancel 5)).1.jobs.get? 2 = some after ∧
        after.cancelled = false) ∧
      ∃ after, (history.server.handle 7 .shutdown).1.jobs.get? 2 = some after ∧
        after.cancelled = false := by
  intro history
  have unfinished : history.server.jobs.get? 2 =
      some ⟨5, 0, #[⟨.jump 0, 0⟩], false, .holding (.start {}) .empty⟩ := by decide +kernel
  have finished : (ofEvents {} overtaking).lastMark? 5 = some .finished := by decide +kernel
  rcases (cancelled_iff {} overtaking 6 2 _ unfinished).1 5 with ⟨after, found, cancelled⟩
  rcases (cancelled_iff {} overtaking 7 2 _ unfinished).2 with ⟨stopped, stoppedFound, told⟩
  exact ⟨_, unfinished, rfl, ⟨after, found, by simpa [finished] using cancelled⟩,
    ⟨stopped, stoppedFound, by simpa [finished] using told⟩⟩

end History

end Watch
