import Watch.Run

/-!
# The steps of a run

`Run.Advances` lists what a step of a run that has not ended can do: notice that the user has given
up, end the run at the end of the program, refuse to execute one more instruction, or execute one,
with or without an error. What a run keeps is read off these cases.

`Run.after` is the run after a number of steps from its start, over a suspended program that answers
as it likes. Steps that are made at once (`Run.stepMany`) are the same steps made one by one.
-/

namespace Watch

namespace Run

variable {State : Type} {limits : Limits} {program : Program} {target : Target State}

/-- What a step may make of a run that has not ended and of the suspended program. -/
inductive Advances (limits : Limits) (program : Program) (target : Target State) (run : Run)
    (state : State) : Run → State → Prop where
  /-- The user has given up. -/
  | cancelled {after : State} (polled : target.poll state = (true, after)) :
      Advances limits program target run state
        (run.fault .cancelled (program.offsetAt run.place)) after
  /-- The program has ended. -/
  | finished {after : State} (polled : target.poll state = (false, after))
      (ended : program[run.place]? = none) :
      Advances limits program target run state (run.finish (program.offsetAt run.place)) after
  /-- No more instructions may be executed. -/
  | limited {after : State} {instruction : Instruction}
      (polled : target.poll state = (false, after))
      (found : program[run.place]? = some instruction)
      (spent : limits.maxSteps.toNat ≤ run.steps) :
      Advances limits program target run state
        (run.fault (.stepLimit limits.maxSteps) instruction.offset) after
  /-- An instruction was executed. -/
  | executed {polledState after : State} {instruction : Instruction} {next : Nat} {stack : Stack}
      (polled : target.poll state = (false, polledState))
      (found : program[run.place]? = some instruction)
      (allowed : run.steps < limits.maxSteps.toNat)
      (performed : (instruction.kind.execute program.size run.place run.stack).perform target
        polledState = ((.ok next, stack), after)) :
      Advances limits program target run state ⟨.running, next, run.steps + 1, stack⟩ after
  /-- An instruction failed. -/
  | failed {polledState after : State} {instruction : Instruction} {error : EvaluationError}
      {stack : Stack} (polled : target.poll state = (false, polledState))
      (found : program[run.place]? = some instruction)
      (allowed : run.steps < limits.maxSteps.toNat)
      (performed : (instruction.kind.execute program.size run.place run.stack).perform target
        polledState = ((.error error, stack), after)) :
      Advances limits program target run state
        ⟨.faulted (.ofError error instruction.offset), run.place, run.steps + 1, stack⟩ after

theorem finish_running (run : Run) (offset : UInt64) :
    { run with status := .running }.finish offset = run.finish offset := by
  rcases run with ⟨status, place, steps, ⟨_ | ⟨operand, _ | ⟨other, rest⟩⟩, room⟩⟩ <;> rfl

theorem advances_advance (run : Run) (state : State) :
    Advances limits program target run state (run.advance limits program target state).1
      (run.advance limits program target state).2 := by
  rw [advance]
  rcases polled : target.poll state with ⟨_ | _, polledState⟩
  · simp only [Bool.false_eq_true, if_false]
    split
    · next ended =>
      simp only [finish_running]
      exact .finished polled ended
    · next instruction found =>
      split
      · next allowed =>
        rcases performed : (instruction.kind.execute program.size run.place run.stack).perform
          target polledState with ⟨⟨error | next, stack⟩, after⟩
        · exact .failed polled found allowed performed
        · exact .executed polled found allowed performed
      · next spent => exact .limited polled found (Nat.le_of_not_lt spent)
  · exact .cancelled polled

/-- A step after which a run goes on is one that executed an instruction without an error. -/
theorem Advances.exists_executed {run next : Run} {state after : State}
    (advances : Advances limits program target run state next after)
    (going : next.status.isTerminal = false) :
    ∃ (polledState : State) (instruction : Instruction) (place : Nat) (stack : Stack),
      target.poll state = (false, polledState) ∧ program[run.place]? = some instruction ∧
      run.steps < limits.maxSteps.toNat ∧
      (instruction.kind.execute program.size run.place run.stack).perform target polledState =
        ((.ok place, stack), after) ∧
      next = ⟨.running, place, run.steps + 1, stack⟩ := by
  cases advances with
  | cancelled polled => contradiction
  | finished polled ended =>
      rw [finish] at going
      split at going <;> contradiction
  | limited polled found spent => contradiction
  | executed polled found allowed performed =>
      exact ⟨_, _, _, _, polled, found, allowed, performed, rfl⟩
  | failed polled found allowed performed => contradiction

/-- The cases determine the step. -/
theorem Advances.advance_eq {run next : Run} {state after : State}
    (advances : Advances limits program target run state next after) :
    run.advance limits program target state = (next, after) := by
  cases advances with
  | cancelled polled => simp [advance, polled, fault]
  | finished polled ended => simp [advance, polled, ended, finish_running]
  | limited polled found spent => simp [advance, polled, found, Nat.not_lt.2 spent, fault]
  | executed polled found allowed performed =>
      simp [advance, polled, found, allowed, performed, continued]
  | failed polled found allowed performed =>
      simp [advance, polled, found, allowed, performed, continued, fault]

theorem step_of_isTerminal {run : Run} (ended : run.status.isTerminal = true) (state : State) :
    run.step limits program target state = (run, state) := by
  simp [step, ended]

theorem step_of_not_isTerminal {run : Run} (notEnded : run.status.isTerminal = false)
    (state : State) :
    run.step limits program target state = run.advance limits program target state := by
  simp [step, notEnded]

theorem stepMany_of_isTerminal {run : Run} (ended : run.status.isTerminal = true) (count : Nat)
    (state : State) : stepMany limits program target count run state = (run, state) := by
  cases count with
  | zero => rfl
  | succ count => simp [stepMany, ended]

/-- Stepping many times is stepping once, and then the other times. -/
theorem stepMany_succ (count : Nat) (run : Run) (state : State) :
    stepMany limits program target (count + 1) run state =
      stepMany limits program target count (run.step limits program target state).1
        (run.step limits program target state).2 := by
  cases ended : run.status.isTerminal with
  | true =>
      rw [step_of_isTerminal ended, stepMany_of_isTerminal ended, stepMany_of_isTerminal ended]
  | false =>
      rw [step_of_not_isTerminal ended]
      simp [stepMany, ended]

theorem stepMany_add (count more : Nat) (run : Run) (state : State) :
    stepMany limits program target (count + more) run state =
      stepMany limits program target more (stepMany limits program target count run state).1
        (stepMany limits program target count run state).2 := by
  induction count generalizing run state with
  | zero => rw [Nat.zero_add, stepMany]
  | succ count ih => rw [Nat.succ_add, stepMany_succ, stepMany_succ, ih]

/-- The run and the suspended program after a number of steps from the start. -/
def after (limits : Limits) (program : Program) (target : Target State) (state : State) :
    Nat → Run × State
  | 0 => (start limits, state)
  | count + 1 =>
    let (run, state) := after limits program target state count
    run.step limits program target state

theorem after_succ (state : State) (count : Nat) :
    after limits program target state (count + 1) =
      (after limits program target state count).1.step limits program target
        (after limits program target state count).2 :=
  rfl

/-- The next step of a run that has not ended is one of the cases. -/
theorem advances_after {state : State} {count : Nat}
    (notEnded : (after limits program target state count).1.status.isTerminal = false) :
    Advances limits program target (after limits program target state count).1
      (after limits program target state count).2 (after limits program target state (count + 1)).1
      (after limits program target state (count + 1)).2 := by
  rw [after_succ, step_of_not_isTerminal notEnded]
  exact advances_advance _ _

/-- What holds at the start and is kept by every step of a run that has not ended holds always. -/
theorem after_induction (holds : Run → State → Prop) {state : State}
    (atStart : holds (start limits) state)
    (kept : ∀ {run next : Run} {before after : State},
      Advances limits program target run before next after → holds run before → holds next after)
    (count : Nat) :
    holds (after limits program target state count).1
      (after limits program target state count).2 := by
  induction count with
  | zero => exact atStart
  | succ count ih =>
      cases ended : (after limits program target state count).1.status.isTerminal with
      | true => rwa [after_succ, step_of_isTerminal ended]
      | false => exact kept (advances_after ended) ih

theorem after_add_of_isTerminal {state : State} {count : Nat}
    (ended : (after limits program target state count).1.status.isTerminal = true) (more : Nat) :
    after limits program target state (count + more) = after limits program target state count := by
  induction more with
  | zero => rfl
  | succ more ih => rw [← Nat.add_assoc, after_succ, ih, step_of_isTerminal ended]

theorem going_of_going_succ {state : State} {count : Nat}
    (going : (after limits program target state (count + 1)).1.status.isTerminal = false) :
    (after limits program target state count).1.status.isTerminal = false := by
  cases ended : (after limits program target state count).1.status.isTerminal with
  | false => rfl
  | true =>
      rw [after_add_of_isTerminal ended, ended] at going
      contradiction

theorem stepMany_after (state : State) (before count : Nat) :
    stepMany limits program target count (after limits program target state before).1
        (after limits program target state before).2 =
      after limits program target state (before + count) := by
  induction count generalizing before with
  | zero => rfl
  | succ count ih =>
      rw [stepMany_succ, ← after_succ, ih (before + 1)]
      congr 1
      omega

/-- Stepping to the end from the start are as many steps as a run may have. -/
theorem toEnd_start (limits : Limits) (program : Program) (target : Target State) (state : State) :
    (start limits).toEnd limits program target state =
      after limits program target state (limits.maxSteps.toNat + 1) :=
  (stepMany_after state 0 _).trans (by rw [Nat.zero_add]; rfl)

end Run

end Watch
