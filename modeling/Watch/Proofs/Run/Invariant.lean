import Watch.Proofs.Evaluation.Limit
import Watch.Proofs.Run.Step

/-!
# The invariant of a run

`Run.Invariant` says where a run can be, how many operands and steps it has, and where a run that
has ended stands. Each of the cases of `Run.Advances` keeps it (`Run.Invariant.advances`), so that
it holds after any number of steps (`Run.invariant_after`), whatever the suspended program answers.
-/

namespace Watch

namespace Program

variable {program : Program} {place : Nat}

theorem offsetAt_of_getElem? {instruction : Instruction}
    (found : program[place]? = some instruction) :
    program.offsetAt place = instruction.offset := by
  simp [offsetAt, found]

theorem offsetAt_of_lt (inside : place < program.size) :
    program.offsetAt place = program[place].offset :=
  offsetAt_of_getElem? (Array.getElem?_eq_getElem inside)

theorem offsetAt_size (nonempty : 0 < program.size) :
    program.offsetAt program.size = program[program.size - 1].offset := by
  have last : program[program.size - 1]? = some program[program.size - 1] :=
    Array.getElem?_eq_getElem (by omega)
  simp [offsetAt, Array.back?_eq_getElem?, last]

theorem offsetAt_of_size_eq_zero (empty : program.size = 0) : program.offsetAt place = 0 := by
  simp [offsetAt, Array.size_eq_zero_iff.1 empty]

end Program

namespace Run

variable {State : Type} {limits : Limits} {program : Program} {target : Target State}

/--
What holds of every run that starts at the beginning: where it can be and how much it can hold, and
where it stands when it has ended.
-/
structure Invariant (limits : Limits) (program : Program) (run : Run) : Prop where
  /-- The next instruction is in the program, or the program is at its end. -/
  place_le : run.place ≤ program.size
  /-- The stack can hold as many operands as the limits say. -/
  limit_eq : run.stack.limit = limits.maxStackDepth.toNat
  /-- No more instructions were executed than the limits say. -/
  steps_le : run.steps ≤ limits.maxSteps.toNat
  /-- A completed run stands at the end of the program and has no operands left. -/
  completed : ∀ value, run.status = .completed value →
    run.place = program.size ∧ run.stack.operands = []
  /-- A fault is reported at the place where the run stands. -/
  faulted : ∀ fault, run.status = .faulted fault → fault.offset = program.offsetAt run.place

theorem invariant_start (limits : Limits) (program : Program) :
    (start limits).Invariant limits program where
  place_le := Nat.zero_le _
  limit_eq := by simp [start, Stack.empty, Stack.limit, Stack.depth]
  steps_le := Nat.zero_le _
  completed := by rintro value ⟨⟩
  faulted := by rintro fault ⟨⟩

theorem Invariant.fault {run : Run} (invariant : run.Invariant limits program)
    (error : EvaluationError) {offset : UInt64} (here : offset = program.offsetAt run.place) :
    (run.fault error offset).Invariant limits program where
  place_le := invariant.place_le
  limit_eq := invariant.limit_eq
  steps_le := invariant.steps_le
  completed := by rintro value ⟨⟩
  faulted := by
    rintro _ ⟨⟩
    exact here

theorem limit_finish (run : Run) (offset : UInt64) :
    (run.finish offset).stack.limit = run.stack.limit := by
  rw [finish]
  split
  · next operand operandsEq =>
    simp only [Stack.limit, Stack.depth, operandsEq, List.length_singleton, List.length_nil]
    omega
  · rfl

theorem Invariant.finish {run : Run} (invariant : run.Invariant limits program)
    (ended : program[run.place]? = none) :
    (run.finish (program.offsetAt run.place)).Invariant limits program := by
  have limitEq := (limit_finish run (program.offsetAt run.place)).trans invariant.limit_eq
  rw [Run.finish] at limitEq ⊢
  split at limitEq
  · have atEnd : run.place = program.size :=
      Nat.le_antisymm invariant.place_le (Array.getElem?_eq_none_iff.1 ended)
    exact ⟨invariant.place_le, limitEq, invariant.steps_le, fun _ _ => ⟨atEnd, rfl⟩,
      by rintro _ ⟨⟩⟩
  · exact invariant.fault _ rfl

theorem limit_of_performed {run : Run} {state after : State} {instruction : Instruction}
    {outcome : Except EvaluationError Nat} {stack : Stack}
    (found : program[run.place]? = some instruction)
    (performed : (instruction.kind.execute program.size run.place run.stack).perform target
      state = ((outcome, stack), after)) :
    stack.limit = run.stack.limit ∧ ∀ next, outcome = .ok next → next ≤ program.size := by
  rcases Array.getElem?_eq_some_iff.1 found with ⟨inside, -⟩
  simpa only [performed] using
    (instruction.kind.yields_execute inside run.stack).perform target state

/-- No step changes how many operands the stack can hold. -/
theorem Advances.limit_eq {run next : Run} {state after : State}
    (advances : Advances limits program target run state next after) :
    next.stack.limit = run.stack.limit := by
  cases advances with
  | cancelled polled => rfl
  | finished polled ended => exact limit_finish run _
  | limited polled found spent => rfl
  | executed polled found allowed performed => exact (limit_of_performed found performed).1
  | failed polled found allowed performed => exact (limit_of_performed found performed).1

theorem limit_stepMany (run : Run) (state : State) (count : Nat) :
    (stepMany limits program target count run state).1.stack.limit = run.stack.limit := by
  induction count generalizing run state with
  | zero => rfl
  | succ count ih =>
      cases ended : run.status.isTerminal with
      | true => rw [stepMany_of_isTerminal ended]
      | false =>
          have advances : Advances limits program target run state _ _ :=
            advances_advance run state
          rw [stepMany_succ, step_of_not_isTerminal ended, ih, advances.limit_eq]

/-- Every step of a run keeps its invariant. -/
theorem Invariant.advances {run next : Run} {state after : State}
    (invariant : run.Invariant limits program)
    (advances : Advances limits program target run state next after) :
    next.Invariant limits program := by
  cases advances with
  | cancelled polled => exact invariant.fault _ rfl
  | finished polled ended => exact invariant.finish ended
  | limited polled found spent => exact invariant.fault _ (Program.offsetAt_of_getElem? found).symm
  | executed polled found allowed performed =>
      have ⟨limitEq, inside⟩ := limit_of_performed found performed
      exact ⟨inside _ rfl, limitEq.trans invariant.limit_eq, allowed,
        by rintro _ ⟨⟩, by rintro _ ⟨⟩⟩
  | failed polled found allowed performed =>
      have limitEq := (limit_of_performed found performed).1
      refine ⟨invariant.place_le, limitEq.trans invariant.limit_eq, allowed, by rintro _ ⟨⟩, ?_⟩
      rintro _ ⟨⟩
      exact (Program.offsetAt_of_getElem? found).symm

theorem invariant_after (state : State) (count : Nat) :
    (after limits program target state count).1.Invariant limits program :=
  after_induction (fun run _ => run.Invariant limits program) (invariant_start limits program)
    (fun advances invariant => invariant.advances advances) count

/--
After any number of steps a run stands at an instruction or at the end of its program and holds no
more operands than it may. A completed run has used up the program and its operands; a fault carries
the offset of the instruction at which the run stands, which at the end of the program is the last
one. A run that has ended stays as it is and makes no call any more, so that a suspended program
that keeps track of the calls and of their effects is left as it is, too.
-/
theorem reachable_states (limits : Limits) (program : Program) (target : Target State)
    (state : State) (count : Nat) :
    let run := (after limits program target state count).1
    run.place ≤ program.size ∧
      run.stack.depth ≤ limits.maxStackDepth.toNat ∧
      (∀ value, run.status = .completed value →
        run.place = program.size ∧ run.stack.operands = []) ∧
      (∀ fault, run.status = .faulted fault →
        (∀ inside : run.place < program.size, fault.offset = program[run.place].offset) ∧
          (run.place = program.size → ∀ nonempty : 0 < program.size,
            fault.offset = program[program.size - 1].offset) ∧
          (program.size = 0 → fault.offset = 0)) ∧
      (run.status.isTerminal = true → ∀ {Other : Type} (target : Target Other) (state : Other),
        run.step limits program target state = (run, state) ∧
          run.toEnd limits program target state = (run, state)) := by
  intro run
  have invariant : run.Invariant limits program := invariant_after state count
  refine ⟨invariant.place_le, ?_, invariant.completed, ?_, ?_⟩
  · have limitEq := invariant.limit_eq
    simp only [Stack.limit] at limitEq
    omega
  · intro fault faulted
    have offsetEq := invariant.faulted fault faulted
    refine ⟨?_, ?_, ?_⟩
    · intro inside
      rw [offsetEq, Program.offsetAt_of_lt inside]
    · intro ended nonempty
      rw [offsetEq, ended, Program.offsetAt_size nonempty]
    · intro empty
      rw [offsetEq, Program.offsetAt_of_size_eq_zero empty]
  · intro ended Other target state
    exact ⟨step_of_isTerminal ended state, stepMany_of_isTerminal ended _ state⟩

end Run

end Watch
