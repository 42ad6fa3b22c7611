import Watch.Proofs.Evaluation.Consumption
import Watch.Proofs.Run.Step

/-!
# Blocks of a program

A stretch of a program that no jump leaves (`Program.Confines`) is a program of its own once its
jumps are counted from its beginning (`Program.block`). A jump may still lead to the end of the
stretch, which is then the end of the program.

The main statement is `Run.Executes.placed`: as long as the block by itself executes instructions,
up to one that fails, the program around it makes the same steps in its place, with the same calls,
the same stack and the same fault.
-/

namespace Watch

namespace InstructionKind

/-- The instruction with its jump counted from a place on. -/
def relativeTo (start : Nat) : InstructionKind → InstructionKind
  | .jump target => .jump (.ofNat (target.toNat - start))
  | .jumpIf truth target => .jumpIf truth (.ofNat (target.toNat - start))
  | .shortCircuit connective target => .shortCircuit connective (.ofNat (target.toNat - start))
  | kind => kind

end InstructionKind

/-- The instruction with its jump counted from a place on. -/
def Instruction.relativeTo (start : Nat) (instruction : Instruction) : Instruction :=
  { instruction with kind := instruction.kind.relativeTo start }

namespace Program

/-- A stretch of a program as a program of its own. -/
def block (program : Program) (start length : Nat) : Program :=
  (program.extract start (start + length)).map (Instruction.relativeTo start)

/-- A stretch of a program whose jumps lead to its instructions or to its end. -/
structure Confines (program : Program) (start length : Nat) : Prop where
  /-- The stretch is in the program. -/
  fits : start + length ≤ program.size
  /-- No jump leaves it. -/
  stays : ∀ instruction ∈ program.extract start (start + length),
    ∀ target ∈ instruction.kind.target?, start ≤ target.toNat ∧ target.toNat ≤ start + length

variable {program : Program} {start length : Nat}

theorem confines_iff : program.Confines start length ↔
    start + length ≤ program.size ∧
      (program.extract start (start + length)).all fun instruction =>
        instruction.kind.target?.all fun target =>
          start ≤ target.toNat && target.toNat ≤ start + length := by
  simp only [Array.all_eq_true', Option.all_eq_true, Bool.and_eq_true, decide_eq_true_eq]
  exact ⟨fun confines => ⟨confines.fits, confines.stays⟩, fun ⟨fits, stays⟩ => ⟨fits, stays⟩⟩

instance : Decidable (program.Confines start length) :=
  decidable_of_iff' _ confines_iff

theorem Confines.size_block (confines : program.Confines start length) :
    (program.block start length).size = length := by
  have fits := confines.fits
  rw [block, Array.size_map, Array.size_extract]
  omega

/-- What stands in a block stands in the program. -/
theorem exists_of_getElem?_block {place : Nat} {found : Instruction}
    (inBlock : (program.block start length)[place]? = some found) :
    ∃ instruction ∈ program.extract start (start + length),
      program[start + place]? = some instruction ∧ found = instruction.relativeTo start := by
  rw [block, Array.getElem?_map, Option.map_eq_some_iff] at inBlock
  rcases inBlock with ⟨instruction, inStretch, rfl⟩
  refine ⟨instruction, Array.mem_of_getElem? inStretch, ?_, rfl⟩
  rw [Array.getElem?_extract] at inStretch
  split at inStretch
  · exact inStretch
  · cases inStretch

end Program

namespace InstructionKind

open Evaluation

variable {State : Type} {target : Target State} {state final : State} {start length size : Nat}
  {stack after : Stack}

theorem jumpTo_relative {destination : UInt64} (fits : start + length ≤ size)
    (behind : start ≤ destination.toNat) (within : destination.toNat ≤ start + length) :
    jumpTo destination size =
      (jumpTo (.ofNat (destination.toNat - start)) length).map (start + ·) := by
  have lt : destination.toNat - start < UInt64.size := by
    have := destination.toNat_lt_size
    omega
  rw [jumpTo, jumpTo, UInt64.toNat_ofNat_of_lt' lt, if_pos (by omega), if_pos (by omega)]
  simp only [Except.map, Except.ok.injEq]
  omega

/-- A conditional jump takes its operand, and that is all that is left to be seen of it. -/
theorem branch_operand (truth : Bool) (destination : UInt64) (length next : Nat)
    (operand : Operand) (rest : List Operand) (room : Nat) :
    branch truth destination length next ⟨operand :: rest, room⟩ =
      match operand.value.asBoolean with
      | .error error => .done (.error error, ⟨rest, room + 1⟩)
      | .ok decision =>
        .done (if decision = truth then jumpTo destination length else .ok next,
          ⟨rest, room + 1⟩) := by
  change (lift operand.value.asBoolean >>= fun decision => _) _ = _
  cases operand.value.asBoolean with
  | error error => rfl
  | ok decision => cases decision <;> cases truth <;> rfl

section Relative

variable {place : Nat} {destination moved : UInt64} {outcome : Except EvaluationError Nat}

theorem perform_thenNext_relative {evaluation : Evaluation Unit}
    (performed : (thenNext (place + 1) evaluation stack).perform target state =
      ((outcome, after), final)) :
    (thenNext (start + place + 1) evaluation stack).perform target state =
      ((outcome.map (start + ·), after), final) := by
  rw [perform_thenNext_eq] at performed ⊢
  cases performed
  cases ((evaluation stack).perform target state).1.1 <;> rfl

theorem perform_branch_relative {truth : Bool}
    (jumped : jumpTo destination size = (jumpTo moved length).map (start + ·))
    (performed : (branch truth moved length (place + 1) stack).perform target state =
      ((outcome, after), final)) :
    (branch truth destination size (start + place + 1) stack).perform target state =
      ((outcome.map (start + ·), after), final) := by
  rcases stack with ⟨_ | ⟨operand, rest⟩, room⟩
  · cases performed
    rfl
  · rw [branch_operand] at performed ⊢
    cases decided : operand.value.asBoolean with
    | error error =>
        simp only [decided] at performed ⊢
        cases performed
        rfl
    | ok decision =>
        simp only [decided, jumped] at performed ⊢
        cases performed
        by_cases taken : decision = truth
        · simp only [taken, if_true, Action.perform]
        · simp only [taken, if_false, Action.perform]
          rfl

theorem perform_skipRight_relative {connective : Connective}
    (jumped : jumpTo destination size = (jumpTo moved length).map (start + ·))
    (performed : (skipRight connective moved length (place + 1) stack).perform target state =
      ((outcome, after), final)) :
    (skipRight connective destination size (start + place + 1) stack).perform target state =
      ((outcome.map (start + ·), after), final) := by
  rcases stack with ⟨_ | ⟨operand, rest⟩, room⟩
  · cases performed
    rfl
  · rw [skipRight_operand] at performed ⊢
    cases decided : operand.value.asBoolean with
    | error error =>
        simp only [decided] at performed ⊢
        cases performed
        rfl
    | ok decision =>
        simp only [decided, jumped] at performed ⊢
        by_cases settled : decision = connective.decidingValue
        · simp only [settled, if_true] at performed ⊢
          cases performed
          rfl
        · simp only [settled, if_false] at performed ⊢
          cases performed
          rfl

/-- In a block an instruction does what it does in the program, and counts places from the start. -/
theorem perform_relativeTo {kind : InstructionKind} (fits : start + length ≤ size)
    (stays : ∀ destination ∈ kind.target?,
      start ≤ destination.toNat ∧ destination.toNat ≤ start + length)
    (performed : ((kind.relativeTo start).execute length place stack).perform target state =
      ((outcome, after), final)) :
    (kind.execute size (start + place) stack).perform target state =
      ((outcome.map (start + ·), after), final) := by
  have jumped : ∀ destination ∈ kind.target?, jumpTo destination size =
      (jumpTo (.ofNat (destination.toNat - start)) length).map (start + ·) :=
    fun destination isTarget =>
      jumpTo_relative fits (stays destination isTarget).1 (stays destination isTarget).2
  cases kind with
  | jump destination =>
      cases performed
      rw [← jumped destination rfl]
      rfl
  | jumpIf truth destination => exact perform_branch_relative (jumped destination rfl) performed
  | shortCircuit connective destination =>
      exact perform_skipRight_relative (jumped destination rfl) performed
  | noop =>
      cases performed
      rfl
  | _ => exact perform_thenNext_relative performed

end Relative

end InstructionKind

namespace Run

variable {State : Type} {limits few : Limits} {program : Program} {target : Target State}
  {start length : Nat}

theorem steps_finish (run : Run) (offset : UInt64) : (run.finish offset).steps = run.steps := by
  rw [finish]
  split <;> rfl

/-- A step executes at most one instruction. -/
theorem Advances.steps_le {run next : Run} {state after : State}
    (advances : Advances limits program target run state next after) :
    next.steps ≤ run.steps + 1 := by
  cases advances with
  | cancelled polled => exact Nat.le_succ _
  | finished polled ended =>
      rw [steps_finish]
      exact Nat.le_succ _
  | limited polled found spent => exact Nat.le_succ _
  | executed polled found allowed performed => exact Nat.le_refl _
  | failed polled found allowed performed => exact Nat.le_refl _

theorem steps_stepMany_le (limits : Limits) (program : Program) (target : Target State) (run : Run)
    (state : State) (count : Nat) :
    (stepMany limits program target count run state).1.steps ≤ run.steps + count := by
  induction count generalizing run state with
  | zero => exact Nat.le_refl _
  | succ count ih =>
      cases ended : run.status.isTerminal with
      | true =>
          rw [stepMany_of_isTerminal ended]
          exact Nat.le_add_right _ _
      | false =>
          rw [stepMany_succ, step_of_not_isTerminal ended]
          have advances : Advances limits program target run state _ _ :=
            advances_advance run state
          have first := advances.steps_le
          have others := ih (run.advance limits program target state).1
            (run.advance limits program target state).2
          omega

/-- The run of a block as the run of the program around it, with another number of steps. -/
def placed (run : Run) (start steps : Nat) : Run :=
  { run with place := start + run.place, steps := steps }

/-- A step of a block that executes an instruction, or fails to, is one of the program around it. -/
theorem Advances.placed {run next : Run} {state after : State} {steps : Nat}
    (advances : Advances few (program.block start length) target run state next after)
    (confines : program.Confines start length) (counted : next.steps = run.steps + 1)
    (allowed : steps < limits.maxSteps.toNat) :
    Advances limits program target (run.placed start steps) state (next.placed start (steps + 1))
      after := by
  cases advances with
  | cancelled polled => simp [fault] at counted
  | finished polled ended => simp [steps_finish] at counted
  | limited polled found spent => simp [fault] at counted
  | executed polled found _ performed =>
      rcases Program.exists_of_getElem?_block found with ⟨instruction, member, inProgram, rfl⟩
      rw [confines.size_block] at performed
      exact .executed polled inProgram allowed
        (InstructionKind.perform_relativeTo confines.fits (confines.stays _ member) performed)
  | @failed _ _ _ error stack polled found _ performed =>
      rcases Program.exists_of_getElem?_block found with ⟨instruction, member, inProgram, rfl⟩
      rw [confines.size_block] at performed
      change Advances limits program target _ state
        ⟨.faulted (.ofError error instruction.offset), start + run.place, steps + 1, stack⟩ after
      exact .failed polled inProgram allowed
        (InstructionKind.perform_relativeTo confines.fits (confines.stays _ member) performed)

/-- Every one of a number of steps executes an instruction, of which the last may fail. -/
structure Executes (limits : Limits) (program : Program) (target : Target State) (count : Nat)
    (run : Run) (state : State) (next : Run) (after : State) : Prop where
  /-- The steps lead there. -/
  stepped : stepMany limits program target count run state = (next, after)
  /-- There are as many instructions. -/
  counted : next.steps = run.steps + count

/-- What a block executes by itself, the program around it executes where the block stands in it. -/
theorem Executes.placed {run next : Run} {state after : State} {count steps : Nat}
    (executes : Executes few (program.block start length) target count run state next after)
    (confines : program.Confines start length) (allowed : steps + count ≤ limits.maxSteps.toNat) :
    stepMany limits program target count (run.placed start steps) state =
      (next.placed start (steps + count), after) := by
  rcases executes with ⟨stepped, counted⟩
  induction count generalizing run state steps with
  | zero =>
      cases stepped
      rfl
  | succ count ih =>
      cases ended : run.status.isTerminal with
      | true =>
          rw [stepMany_of_isTerminal ended] at stepped
          cases stepped
          omega
      | false =>
          rw [stepMany_succ, step_of_not_isTerminal ended] at stepped
          have advances : Advances few (program.block start length) target run state _ _ :=
            advances_advance run state
          -- No step executes more than one instruction, so that the first one executes its own.
          have others := steps_stepMany_le few (program.block start length) target
            (run.advance few (program.block start length) target state).1
            (run.advance few (program.block start length) target state).2 count
          simp only [stepped] at others
          have first := advances.steps_le
          have placed : Advances limits program target (run.placed start steps) state _ _ :=
            advances.placed confines (by omega) (by omega)
          have endedToo : (run.placed start steps).status.isTerminal = false := ended
          rw [stepMany_succ, step_of_not_isTerminal endedToo, placed.advance_eq,
            ih (by omega) stepped (by omega), Nat.add_right_comm, Nat.add_assoc]

end Run

end Watch
