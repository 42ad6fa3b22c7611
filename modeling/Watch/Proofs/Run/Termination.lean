import Watch.Proofs.Run.Invariant
import Mathlib.Order.Nat

/-!
# Runs end

A program may jump back and forth as it likes, and the suspended program may answer as it likes; a
run ends all the same. As long as it has not ended, each of its steps executed one instruction
(`Run.steps_after`), and it may not execute more of them than its limits say.

The main statement, `Run.toEnd_ends`, describes the loop that steps until the run has ended: it is
left after at most one step more than there may be instructions, and `Run.toEnd` is the state in
which it is left, wherever on the way it is entered.
-/

namespace Watch

namespace Run

variable {State : Type} {limits : Limits} {program : Program} {target : Target State}

theorem Advances.steps_eq {run next : Run} {state after : State}
    (advances : Advances limits program target run state next after)
    (notEnded : next.status.isTerminal = false) : next.steps = run.steps + 1 := by
  rcases advances.exists_executed notEnded with ⟨_, _, _, _, -, -, -, -, rfl⟩
  rfl

/-- A run that has not ended has executed an instruction in each of its steps. -/
theorem steps_after {state : State} {count : Nat}
    (notEnded : (after limits program target state count).1.status.isTerminal = false) :
    (after limits program target state count).1.steps = count := by
  induction count with
  | zero => rfl
  | succ count ih =>
      have notEndedBefore := going_of_going_succ notEnded
      have counted := (advances_after notEndedBefore).steps_eq notEnded
      exact counted.trans (congrArg Nat.succ (ih notEndedBefore))

theorem isTerminal_after_maxSteps (state : State) :
    (after limits program target state (limits.maxSteps.toNat + 1)).1.status.isTerminal = true := by
  by_contra notEnded
  have stepsEq := steps_after (Bool.eq_false_iff.2 notEnded)
  have invariant : (after limits program target state
      (limits.maxSteps.toNat + 1)).1.Invariant limits program := invariant_after state _
  have stepsLe := invariant.steps_le
  omega

/-- There is a first step after which the run has ended. -/
theorem exists_first_end (limits : Limits) (program : Program) (target : Target State)
    (state : State) :
    ∃ count ≤ limits.maxSteps.toNat + 1,
      (after limits program target state count).1.status.isTerminal = true ∧
        ∀ earlier < count,
          (after limits program target state earlier).1.status.isTerminal = false := by
  have ends : ∃ count, (after limits program target state count).1.status.isTerminal = true :=
    ⟨_, isTerminal_after_maxSteps state⟩
  refine ⟨Nat.find ends, Nat.find_min' ends (isTerminal_after_maxSteps state),
    Nat.find_spec ends, ?_⟩
  intro earlier before
  exact Bool.eq_false_iff.2 (Nat.find_min ends before)

theorem after_eq_of_le {state : State} {count later : Nat}
    (ended : (after limits program target state count).1.status.isTerminal = true)
    (le : count ≤ later) :
    after limits program target state later = after limits program target state count := by
  rcases Nat.exists_eq_add_of_le le with ⟨more, rfl⟩
  exact after_add_of_isTerminal ended more

/-- Stepping to the end from any state of a run leads to the first state in which it has ended. -/
theorem toEnd_after {state : State} {count : Nat}
    (ended : (after limits program target state count).1.status.isTerminal = true)
    (first : ∀ earlier < count,
      (after limits program target state earlier).1.status.isTerminal = false) (before : Nat) :
    (after limits program target state before).1.toEnd limits program target
        (after limits program target state before).2 = after limits program target state count := by
  rw [toEnd]
  rw [stepMany_after]
  apply after_eq_of_le ended
  by_cases reached : count ≤ before
  · omega
  · have stepsEq := steps_after (first before (Nat.lt_of_not_le reached))
    have countLe : count ≤ limits.maxSteps.toNat + 1 := by
      by_contra beyond
      have notEnded := first (limits.maxSteps.toNat + 1) (Nat.lt_of_not_le beyond)
      rw [isTerminal_after_maxSteps] at notEnded
      contradiction
    omega

theorem isSome_outcome? {status : Status} (ended : status.isTerminal = true) :
    status.outcome?.isSome = true := by
  cases status with
  | ready => contradiction
  | running => contradiction
  | completed value => rfl
  | faulted fault => rfl

/-- A run that has ended after some steps is the run to the end. -/
theorem toEnd_of_isTerminal {state : State} {count : Nat}
    (ended : (after limits program target state count).1.status.isTerminal = true) :
    (start limits).toEnd limits program target state =
      after limits program target state count := by
  rw [toEnd_start]
  rcases Nat.le_total count (limits.maxSteps.toNat + 1) with before | behind
  · exact after_eq_of_le ended before
  · exact (after_eq_of_le (isTerminal_after_maxSteps state) behind).symm

/-- A run that has ended after some steps is what the program evaluates to. -/
theorem evaluate_of_isTerminal {state : State} {count : Nat}
    (ended : (after limits program target state count).1.status.isTerminal = true) :
    evaluate limits program target state =
      ((after limits program target state count).1.status.outcome?,
        (after limits program target state count).2) := by
  simp only [evaluate, toEnd_of_isTerminal ended]

/--
Every run ends. The loop that steps until the run has ended is left after at most one step more than
instructions may be executed, `toEnd` is the state in which it is left, wherever on the way it is
entered, and there is an outcome to hand back. In no state on the way were more instructions
executed than the limits say; where one more is executed, neither their number nor the place behind
the instruction leaves the range of a word of 64 bits, which is where the length of a program fits.
-/
theorem toEnd_ends (limits : Limits) (program : Program) (target : Target State) (state : State) :
    (∃ count ≤ limits.maxSteps.toNat + 1,
      (after limits program target state count).1.status.isTerminal = true ∧
        (∀ earlier < count,
          (after limits program target state earlier).1.status.isTerminal = false) ∧
        ∀ before, (after limits program target state before).1.toEnd limits program target
          (after limits program target state before).2 =
            after limits program target state count) ∧
      (∀ count, let run := (after limits program target state count).1
        run.steps ≤ limits.maxSteps.toNat ∧
          (run.steps < limits.maxSteps.toNat → run.steps + 1 < UInt64.size) ∧
          (program.size < UInt64.size → run.place < program.size →
            run.place + 1 < UInt64.size)) ∧
      (evaluate limits program target state).1.isSome = true := by
  rcases exists_first_end limits program target state with ⟨count, countLe, ended, first⟩
  refine ⟨⟨count, countLe, ended, first, toEnd_after ended first⟩, ?_, ?_⟩
  · intro count run
    have invariant : run.Invariant limits program := invariant_after state count
    have maxStepsLt : limits.maxSteps.toNat < UInt64.size := limits.maxSteps.toNat_lt_size
    exact ⟨invariant.steps_le, fun allowed => by omega, fun fits inside => by omega⟩
  · have endsAt : (start limits).toEnd limits program target state =
        after limits program target state count := toEnd_after ended first 0
    simp only [evaluate, endsAt]
    exact isSome_outcome? ended

end Run

end Watch
