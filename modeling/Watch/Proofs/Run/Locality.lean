import Watch.Frame.Invocation
import Watch.Proofs.Evaluation.Performance
import Watch.Proofs.Run.Termination

/-!
# Operands that lie below

An instruction that succeeds on a stack also succeeds where more operands lie below that stack, and
it makes the same calls and leaves those operands as they are (`InstructionKind.perform_onto`). It
need not do so where it fails: what is too few operands for one stack may be enough for the other.

The main statement is `Run.stepMany_onto`: a stretch of a run that executes one instruction after
another looks the same on top of any other operands, however it jumps, so that the code of a part of
an expression can stand inside of the code of any other.
-/

namespace Watch

namespace Stack

/-- A stack on top of some other operands, with as much room as before. -/
def onto (stack : Stack) (below : List Operand) : Stack :=
  ⟨stack.operands ++ below, stack.room⟩

variable {stack after : Stack} (below : List Operand)

theorem limit_onto : (stack.onto below).limit = stack.limit + below.length := by
  simp only [limit, depth, onto, List.length_append]
  omega

theorem push_onto {operand : Operand} (pushed : stack.push operand = .ok after) :
    (stack.onto below).push operand = .ok (after.onto below) := by
  rcases stack with ⟨operands, _ | room⟩
  · contradiction
  · cases pushed
    rfl

theorem pop_onto {operand : Operand} (popped : stack.pop = .ok (operand, after)) :
    (stack.onto below).pop = .ok (operand, after.onto below) := by
  rcases stack with ⟨_ | ⟨top, rest⟩, room⟩
  · contradiction
  · cases popped
    rfl

theorem popMany_onto {count : Nat} {operands : List Operand}
    (popped : stack.popMany count = .ok (operands, after)) :
    (stack.onto below).popMany count = .ok (operands, after.onto below) := by
  rw [popMany] at popped ⊢
  split at popped
  · next enough =>
    cases popped
    have enoughToo : count ≤ (stack.onto below).depth := by
      simp only [depth, onto, List.length_append] at enough ⊢
      omega
    rw [if_pos enoughToo]
    simp only [onto, List.take_append_of_le_length enough, List.drop_append_of_le_length enough]
  · contradiction

end Stack

namespace Evaluation

variable {Result State : Type} {target : Target State} {state final : State}
  {stack after : Stack} (below : List Operand)

theorem perform_ask_onto {call : Call} {result : call.Result}
    (performed : (ask call stack).perform target state = ((.ok result, after), final)) :
    (ask call (stack.onto below)).perform target state =
      ((.ok result, after.onto below), final) := by
  simp only [ask, Action.perform, Prod.mk.injEq] at performed ⊢
  rcases performed with ⟨⟨answered, rfl⟩, rfl⟩
  exact ⟨⟨answered, rfl⟩, rfl⟩

theorem perform_push_onto {operand : Operand} {result : Unit}
    (performed : (push operand stack).perform target state = ((.ok result, after), final)) :
    (push operand (stack.onto below)).perform target state =
      ((.ok result, after.onto below), final) := by
  rw [push] at performed ⊢
  split at performed
  · next pushedStack pushed =>
    cases performed
    rw [Stack.push_onto below pushed]
    rfl
  · cases performed

theorem perform_pop_onto {operand : Operand}
    (performed : (pop stack).perform target state = ((.ok operand, after), final)) :
    (pop (stack.onto below)).perform target state = ((.ok operand, after.onto below), final) := by
  rw [pop] at performed ⊢
  split at performed
  · next poppedOperand poppedStack popped =>
    cases performed
    rw [Stack.pop_onto below popped]
    rfl
  · cases performed

theorem perform_popValues_onto {count : Nat} {values : List Value}
    (performed : (popValues count stack).perform target state = ((.ok values, after), final)) :
    (popValues count (stack.onto below)).perform target state =
      ((.ok values, after.onto below), final) := by
  rw [popValues] at performed ⊢
  split at performed
  · next operands poppedStack popped =>
    cases performed
    rw [Stack.popMany_onto below popped]
    rfl
  · cases performed

/-- An evaluation that succeeds does the same on top of other operands. -/
theorem Composed.perform_onto {allowed : Call → Prop} {evaluation : Evaluation Result}
    {result : Result} (composed : evaluation.Composed allowed)
    (performed : (evaluation stack).perform target state = ((.ok result, after), final)) :
    (evaluation (stack.onto below)).perform target state =
      ((.ok result, after.onto below), final) := by
  induction composed generalizing stack after state final with
  | lift found =>
      cases performed
      rfl
  | ask isAllowed => exact perform_ask_onto below performed
  | pushValue value => exact perform_push_onto below performed
  | pushSlot isAllowed =>
      rcases ok_of_perform_bind performed with ⟨value, middle, middleState, fetched, pushed⟩
      exact (perform_bind_of_ok (perform_ask_onto below fetched)).trans
        (perform_push_onto below pushed)
  | pop => exact perform_pop_onto below performed
  | popValues count => exact perform_popValues_onto below performed
  | bind first rest ihFirst ihRest =>
      rcases ok_of_perform_bind performed with ⟨found, middle, middleState, before, behind⟩
      exact (perform_bind_of_ok (ihFirst before)).trans (ihRest found behind)

end Evaluation

/-- An instruction that succeeds does the same on top of other operands. -/
theorem InstructionKind.perform_onto {State : Type} {target : Target State} {state final : State}
    {kind : InstructionKind} {length place next : Nat} {stack after : Stack}
    (performed : (kind.execute length place stack).perform target state =
      ((.ok next, after), final)) (below : List Operand) :
    (kind.execute length place (stack.onto below)).perform target state =
      ((.ok next, after.onto below), final) :=
  (kind.composed_execute length place).perform_onto below performed

namespace Run

variable {State : Type} {limits deepLimits : Limits} {program : Program} {target : Target State}

/-- A run on top of some other operands that has executed another number of instructions. -/
def onto (run : Run) (below : List Operand) (steps : Nat) : Run :=
  { run with stack := run.stack.onto below, steps := steps }

/-- A step that executes an instruction executes it on top of other operands, too. -/
theorem Advances.onto {run next : Run} {state after : State} {steps : Nat}
    (advances : Advances limits program target run state next after)
    (going : next.status.isTerminal = false) (below : List Operand)
    (budget : deepLimits.maxSteps.toNat - steps = limits.maxSteps.toNat - run.steps) :
    Advances deepLimits program target (run.onto below steps) state
      (next.onto below (steps + 1)) after := by
  rcases advances.exists_executed going with
    ⟨_, _, _, _, polled, found, allowed, performed, rfl⟩
  have allowedToo : steps < deepLimits.maxSteps.toNat := by omega
  exact .executed polled found allowedToo (InstructionKind.perform_onto performed below)

theorem going_of_stepMany {run next : Run} {state after : State} {count : Nat}
    (stepped : stepMany limits program target count run state = (next, after))
    (going : next.status.isTerminal = false) : run.status.isTerminal = false := by
  by_contra ended
  rw [Bool.not_eq_false] at ended
  rw [stepMany_of_isTerminal ended] at stepped
  cases stepped
  simp [ended] at going

/-- Steps that execute instructions execute them on top of other operands, too. -/
theorem stepMany_onto_of_going {run next : Run} {state after : State} {count steps : Nat}
    (stepped : stepMany limits program target count run state = (next, after))
    (going : next.status.isTerminal = false) (below : List Operand)
    (budget : deepLimits.maxSteps.toNat - steps = limits.maxSteps.toNat - run.steps) :
    next.steps = run.steps + count ∧
      stepMany deepLimits program target count (run.onto below steps) state =
        (next.onto below (steps + count), after) := by
  induction count generalizing run state steps with
  | zero =>
      cases stepped
      exact ⟨rfl, rfl⟩
  | succ count ih =>
      have runGoing := going_of_stepMany stepped going
      rw [stepMany_succ, step_of_not_isTerminal runGoing] at stepped
      have middleGoing := going_of_stepMany stepped going
      have advances : Advances limits program target run state _ _ := advances_advance run state
      have stepsEq := advances.steps_eq middleGoing
      rcases @ih _ _ (steps + 1) stepped (by omega) with ⟨nextSteps, deepStepped⟩
      refine ⟨by omega, ?_⟩
      have deepGoing : (run.onto below steps).status.isTerminal = false := runGoing
      rw [stepMany_succ, step_of_not_isTerminal deepGoing,
        (advances.onto middleGoing below budget).advance_eq, deepStepped, Nat.add_assoc,
        Nat.add_comm 1]

/--
A stretch of a run in which every step executes an instruction is the same on top of other operands.
If `count` steps do not end a run, as many steps from its stack on top of `below`, with a depth
limit that is higher by the number of those operands and with as many instructions left to execute,
make the same calls with the same answers and lead to the same place, to the same suspended program
and to the same stack, on top of `below`.
-/
theorem stepMany_onto (limits deepLimits : Limits) (program : Program) (target : Target State)
    (state : State) (run : Run) (count steps : Nat) (below : List Operand)
    (budget : deepLimits.maxSteps.toNat - steps = limits.maxSteps.toNat - run.steps)
    (going : (stepMany limits program target.journaled count run (state, [])).1.status.isTerminal =
      false) :
    let stretch := stepMany limits program target.journaled count run (state, [])
    stretch.1.steps = run.steps + count ∧
      (run.onto below steps).stack.limit = run.stack.limit + below.length ∧
      stepMany deepLimits program target.journaled count (run.onto below steps) (state, []) =
        (stretch.1.onto below (steps + count), stretch.2) := by
  intro stretch
  rcases stepMany_onto_of_going (Prod.eta stretch).symm going below budget with ⟨stepsEq, deepEq⟩
  exact ⟨stepsEq, Stack.limit_onto below, deepEq⟩

/-- Two rounds of a loop that counts up a local variable, on top of a value and a slot. -/
theorem stepMany_onto_counting :
    let program : Program :=
      #[⟨.pushLocal "x", 0⟩, ⟨.pushLiteral (.int 1), 1⟩,
        ⟨.binary ⟨.add, .int, .int, .int, true⟩, 2⟩, ⟨.pop, 3⟩, ⟨.jump 0, 4⟩]
    let state : Suspended := ⟨Frame.empty.withLocal "x" (.int 1), false⟩
    let run : Run := ⟨.ready, 0, 0, .empty 2⟩
    let below : List Operand := [.plain (.int 5), .slot (.local "y") .null]
    let stretch := stepMany {} program Frame.target.journaled 8 run (state, [])
    stretch.1.status.isTerminal = false ∧
      stretch.1.stack.operands = [.plain (.int 3)] ∧
      stretch.2.2.length = 4 ∧
      stretch.1.steps = 0 + 8 ∧
      (run.onto below 0).stack.limit = run.stack.limit + 2 ∧
      stepMany {} program Frame.target.journaled 8 (run.onto below 0) (state, []) =
        (stretch.1.onto below (0 + 8), stretch.2) := by
  refine ⟨by decide +kernel, by decide +kernel, by decide +kernel, ?_⟩
  exact stepMany_onto {} {} _ Frame.target _ _ 8 0 [.plain (.int 5), .slot (.local "y") .null] rfl
    (by decide +kernel)

end Run

end Watch
