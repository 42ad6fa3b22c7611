import Watch.Frame.Invocation
import Watch.Proofs.Run.Block
import Watch.Proofs.Run.Invariant
import Watch.Proofs.Run.Journal

/-!
# Conditional operators

A conditional operator is compiled to three parts: an instruction that looks at the left operand,
a block for the right operand, and a strict operator that combines the two
(`Program.HasConnective`). The first instruction jumps behind the operator if the left operand
settles the result.

The main statement is `Run.connective_of_boolean`: whatever the block is, the three parts evaluate
the strict operator, except that the block is left alone, with all of its calls, where the left
operand settles the result. What the block does is what it does as a program of its own.
-/

namespace Watch

namespace Connective

/-- The strict operator, which always has both of its operands. -/
def operation : Connective → BinaryOperation
  | .and => .logicalAnd
  | .or => .logicalOr

/-- The strict operator on booleans, as an instruction has it. -/
def combiner (connective : Connective) : TypedBinary :=
  ⟨connective.operation, .boolean, .boolean, .boolean, false⟩

/-- What the strict operator makes of two truth values. -/
def combine : Connective → Bool → Bool → Bool
  | .and, left, right => left && right
  | .or, left, right => left || right

variable (connective : Connective)

theorem combine_decidingValue (right : Bool) :
    connective.combine connective.decidingValue right = connective.decidingValue := by
  cases connective with
  | and => exact Bool.false_and right
  | or => exact Bool.true_or right

/-- The left operand is a plain value from then on, whether it settles the result or not. -/
theorem execute_shortCircuit (length place room : Nat) (target : UInt64) (rest : List Operand)
    {left : Operand} {truth : Bool} (isBoolean : left.value = .boolean truth) :
    (InstructionKind.shortCircuit connective target).execute length place ⟨left :: rest, room⟩ =
      .done (if truth = connective.decidingValue then InstructionKind.jumpTo target length
          else .ok (place + 1), ⟨.plain (.boolean truth) :: rest, room⟩) := by
  refine (InstructionKind.skipRight_operand connective target length _ left rest room).trans ?_
  rw [isBoolean]
  change (if truth = connective.decidingValue then _ else _) = _
  split <;> rfl

theorem execute_combiner (length place room : Nat) (left right : Bool) (rest : List Operand)
    {operand : Operand} (isBoolean : operand.value = .boolean right) :
    (InstructionKind.binary connective.combiner).execute length place
        ⟨operand :: .plain (.boolean left) :: rest, room⟩ =
      .done (.ok (place + 1),
        ⟨.plain (.boolean (connective.combine left right)) :: rest, room + 1⟩) := by
  rcases operand with value | ⟨location, value⟩ <;> cases isBoolean <;> cases connective <;> rfl

end Connective

/-- A conditional operator in a program, with a block for its right operand. -/
structure Program.HasConnective (program : Program) (connective : Connective)
    (start length : Nat) : Prop where
  /-- It starts with the instruction that looks at the left operand. -/
  opens : ∃ target offset, program[start]? = some ⟨.shortCircuit connective target, offset⟩ ∧
    target.toNat = start + length + 2
  /-- No jump leaves the block. -/
  confines : program.Confines (start + 1) length
  /-- The strict operator ends it. -/
  combines : ∃ offset,
    program[start + 1 + length]? = some ⟨.binary connective.combiner, offset⟩

namespace Run

variable {State : Type} {limits few : Limits} {program : Program} {connective : Connective}
  {start length : Nat} {target : Target State} {run : Run} {state polled : State} {left : Operand}
  {rest : List Operand} {truth : Bool}

/-- A left operand that settles the result is the result. -/
theorem Advances.settled (has : program.HasConnective connective start length)
    (heeded : target.poll state = (false, polled)) (here : run.place = start)
    (operands : run.stack.operands = left :: rest)
    (isBoolean : left.value = .boolean connective.decidingValue)
    (allowed : run.steps < limits.maxSteps.toNat) :
    Advances limits program target run state
      ⟨.running, start + length + 2, run.steps + 1,
        ⟨.plain (.boolean connective.decidingValue) :: rest, run.stack.room⟩⟩ polled := by
  rcases has.opens with ⟨destination, offset, opens, leads⟩
  rcases has.combines with ⟨_, combines⟩
  rcases Array.getElem?_eq_some_iff.1 combines with ⟨inside, -⟩
  rcases run with ⟨status, place, steps, ⟨_, room⟩⟩
  cases here
  cases operands
  refine .executed heeded opens allowed ?_
  have jumps : InstructionKind.jumpTo destination program.size = .ok (place + length + 2) := by
    rw [InstructionKind.jumpTo, leads, if_pos (by omega)]
  rw [connective.execute_shortCircuit _ _ _ _ _ isBoolean, if_pos rfl, jumps]
  rfl

/-- A left operand that leaves the result open is put back, as a plain value, below the block. -/
theorem Advances.undecided (has : program.HasConnective connective start length)
    (heeded : target.poll state = (false, polled)) (here : run.place = start)
    (operands : run.stack.operands = left :: rest) (isBoolean : left.value = .boolean truth)
    (isOpen : truth ≠ connective.decidingValue) (allowed : run.steps < limits.maxSteps.toNat) :
    Advances limits program target run state
      ⟨.running, start + 1, run.steps + 1,
        ⟨.plain (.boolean truth) :: rest, run.stack.room⟩⟩ polled := by
  rcases has.opens with ⟨destination, offset, opens, -⟩
  rcases run with ⟨status, place, steps, ⟨_, room⟩⟩
  cases here
  cases operands
  refine .executed heeded opens allowed ?_
  rw [connective.execute_shortCircuit _ _ _ _ _ isBoolean, if_neg isOpen]
  rfl

/-- Behind the block the strict operator combines the two operands. -/
theorem Advances.combined {right : Operand} {answer : Bool}
    (has : program.HasConnective connective start length)
    (heeded : target.poll state = (false, polled)) (here : run.place = start + 1 + length)
    (operands : run.stack.operands = right :: .plain (.boolean truth) :: rest)
    (isBoolean : right.value = .boolean answer) (allowed : run.steps < limits.maxSteps.toNat) :
    Advances limits program target run state
      ⟨.running, start + length + 2, run.steps + 1,
        ⟨.plain (.boolean (connective.combine truth answer)) :: rest, run.stack.room + 1⟩⟩
      polled := by
  rcases has.combines with ⟨offset, combines⟩
  rcases run with ⟨status, place, steps, ⟨_, room⟩⟩
  cases operands
  rw [← here] at combines
  have behind : start + length + 2 = place + 1 := by
    rw [show place = start + 1 + length from here]
    omega
  rw [behind]
  refine .executed heeded combines allowed ?_
  rw [connective.execute_combiner _ _ _ _ _ _ isBoolean]
  rfl

/-- One operand more leaves room for one less. -/
theorem Executes.room_eq {next : Run} {after : State} {operand : Operand} {count : Nat}
    (executes : Executes limits program target count run state next after)
    (pushed : next.stack.operands = operand :: run.stack.operands) :
    next.stack.room + 1 = run.stack.room := by
  have limitEq : (stepMany limits program target count run state).1.stack.limit = _ :=
    limit_stepMany run state count
  rw [executes.stepped] at limitEq
  simp only [Stack.limit, Stack.depth, pushed, List.length_cons] at limitEq
  omega

/-- Where the left operand leaves the result open, the block is executed next. -/
theorem stepMany_block {count : Nat} {done : Run} {later : State}
    (has : program.HasConnective connective start length)
    (notEnded : run.status.isTerminal = false) (heeded : target.poll state = (false, polled))
    (here : run.place = start) (operands : run.stack.operands = left :: rest)
    (isBoolean : left.value = .boolean truth) (isOpen : truth ≠ connective.decidingValue)
    (executes : Executes few (program.block (start + 1) length) target count
      ⟨.running, 0, 0, ⟨.plain (.boolean truth) :: rest, run.stack.room⟩⟩ polled done later)
    (allowed : run.steps + 1 + count ≤ limits.maxSteps.toNat) :
    stepMany limits program target (count + 1) run state =
      (done.placed (start + 1) (run.steps + 1 + count), later) := by
  have first : Advances limits program target run state _ _ :=
    .undecided has heeded here operands isBoolean isOpen (by omega)
  rw [stepMany_succ, step_of_not_isTerminal notEnded, first.advance_eq]
  exact executes.placed has.confines allowed

/--
Three instructions and a block between them evaluate a conditional operator. If the left operand
settles the result, one step leads behind the operator, with the operand as a plain value and
without a call, and the strict operator would yield the same for every right operand. Else the
result is that of the block as a program of its own: if it ends with one more boolean on the stack,
the run goes on behind the operator with what the strict operator makes of both, and if it fails,
the run is faulted by the same fault. In both cases the calls are exactly those of the block.
-/
theorem connective_of_boolean (limits : Limits) (target : Target State) (run : Run) (state : State)
    (journal : List Exchange) (has : program.HasConnective connective start length)
    (notEnded : run.status.isTerminal = false) (heeded : target.poll state = (false, polled))
    (here : run.place = start) (operands : run.stack.operands = left :: rest)
    (isBoolean : left.value = .boolean truth) (allowed : run.steps < limits.maxSteps.toNat) :
    let stack : Stack := ⟨.plain (.boolean truth) :: rest, run.stack.room⟩
    (truth = connective.decidingValue →
      run.step limits program target.journaled (state, journal) =
          (⟨.running, start + length + 2, run.steps + 1, stack⟩, (polled, journal)) ∧
        ∀ answer, connective.combine truth answer = truth) ∧
      (truth ≠ connective.decidingValue →
        ∀ (few : Limits) (count : Nat) (done : Run) (later : State) (calls : List Exchange),
          Executes few (program.block (start + 1) length) target.journaled count
            ⟨.running, 0, 0, stack⟩ (polled, journal) done (later, calls ++ journal) →
          run.steps + count + 2 ≤ limits.maxSteps.toNat →
          (∀ right answer final, done.status = .running → done.place = length →
            done.stack.operands = right :: stack.operands → right.value = .boolean answer →
            target.poll later = (false, final) →
            stepMany limits program target.journaled (count + 2) run (state, journal) =
              (⟨.running, start + length + 2, run.steps + count + 2,
                ⟨.plain (.boolean (connective.combine truth answer)) :: rest, run.stack.room⟩⟩,
                (final, calls ++ journal))) ∧
          ∀ fault, done.status = .faulted fault →
            stepMany limits program target.journaled (count + 1) run (state, journal) =
              (⟨.faulted fault, start + 1 + done.place, run.steps + count + 1, done.stack⟩,
                (later, calls ++ journal))) := by
  intro stack
  have heededToo := poll_journaled journal heeded
  refine ⟨?_, ?_⟩
  · rintro rfl
    have settled : Advances limits program target.journaled run (state, journal) _ _ :=
      .settled has heededToo here operands isBoolean allowed
    rw [step_of_not_isTerminal notEnded, settled.advance_eq]
    exact ⟨rfl, connective.combine_decidingValue⟩
  · intro isOpen few count done later calls executes budget
    have stepped : stepMany limits program target.journaled (count + 1) run (state, journal) = _ :=
      stepMany_block has notEnded heededToo here operands isBoolean isOpen executes (by omega)
    rw [Nat.add_right_comm] at stepped
    refine ⟨?_, ?_⟩
    · intro right answer final going atEnd pushed isAnswer heededLast
      have last : Advances limits program target.journaled
          (done.placed (start + 1) (run.steps + count + 1)) (later, calls ++ journal) _ _ :=
        .combined has (poll_journaled _ heededLast) (congrArg (start + 1 + ·) atEnd) pushed
          isAnswer budget
      have room : (done.placed (start + 1) (run.steps + count + 1)).stack.room + 1 =
        run.stack.room := executes.room_eq pushed
      have endedToo : (done.placed (start + 1) (run.steps + count + 1)).status.isTerminal = false :=
        congrArg Status.isTerminal going
      rw [stepMany_add (count + 1) 1, stepped, stepMany_succ, step_of_not_isTerminal endedToo,
        last.advance_eq, room]
      rfl
    · intro fault faulted
      rw [stepped, placed, faulted]

/-- A conditional operator whose right operand is a choice between two local variables. -/
theorem connective_of_boolean_choice :
    let program : Program :=
      #[⟨.pushLocal "open", 0⟩, ⟨.shortCircuit .and 8, 5⟩, ⟨.pushLocal "side", 9⟩,
        ⟨.jumpIf false 6, 14⟩, ⟨.pushLocal "left", 16⟩, ⟨.jump 7, 21⟩, ⟨.pushLocal "right", 23⟩,
        ⟨.binary Connective.and.combiner, 5⟩]
    let state (side : Bool) : Suspended :=
      ⟨(Frame.empty.withLocal "side" (.boolean side)).withLocal "right" (.boolean false), false⟩
    let run (truth : Bool) : Run :=
      ⟨.running, 1, 1, ⟨[.slot (.local "open") (.boolean truth), .plain .null], 6⟩⟩
    let block (side : Bool) : Run × Suspended × List Exchange :=
      stepMany {} (program.block 2 5) Frame.target.journaled 3
        ⟨.running, 0, 0, ⟨[.plain (.boolean true), .plain .null], 6⟩⟩ (state side, [])
    let fault : Fault := .ofError (.remote "No local variable named 'left'") 16
    (run false).step {} program Frame.target.journaled (state true, []) =
        (⟨.running, 8, 2, ⟨[.plain (.boolean false), .plain .null], 6⟩⟩, (state true, [])) ∧
      (block false).2.2.map Exchange.call = [.fetch (.local "right"), .fetch (.local "side")] ∧
      stepMany {} program Frame.target.journaled 5 (run true) (state false, []) =
        (⟨.running, 8, 6, ⟨[.plain (.boolean false), .plain .null], 6⟩⟩, (block false).2) ∧
      (block true).1.status = .faulted fault ∧
      stepMany {} program Frame.target.journaled 4 (run true) (state true, []) =
        (⟨.faulted fault, 4, 5, (block true).1.stack⟩, (block true).2) := by
  intro program state run block fault
  have has : program.HasConnective .and 1 5 :=
    ⟨⟨8, 5, rfl, rfl⟩, by decide +kernel, ⟨5, rfl⟩⟩
  have settled := connective_of_boolean {} Frame.target (run false) (state true) [] has rfl rfl rfl
    rfl rfl (by decide)
  have undecided (side : Bool) := (connective_of_boolean {} Frame.target (run true) (state side) []
    has rfl rfl rfl rfl rfl (by decide)).2 (by decide) {} 3 (block side).1 (block side).2.1
    (block side).2.2 ⟨by rw [List.append_nil], by cases side <;> decide +kernel⟩ (by decide)
  have faulted : (block true).1.status = .faulted fault := by decide +kernel
  refine ⟨(settled.1 rfl).1, by decide +kernel, ?_, faulted, ?_⟩
  · have stepped := (undecided false).1 (.slot (.local "right") (.boolean false)) false
      (block false).2.1 (by decide +kernel) (by decide +kernel) (by decide +kernel) rfl
      (Prod.ext (by decide +kernel) rfl)
    rw [List.append_nil] at stepped
    exact stepped
  · have stepped := (undecided true).2 fault faulted
    rw [List.append_nil, show (block true).1.place = 2 by decide +kernel] at stepped
    exact stepped

end Run

end Watch
