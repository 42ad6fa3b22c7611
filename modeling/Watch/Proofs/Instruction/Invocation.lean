import Watch.Proofs.Evaluation.Limit

/-!
# Method calls

A method call takes its operands from the top of the stack, all of them or none. There is one call
on the suspended program, with their values from the bottom up, so that a receiver comes first; and
what it answers is put on the rest of the stack (`InstructionKind.execute_invoke`). A stack that was
full has room for it unless the call has no operands, as that of a static method without arguments.

The main statement, `InstructionKind.calls_once`, is about stacks as lists of operands from the
bottom to the top (`Stack.toList`).
-/

namespace Watch

open Evaluation

namespace Stack

variable {stack after : Stack} {count : Nat} {operands : List Operand}

theorem popMany_of_lt (fewer : stack.depth < count) :
    stack.popMany count = .error .stackUnderflow :=
  if_neg (Nat.not_le.2 fewer)

/-- Taking operands splits the stack, and leaves room for those that were taken. -/
theorem popMany_of_le (enough : count ≤ stack.depth) :
    ∃ after, stack.popMany count = .ok (stack.toList.drop (stack.depth - count), after) ∧
      after.toList = stack.toList.take (stack.depth - count) := by
  have popped : stack.popMany count = .ok ((stack.operands.take count).reverse,
      ⟨stack.operands.drop count, stack.room + count⟩) :=
    if_pos enough
  refine ⟨⟨stack.operands.drop count, stack.room + count⟩, ?_, List.reverse_drop⟩
  rw [popped, List.reverse_take]
  rfl

theorem room_popMany (popped : stack.popMany count = .ok (operands, after)) :
    after.room = stack.room + count := by
  rw [popMany] at popped
  split at popped
  · cases popped
    rfl
  · contradiction

theorem eq_of_popMany_zero (popped : stack.popMany 0 = .ok (operands, after)) : after = stack := by
  cases popped
  rfl

theorem push_of_room (hasRoom : 0 < stack.room) (operand : Operand) :
    ∃ after, stack.push operand = .ok after ∧ after.toList = stack.toList ++ [operand] := by
  rcases stack with ⟨operands, _ | room⟩
  · contradiction
  · exact ⟨⟨operand :: operands, room⟩, rfl, List.reverse_cons⟩

theorem push_of_full (full : stack.depth = stack.limit) (operand : Operand) :
    stack.push operand = .error (.stackOverflow stack.limit) := by
  rcases stack with ⟨operands, _ | room⟩
  · rfl
  · simp only [limit] at full
    omega

end Stack

namespace InstructionKind

variable {argumentCount : UInt64} {staticType : Option String} {stack rest : Stack}
  {operands : List Operand}

/-- What a method call leaves that is answered: the value on the rest of the stack, or the error. -/
def returned (next : Nat) (rest : Stack) :
    Except EvaluationError Value → Except EvaluationError Nat × Stack
  | .error error => (.error error, rest)
  | .ok value =>
    match rest.push (.plain value) with
    | .ok stack => (.ok next, stack)
    | .error error => (.error error, rest)

theorem limit_returned (next : Nat) (rest : Stack) (answer : Except EvaluationError Value) :
    (returned next rest answer).2.limit = rest.limit := by
  cases answer with
  | error error => rfl
  | ok value =>
      simp only [returned]
      split
      · next pushed => exact Stack.limit_push pushed
      · rfl

/-- There is room for the value if an operand was taken or the stack was not full. -/
theorem returned_of_room {count : Nat} (popped : stack.popMany count = .ok (operands, rest))
    (hasRoom : 0 < count ∨ stack.depth < stack.limit) (next : Nat) (value : Value) :
    (returned next rest (.ok value)).1 = .ok next ∧
      (returned next rest (.ok value)).2.toList = rest.toList ++ [.plain value] := by
  have positive : 0 < rest.room := by
    rw [Stack.room_popMany popped]
    simp only [Stack.limit] at hasRoom
    omega
  rcases Stack.push_of_room positive (.plain value) with ⟨pushed, isPushed, pushedList⟩
  simp only [returned, isPushed]
  exact ⟨trivial, pushedList⟩

theorem returned_of_full (full : stack.depth = stack.limit) (next : Nat) (value : Value) :
    returned next stack (.ok value) = (.error (.stackOverflow stack.limit), stack) := by
  simp only [returned, Stack.push_of_full full]

theorem popOperands_of_popMany (counted : operandCount argumentCount staticType < UInt64.size)
    (popped : stack.popMany (operandCount argumentCount staticType) = .ok (operands, rest)) :
    popOperands argumentCount staticType stack =
      .done (.ok (operands.map Operand.value), rest) := by
  simp only [popOperands, if_pos counted, popValues, popped]

/-- With its operands there, a method call makes one call and ends with what is answered. -/
theorem execute_invoke (counted : operandCount argumentCount staticType < UInt64.size)
    (popped : stack.popMany (operandCount argumentCount staticType) = .ok (operands, rest))
    (method : String) (length place : Nat) :
    (invoke method argumentCount staticType).execute length place stack =
      .ask (.invoke (.call method staticType) (operands.map Operand.value)) fun answer =>
        .done (returned (place + 1) rest answer) := by
  change Action.bind (Action.bind (popOperands argumentCount staticType stack) _) _ = _
  rw [popOperands_of_popMany counted popped]
  refine congrArg (Action.ask _) (funext fun answer => ?_)
  cases answer with
  | error error => rfl
  | ok value =>
      change Action.bind (push (.plain value) rest) _ = _
      simp only [push, returned]
      cases rest.push (.plain value) <;> rfl

theorem execute_invoke_of_missing
    (missing : UInt64.size ≤ operandCount argumentCount staticType ∨
      stack.depth < operandCount argumentCount staticType)
    (method : String) (length place : Nat) :
    (invoke method argumentCount staticType).execute length place stack =
      .done (.error .stackUnderflow, stack) := by
  have underflow : popOperands argumentCount staticType stack =
      .done (.error .stackUnderflow, stack) := by
    simp only [popOperands]
    split
    · next counted =>
      have fewer := missing.resolve_left (Nat.not_le.2 counted)
      simp only [popValues, Stack.popMany_of_lt fewer]
    · rfl
  change Action.bind (Action.bind (popOperands argumentCount staticType stack) _) _ = _
  rw [underflow]
  rfl

/--
What a method call does on any stack, where its operands are the arguments and, unless the method is
static, a receiver. If there are more of them than a word counts or than operands on the stack, it
fails, without a call and with the stack as it was. Otherwise it takes that many operands from the
top and makes one call, with their values from the bottom up. An error that is answered ends it; a
value that is answered goes on top of the rest. Only where no operand was taken from a full stack
does the value not fit.
-/
theorem calls_once (method : String) (argumentCount : UInt64) (staticType : Option String)
    (length place : Nat) (stack : Stack) :
    let count := argumentCount.toNat + if staticType.isNone then 1 else 0
    let executed := (invoke method argumentCount staticType).execute length place stack
    let rest := stack.toList.take (stack.depth - count)
    let operands := stack.toList.drop (stack.depth - count)
    let call : Call := .invoke (.call method staticType) (operands.map Operand.value)
    (UInt64.size ≤ count ∨ stack.depth < count →
      executed = .done (.error .stackUnderflow, stack)) ∧
      (count < UInt64.size → count ≤ stack.depth →
        rest ++ operands = stack.toList ∧ operands.length = count ∧
        ∀ {State : Type} (target : Target State) (state : State),
          let answer : Except EvaluationError Value := (target.answer call state).1
          ∃ outcome left,
            executed.exchanges target state = [⟨call, answer⟩] ∧
            executed.perform target state = ((outcome, left), (target.answer call state).2) ∧
            left.limit = stack.limit ∧
            (∀ error, answer = .error error → outcome = .error error ∧ left.toList = rest) ∧
            (∀ value, answer = .ok value → 0 < count ∨ stack.depth < stack.limit →
              outcome = .ok (place + 1) ∧ left.toList = rest ++ [.plain value]) ∧
            (∀ value, answer = .ok value → count = 0 → stack.depth = stack.limit →
              outcome = .error (.stackOverflow stack.limit) ∧ left = stack)) := by
  intro count executed rest operands call
  refine ⟨fun missing => execute_invoke_of_missing missing method length place, ?_⟩
  intro counted enough
  rcases Stack.popMany_of_le enough with ⟨after, popped, (afterList : after.toList = rest)⟩
  have executedEq : executed = .ask call fun answer => .done (returned (place + 1) after answer) :=
    execute_invoke counted popped method length place
  refine ⟨List.take_append_drop _ _, ?_, ?_⟩
  · have lengthEq : stack.toList.length = stack.depth := List.length_reverse
    rw [List.length_drop, lengthEq]
    omega
  · intro State target state answer
    have limitEq := (limit_returned (place + 1) after answer).trans (Stack.limit_popMany popped)
    refine ⟨(returned (place + 1) after answer).1, (returned (place + 1) after answer).2,
      by rw [executedEq]; rfl, by rw [executedEq]; rfl, limitEq, ?_, ?_, ?_⟩
    · intro error failed
      rw [failed]
      exact ⟨rfl, afterList⟩
    · intro value isAnswered hasRoom
      rw [isAnswered, ← afterList]
      exact returned_of_room popped hasRoom (place + 1) value
    · intro value isAnswered noOperand full
      rw [noOperand] at popped
      rw [isAnswered, Stack.eq_of_popMany_zero popped, returned_of_full full]
      exact ⟨rfl, rfl⟩

end InstructionKind

end Watch
