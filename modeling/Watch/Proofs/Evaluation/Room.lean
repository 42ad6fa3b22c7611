import Watch.Proofs.Evaluation.Performance

/-!
# Room on the stack

The depth limit stops an instruction only by refusing to put an operand on the stack. An instruction
that an answer of the suspended program stops with the same error has not run out of room; the two
are told apart by the exchanges (`Action.isOutOfRoom`), since an instruction ends at once when a
call is answered with an error (`Evaluation.Composed.isOk_of_reaches`).

With more room on the stack an instruction does the same, or it had run out of room and goes on from
there, after the same exchanges (`InstructionKind.scales_execute`).
-/

namespace Watch

namespace Stack

/-- A stack with room for some more operands. -/
def widen (stack : Stack) (extra : Nat) : Stack :=
  ⟨stack.operands, stack.room + extra⟩

variable {stack after : Stack} (extra : Nat)

theorem push_widen {operand : Operand} (pushed : stack.push operand = .ok after) :
    (stack.widen extra).push operand = .ok (after.widen extra) := by
  rcases stack with ⟨operands, _ | room⟩
  · contradiction
  · cases pushed
    simp only [push, widen, Nat.add_right_comm room 1 extra]

theorem push_eq_error {operand : Operand} {error : EvaluationError}
    (refused : stack.push operand = .error error) : error = .stackOverflow stack.depth := by
  rcases stack with ⟨operands, _ | room⟩
  · cases refused
    rfl
  · contradiction

/-- A stack with more room gives the same operands. -/
theorem pop_widen (stack : Stack) (extra : Nat) :
    (stack.widen extra).pop =
      stack.pop.map fun popped => (popped.1, popped.2.widen extra) := by
  rcases stack with ⟨_ | ⟨top, rest⟩, room⟩
  · rfl
  · simp only [pop, widen, Except.map, Nat.add_right_comm room extra 1]

theorem popMany_widen (stack : Stack) (extra count : Nat) :
    (stack.widen extra).popMany count =
      (stack.popMany count).map fun popped => (popped.1, popped.2.widen extra) := by
  simp only [popMany, widen, depth]
  by_cases enough : count ≤ stack.operands.length
  · simp only [enough, if_true, Except.map, Nat.add_right_comm stack.room extra count]
  · simp only [enough, if_false, Except.map]

end Stack

namespace EvaluationError

/-- Whether an error says that an operand does not fit on the stack. -/
def isStackOverflow : EvaluationError → Bool
  | .stackOverflow _ => true
  | _ => false

end EvaluationError

namespace Action

variable {Result State : Type}

/-- Whether something failed because an operand did not fit on the stack. -/
def isOverflow : Except EvaluationError Result → Bool
  | .error error => error.isStackOverflow
  | .ok _ => false

/--
Whether an instruction, or a part of it, runs out of room: it fails because an operand does not fit
on the stack, and not because one of its calls is answered with an error.
-/
def isOutOfRoom (action : Action (Except EvaluationError Result × Stack)) (target : Target State)
    (state : State) : Bool :=
  isOverflow (action.perform target state).1.1 &&
    (action.exchanges target state).all fun exchange => exchange.answer.isOk

theorem isOutOfRoom_iff {action : Action (Except EvaluationError Result × Stack)}
    {target : Target State} {state : State} :
    action.isOutOfRoom target state = true ↔
      isOverflow (action.perform target state).1.1 = true ∧
        ∀ exchange ∈ action.exchanges target state, exchange.answer.isOk = true := by
  rw [isOutOfRoom, Bool.and_eq_true, List.all_eq_true]

end Action

namespace Evaluation

variable {Result Next State : Type}

/-- An evaluation that succeeds got no error for an answer. -/
theorem Composed.isOk_of_reaches {allowed : Call → Prop} {evaluation : Evaluation Result}
    {stack after : Stack} {exchanges : List Exchange} {result : Result}
    (composed : evaluation.Composed allowed)
    (reaches : (evaluation stack).Reaches exchanges (.ok result, after)) :
    ∀ exchange ∈ exchanges, exchange.answer.isOk = true := by
  induction composed generalizing stack after exchanges with
  | lift found => simp [(reaches_lift reaches).1]
  | ask isAllowed =>
      rw [(reaches_ask reaches).1]
      exact List.forall_mem_singleton.2 rfl
  | pushValue value => simp [(reaches_push reaches).1]
  | pushSlot isAllowed =>
      rcases reaches_bind reaches with ⟨error, ⟨⟩, _⟩ | ⟨value, middle, _, _, first, second, rfl⟩
      rw [(reaches_ask first).1, (reaches_push second).1]
      exact List.forall_mem_singleton.2 rfl
  | pop => simp [(reaches_pop reaches).1]
  | popValues count => simp [(reaches_popValues reaches).1]
  | bind first rest ihFirst ihRest =>
      rcases reaches_bind reaches with ⟨error, ⟨⟩, _⟩ | ⟨found, middle, earlier, later, before,
        behind, rfl⟩
      intro exchange member
      rcases List.mem_append.1 member with inLater | inEarlier
      · exact ihRest found behind exchange inLater
      · exact ihFirst before exchange inEarlier

/--
With more room on the stack an evaluation does the same, or else it has run out of room and goes on
after the exchanges that it has had by then.
-/
def Scales (evaluation : Evaluation Result) : Prop :=
  ∀ {State : Type} (target : Target State) (state : State) (stack : Stack) (extra : Nat),
    ((evaluation (stack.widen extra)).perform target state =
        ((((evaluation stack).perform target state).1.1,
          ((evaluation stack).perform target state).1.2.widen extra),
          ((evaluation stack).perform target state).2) ∧
      (evaluation (stack.widen extra)).exchanges target state =
        (evaluation stack).exchanges target state) ∨
    ((evaluation stack).isOutOfRoom target state = true ∧
      (evaluation stack).exchanges target state <:+
        (evaluation (stack.widen extra)).exchanges target state)

theorem suffix_exchanges_bind (evaluation : Evaluation Result) (next : Result → Evaluation Next)
    (target : Target State) (state : State) (stack : Stack) :
    (evaluation stack).exchanges target state <:+
      ((evaluation >>= next) stack).exchanges target state :=
  ⟨_, (Action.exchanges_bind target _ _ _).symm⟩

theorem scales_bind {evaluation : Evaluation Result} {next : Result → Evaluation Next}
    {allowed : Call → Prop} (composed : evaluation.Composed allowed) (first : evaluation.Scales)
    (rest : ∀ result, (next result).Scales) : (evaluation >>= next).Scales := by
  intro State target state stack extra
  rcases performed : (evaluation stack).perform target state with
    ⟨⟨error | result, middle⟩, middleState⟩
  · rcases first target state stack extra with ⟨wide, exchangesEq⟩ | ⟨outOfRoom, suffix⟩
    · rw [performed] at wide
      left
      rw [perform_bind_of_error performed, perform_bind_of_error wide,
        exchanges_bind_of_error performed, exchanges_bind_of_error wide]
      exact ⟨rfl, exchangesEq⟩
    · rw [Action.isOutOfRoom_iff, performed] at outOfRoom
      right
      rw [Action.isOutOfRoom_iff, perform_bind_of_error performed,
        exchanges_bind_of_error performed]
      exact ⟨outOfRoom, suffix.trans (suffix_exchanges_bind _ _ _ _ _)⟩
  · rcases first target state stack extra with ⟨wide, exchangesEq⟩ | ⟨outOfRoom, -⟩
    · rw [performed] at wide
      rw [Action.isOutOfRoom_iff, perform_bind_of_ok performed, perform_bind_of_ok wide,
        exchanges_bind_of_ok performed, exchanges_bind_of_ok wide, exchangesEq]
      rcases rest result target middleState middle extra with ⟨wideRest, restEq⟩ | ⟨outOfRoom,
        suffix⟩
      · left
        exact ⟨wideRest, by rw [restEq]⟩
      · rw [Action.isOutOfRoom_iff] at outOfRoom
        right
        refine ⟨⟨outOfRoom.1, ?_⟩, ?_⟩
        · have reaches := Action.reaches_perform target (evaluation stack) state
          rw [performed] at reaches
          intro exchange member
          rcases List.mem_append.1 member with inLater | inEarlier
          · exact outOfRoom.2 exchange inLater
          · exact composed.isOk_of_reaches reaches exchange inEarlier
        · rcases suffix with ⟨more, moreEq⟩
          exact ⟨more, by rw [← List.append_assoc, moreEq]⟩
    · rw [Action.isOutOfRoom_iff, performed] at outOfRoom
      cases outOfRoom.1

theorem scales_push (operand : Operand) : (push operand).Scales := by
  intro State target state stack extra
  rw [push, push]
  rcases pushed : stack.push operand with error | after
  · right
    cases Stack.push_eq_error pushed
    exact ⟨rfl, List.nil_suffix⟩
  · left
    rw [Stack.push_widen extra pushed]
    exact ⟨rfl, rfl⟩

theorem scales_ask (call : Call) : (ask call).Scales :=
  fun _ _ _ _ => .inl ⟨rfl, rfl⟩

theorem scales_pop : pop.Scales := by
  intro State target state stack extra
  left
  rw [pop, pop, Stack.pop_widen]
  cases stack.pop <;> exact ⟨rfl, rfl⟩

theorem scales_popValues (count : Nat) : (popValues count).Scales := by
  intro State target state stack extra
  left
  rw [popValues, popValues, Stack.popMany_widen]
  cases stack.popMany count <;> exact ⟨rfl, rfl⟩

theorem Composed.scales {allowed : Call → Prop} {evaluation : Evaluation Result}
    (composed : evaluation.Composed allowed) : evaluation.Scales := by
  induction composed with
  | lift result => exact fun _ _ _ _ => .inl ⟨rfl, rfl⟩
  | ask isAllowed => exact scales_ask _
  | pushValue value => exact scales_push _
  | pushSlot isAllowed =>
      exact scales_bind (.ask isAllowed) (scales_ask _) fun value => scales_push _
  | pop => exact scales_pop
  | popValues count => exact scales_popValues count
  | bind first rest ihFirst ihRest => exact scales_bind first ihFirst ihRest

end Evaluation

/-- With more room on the stack an instruction does the same, or it has run out of room. -/
theorem InstructionKind.scales_execute (kind : InstructionKind) (length place : Nat) :
    (kind.execute length place).Scales :=
  (kind.composed_execute length place).scales

end Watch
