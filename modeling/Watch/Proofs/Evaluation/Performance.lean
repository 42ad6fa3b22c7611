import Watch.Proofs.Evaluation.Exchanges

/-!
# Performing an evaluation

An evaluation that goes on from the result of another is performed by performing one after the
other (`Evaluation.perform_bind_of_ok`, `Evaluation.perform_bind_of_error`), and its exchanges are
those of the two (`Action.exchanges_bind`). All instructions are composed of the same few parts
(`InstructionKind.composed_execute`); what is shown for the parts and passes on to what goes on from
them holds of every instruction, over every suspended program.
-/

namespace Watch

namespace Action

variable {Result Next State : Type} (target : Target State)

theorem perform_bind (action : Action Result) (next : Result → Action Next) (state : State) :
    (action.bind next).perform target state =
      (next (action.perform target state).1).perform target (action.perform target state).2 := by
  induction action generalizing state with
  | done result => rfl
  | ask call after ih => exact ih _ _

theorem perform_ask {call : Call} {answer : call.Answer} {state after : State}
    (answered : target.answer call state = (answer, after)) (next : call.Answer → Action Result) :
    (Action.ask call next).perform target state = (next answer).perform target after := by
  rw [perform, answered]

/-- The exchanges of an action with a suspended program, the latest first. -/
def exchanges : Action Result → State → List Exchange
  | .done _, _ => []
  | .ask call next, state =>
    let (answer, after) := target.answer call state
    (next answer).exchanges after ++ [⟨call, answer⟩]

/-- A journal is put behind the exchanges of an action, and changes nothing else. -/
theorem perform_journaled_eq (action : Action Result) (state : State) (journal : List Exchange) :
    action.perform target.journaled (state, journal) =
      ((action.perform target state).1, (action.perform target state).2,
        action.exchanges target state ++ journal) := by
  induction action generalizing state journal with
  | done result => rfl
  | ask call next ih =>
      refine (ih _ _ _).trans ?_
      simp only [perform, exchanges, List.append_assoc, List.singleton_append]

theorem exchanges_journaled (action : Action Result) (state : State)
    (journal : List Exchange) :
    action.exchanges target.journaled (state, journal) = action.exchanges target state := by
  induction action generalizing state journal with
  | done result => rfl
  | ask call next ih =>
      exact congrArg (· ++ [⟨call, (target.answer call state).1⟩]) (ih _ _ _)

theorem reaches_perform (action : Action Result) (state : State) :
    action.Reaches (action.exchanges target state) (action.perform target state).1 := by
  induction action generalizing state with
  | done result => exact .done result
  | ask call next ih => exact .ask _ (ih _ _)

theorem exchanges_bind (action : Action Result) (next : Result → Action Next) (state : State) :
    (action.bind next).exchanges target state =
      (next (action.perform target state).1).exchanges target (action.perform target state).2 ++
        action.exchanges target state := by
  induction action generalizing state with
  | done result => simp only [bind, exchanges, perform, List.append_nil]
  | ask call after ih => simp only [bind, exchanges, perform, ih, List.append_assoc]

end Action

namespace Evaluation

variable {Result Next State : Type} {target : Target State} {state middleState : State}
  {stack middle : Stack} {evaluation : Evaluation Result} {next : Result → Evaluation Next}

theorem perform_bind_of_ok {result : Result}
    (performed : (evaluation stack).perform target state = ((.ok result, middle), middleState)) :
    ((evaluation >>= next) stack).perform target state =
      (next result middle).perform target middleState := by
  refine (Action.perform_bind target _ _ _).trans ?_
  rw [performed]

theorem perform_bind_of_error {error : EvaluationError}
    (performed : (evaluation stack).perform target state = ((.error error, middle), middleState)) :
    ((evaluation >>= next) stack).perform target state =
      ((.error error, middle), middleState) := by
  refine (Action.perform_bind target _ _ _).trans ?_
  rw [performed]
  rfl

theorem exchanges_bind_of_ok {result : Result}
    (performed : (evaluation stack).perform target state = ((.ok result, middle), middleState)) :
    ((evaluation >>= next) stack).exchanges target state =
      (next result middle).exchanges target middleState ++
        (evaluation stack).exchanges target state := by
  refine (Action.exchanges_bind target _ _ _).trans ?_
  rw [performed]

theorem exchanges_bind_of_error {error : EvaluationError}
    (performed : (evaluation stack).perform target state = ((.error error, middle), middleState)) :
    ((evaluation >>= next) stack).exchanges target state =
      (evaluation stack).exchanges target state := by
  refine (Action.exchanges_bind target _ _ _).trans ?_
  rw [performed]
  rfl

/-- What goes on from another evaluation succeeds only if that does. -/
theorem ok_of_perform_bind {after : Stack} {final : State} {result : Next}
    (performed : ((evaluation >>= next) stack).perform target state =
      ((.ok result, after), final)) :
    ∃ found middle middleState,
      (evaluation stack).perform target state = ((.ok found, middle), middleState) ∧
        (next found middle).perform target middleState = ((.ok result, after), final) := by
  rcases first : (evaluation stack).perform target state with ⟨⟨error | found, middle⟩, middleState⟩
  · rw [perform_bind_of_error first] at performed
    cases performed
  · rw [perform_bind_of_ok first] at performed
    exact ⟨found, middle, middleState, rfl, performed⟩

end Evaluation

/-- Doing something and going on at the next place changes nothing but the result. -/
theorem InstructionKind.perform_thenNext_eq {State : Type} (target : Target State) (state : State)
    (evaluation : Evaluation Unit) (stack : Stack) (next : Nat) :
    (thenNext next evaluation stack).perform target state =
      ((((evaluation stack).perform target state).1.1.map fun _ => next,
        ((evaluation stack).perform target state).1.2),
        ((evaluation stack).perform target state).2) := by
  rcases performed : (evaluation stack).perform target state with ⟨⟨error | done, middle⟩, final⟩
  · exact Evaluation.perform_bind_of_error performed
  · exact Evaluation.perform_bind_of_ok performed

/-- Every instruction is composed of parts. -/
theorem InstructionKind.composed_execute (kind : InstructionKind) (length place : Nat) :
    (kind.execute length place).Composed fun _ => True := by
  cases kind.form length place with
  | look isLook looks executeEq =>
      rw [executeEq]
      exact (looks.storeless.mono fun _ _ => trivial).bind fun _ => .pure _
  | change isChange changes executeEq =>
      rw [executeEq]
      exact (changes.fetchless.mono fun _ _ => trivial).bind fun _ => .pure _
  | other isNoLook inert => exact inert.mono fun _ _ => trivial

end Watch
