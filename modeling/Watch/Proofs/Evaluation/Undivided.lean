import Watch.Frame.Invocation
import Watch.Proofs.Evaluation.Performance
import Watch.Proofs.Value.Coercion

/-!
# What no division by zero stops

Taking operands, putting operands on the stack and conversions fail with errors of their own, so
that over a suspended program that answers no call with a division by zero all that is composed of
them cannot fail with one (`Evaluation.Undivided`). This covers every instruction but the binary
operators (`InstructionKind.undivided_execute`). A frame is such a program
(`Frame.undivided_target`).
-/

namespace Watch

theorem Value.Complains.ne_divisionByZero {Result : Type} {value : Value}
    {result : Except EvaluationError Result} (complains : value.Complains result) :
    result ≠ .error .divisionByZero := by
  intro failed
  rcases complains _ failed with ⟨expected, ⟨⟩⟩

/-- Suspended programs that answer no call with a division by zero. -/
def Target.Undivided {State : Type} (target : Target State) : Prop :=
  ∀ call state, (target.answer call state).1 ≠ .error .divisionByZero

namespace Frame

theorem fetch_ne_divisionByZero (frame : Frame) (location : Location) :
    frame.fetch location ≠ .error .divisionByZero := by
  have missing : ∀ (cell : Option Value) (complaint : String),
      found cell complaint ≠ .error .divisionByZero := by
    rintro (_ | value) complaint ⟨⟩
  unfold fetch
  split
  · exact missing _ _
  · exact missing _ _
  · split
    · rintro ⟨⟩
    · exact missing _ _
  · exact missing _ _
  · split
    · rintro ⟨⟩
    · split <;> rintro ⟨⟩

theorem callMethod_ne_divisionByZero (receiver : Value) (method : String)
    (arguments : List Value) : receiver.callMethod method arguments ≠ .error .divisionByZero := by
  unfold Value.callMethod
  split
  · rintro ⟨⟩
  · split
    · rintro ⟨⟩
    · rintro ⟨⟩
    · cases receiver <;> rintro ⟨⟩
    · split <;> rintro ⟨⟩
    · rintro ⟨⟩

theorem carryOut_ne_divisionByZero (operation : TargetOperation) (operands : List Value) :
    operation.carryOut operands ≠ .error .divisionByZero := by
  unfold TargetOperation.carryOut
  split
  case h_5 => exact callMethod_ne_divisionByZero _ _ _
  all_goals rintro ⟨⟩

theorem undivided_target : Frame.target.Undivided := by
  intro call state failed
  cases call with
  | fetch location => exact fetch_ne_divisionByZero _ _ failed
  | store location value =>
      have noDivision := fetch_ne_divisionByZero state.frame location
      simp only [Frame.target, Frame.answer, Frame.store] at failed
      cases fetched : state.frame.fetch location with
      | error error =>
          rw [fetched] at failed noDivision
          cases failed
          exact noDivision rfl
      | ok old =>
          rw [fetched] at failed
          cases failed
  | invoke operation operands => exact carryOut_ne_divisionByZero _ _ failed

end Frame

namespace Evaluation

variable {State Result Next : Type} {target : Target State}

/-- Evaluations that do not fail with a division by zero. -/
def Undivided (target : Target State) (evaluation : Evaluation Result) : Prop :=
  ∀ stack state, ((evaluation stack).perform target state).1.1 ≠ .error .divisionByZero

namespace Undivided

theorem bind {evaluation : Evaluation Result} {next : Result → Evaluation Next}
    (first : evaluation.Undivided target) (rest : ∀ result, (next result).Undivided target) :
    (evaluation >>= next).Undivided target := by
  intro stack state
  have noDivision := first stack state
  rcases performed : (evaluation stack).perform target state with
    ⟨⟨error | result, middle⟩, middleState⟩
  · rw [perform_bind_of_error performed]
    rw [performed] at noDivision
    intro failed
    cases failed
    exact noDivision rfl
  · rw [perform_bind_of_ok performed]
    exact rest result middle middleState

theorem lift {result : Except EvaluationError Result}
    (noDivision : result ≠ .error .divisionByZero) : (lift result).Undivided target :=
  fun _ _ => noDivision

theorem pure (result : Result) : (Pure.pure result : Evaluation Result).Undivided target := by
  rintro stack state ⟨⟩

theorem converted {value : Value} {result : Except EvaluationError Result}
    (complains : value.Complains result) : (Evaluation.lift result).Undivided target :=
  lift complains.ne_divisionByZero

theorem convertTo (value : Value) (tag : TypeTag) :
    (Evaluation.lift (value.convertTo tag)).Undivided target :=
  converted (value.complains_convertTo tag)

theorem ask (undivided : target.Undivided) (call : Call) : (ask call).Undivided target :=
  fun _ state => undivided call state

theorem push (operand : Operand) : (push operand).Undivided target := by
  rintro ⟨operands, _ | room⟩ state ⟨⟩

theorem pushValue (value : Value) : (pushValue value).Undivided target :=
  push (.plain value)

theorem pushSlot (undivided : target.Undivided) (location : Location) :
    (pushSlot location).Undivided target :=
  (ask undivided _).bind fun value => push (.slot location value)

theorem pop : pop.Undivided target := by
  rintro ⟨_ | ⟨operand, rest⟩, room⟩ state ⟨⟩

theorem popValue : popValue.Undivided target :=
  pop.bind fun operand => pure operand.value

theorem popSlot : popSlot.Undivided target := by
  refine pop.bind fun operand => ?_
  cases operand with
  | plain value => rintro stack state ⟨⟩
  | slot location value => exact pure _

theorem popValues (count : Nat) : (popValues count).Undivided target := by
  intro stack state
  unfold Evaluation.popValues Stack.popMany
  by_cases enough : count ≤ stack.depth
  · rw [if_pos enough]
    rintro ⟨⟩
  · rw [if_neg enough]
    rintro ⟨⟩

end Undivided

end Evaluation

open Evaluation

theorem TypedUnary.complains_compute (operator : TypedUnary) (operand : Value) :
    operand.Complains (operator.compute operand) := by
  unfold compute
  split
  · split
    · exact operand.complains_asBoolean.map _
    · exact operand.complains_ok _
  · exact operand.complains_asInt.map _
  · exact operand.complains_asLong.map _
  · exact operand.complains_asFloat.map _
  · exact operand.complains_asDouble.map _
  · exact operand.complains_ok _

theorem TypedUnary.neighbour_ne_divisionByZero (operator : TypedUnary) (operand : Value) :
    operator.neighbour operand ≠ .error .divisionByZero := by
  unfold neighbour
  simp only
  split
  · exact (operand.complains_asInt.map _).ne_divisionByZero
  · exact (operand.complains_asLong.map _).ne_divisionByZero
  · exact (operand.complains_asFloat.map _).ne_divisionByZero
  · exact (operand.complains_asDouble.map _).ne_divisionByZero
  · rintro ⟨⟩

variable {State : Type} {target : Target State}

theorem TypedUnary.undivided_execute (undivided : target.Undivided) (operator : TypedUnary) :
    operator.execute.Undivided target := by
  unfold execute
  split
  · refine Undivided.popSlot.bind fun slot => ?_
    refine (Undivided.lift (operator.neighbour_ne_divisionByZero _)).bind fun stepped => ?_
    refine (Undivided.convertTo _ _).bind fun updated => ?_
    refine (Undivided.ask undivided _).bind fun _ => ?_
    exact (Undivided.convertTo _ _).bind .pushValue
  · refine Undivided.popValue.bind fun operand => ?_
    refine (Undivided.converted (operator.complains_compute operand)).bind fun computed => ?_
    exact (Undivided.convertTo _ _).bind .pushValue

namespace InstructionKind

theorem undivided_thenNext {evaluation : Evaluation Unit} (undivided : evaluation.Undivided target)
    (next : Nat) : (thenNext next evaluation).Undivided target :=
  undivided.bind fun _ => .pure next

theorem undivided_jumpTo (place : UInt64) (length : Nat) :
    (lift (jumpTo place length)).Undivided target := by
  apply Undivided.lift
  unfold jumpTo
  split <;> rintro ⟨⟩

theorem undivided_readField (undivided : target.Undivided) (name : String) :
    (readField name).Undivided target := by
  refine Undivided.popValue.bind fun operand => ?_
  split
  · exact .pushSlot undivided _
  · rintro stack state ⟨⟩
  · exact .converted (Value.complains_coercion _ _)

theorem undivided_readElement (undivided : target.Undivided) : readElement.Undivided target := by
  refine Undivided.popValue.bind fun operand => ?_
  refine (Undivided.converted operand.complains_asInt).bind fun index => ?_
  refine Undivided.popValue.bind fun array => ?_
  split
  · split
    · exact .pushSlot undivided _
    · rintro stack state ⟨⟩
  · rintro stack state ⟨⟩
  · exact .converted (Value.complains_coercion _ _)

theorem undivided_readLength : readLength.Undivided target := by
  refine Undivided.popValue.bind fun operand => ?_
  split
  · exact .pushValue _
  · rintro stack state ⟨⟩
  · exact .converted (Value.complains_coercion _ _)

theorem undivided_assignTo (undivided : target.Undivided) (result : TypeTag) :
    (assignTo result).Undivided target := by
  refine Undivided.popValue.bind fun operand => Undivided.popSlot.bind fun slot => ?_
  refine (Undivided.convertTo _ _).bind fun value => ?_
  exact (Undivided.ask undivided _).bind fun _ => .pushValue value

theorem undivided_popOperands (argumentCount : UInt64) (staticType : Option String) :
    (popOperands argumentCount staticType).Undivided target := by
  simp only [popOperands]
  split
  · exact .popValues _
  · rintro stack state ⟨⟩

theorem undivided_callMethod (undivided : target.Undivided) (method : String)
    (argumentCount : UInt64) (staticType : Option String) :
    (callMethod method argumentCount staticType).Undivided target := by
  refine (undivided_popOperands argumentCount staticType).bind fun operands => ?_
  exact (Undivided.ask undivided _).bind .pushValue

theorem undivided_branch (truth : Bool) (place : UInt64) (length next : Nat) :
    (branch truth place length next).Undivided target := by
  refine Undivided.popValue.bind fun operand => ?_
  refine (Undivided.converted operand.complains_asBoolean).bind fun decision => ?_
  split
  · exact undivided_jumpTo place length
  · exact .pure _

theorem undivided_skipRight (connective : Connective) (place : UInt64) (length next : Nat) :
    (skipRight connective place length next).Undivided target := by
  refine Undivided.popValue.bind fun left => ?_
  refine (Undivided.converted left.complains_asBoolean).bind fun decision => ?_
  split
  · exact (Undivided.pushValue _).bind fun _ => undivided_jumpTo place length
  · exact (Undivided.pushValue _).bind fun _ => .pure _

/-- Only a binary operator fails with a division by zero of its own. -/
theorem undivided_execute (undivided : target.Undivided) {kind : InstructionKind}
    (noBinary : ∀ operator, kind ≠ .binary operator) (length place : Nat) :
    (kind.execute length place).Undivided target := by
  cases kind with
  | pushLiteral value => exact undivided_thenNext (.pushValue value) _
  | pushLocal name => exact undivided_thenNext (.pushSlot undivided _) _
  | pushThis => exact undivided_thenNext ((Undivided.ask undivided _).bind .pushValue) _
  | pushField name => exact undivided_thenNext (undivided_readField undivided name) _
  | pushStaticField typeName name => exact undivided_thenNext (.pushSlot undivided _) _
  | pushElement => exact undivided_thenNext (undivided_readElement undivided) _
  | arrayLength => exact undivided_thenNext undivided_readLength _
  | binary operator => exact absurd rfl (noBinary operator)
  | unary operator => exact undivided_thenNext (operator.undivided_execute undivided) _
  | assign result => exact undivided_thenNext (undivided_assignTo undivided result) _
  | cast tag =>
      refine undivided_thenNext (Undivided.popValue.bind fun operand => ?_) _
      exact (Undivided.convertTo _ _).bind .pushValue
  | invoke method argumentCount staticType =>
      exact undivided_thenNext (undivided_callMethod undivided method argumentCount staticType) _
  | jump place => exact undivided_jumpTo place length
  | jumpIf truth place => exact undivided_branch truth place length _
  | shortCircuit connective place => exact undivided_skipRight connective place length _
  | pop => exact undivided_thenNext (Undivided.pop.bind fun _ => .pure ()) _
  | noop => exact .pure _

end InstructionKind

end Watch
