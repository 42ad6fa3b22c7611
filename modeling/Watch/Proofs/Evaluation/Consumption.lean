import Watch.Proofs.Evaluation.Limit

/-!
# What an instruction that fails leaves on the stack

An instruction takes its operands first and puts its result on the stack last, and putting it there
is what fails last, if at all. Until then it has only taken operands (`Evaluation.Consumes`), so
that where it fails the values on the stack are the lowest ones of those that were there
(`Evaluation.ConsumesOnFailure`). Nothing is assumed about the answers of the suspended program.

The jump of a connective is the one exception to the order: its left operand is back on the stack
before the target of the jump is looked at. The operand is a plain value then, but the value is the
same, so that the statement holds of every instruction
(`InstructionKind.consumesOnFailure_execute`).
-/

namespace Watch

namespace Stack

/-- The values on a stack, the one on top first. -/
def values (stack : Stack) : List Value :=
  stack.operands.map Operand.value

variable {stack after : Stack}

theorem values_pop {operand : Operand} (popped : stack.pop = .ok (operand, after)) :
    after.values <:+ stack.values := by
  rw [values, values, operands_pop popped]
  exact List.suffix_cons _ _

theorem values_popMany {count : Nat} {operands : List Operand}
    (popped : stack.popMany count = .ok (operands, after)) : after.values <:+ stack.values := by
  rw [values, values, operands_popMany popped, List.map_drop]
  exact List.drop_suffix _ _

end Stack

namespace Evaluation

variable {Result Next : Type} {evaluation : Evaluation Result} {next : Result → Evaluation Next}

/-- Wherever an evaluation ends, it has put nothing on the stack. -/
def Consumes (evaluation : Evaluation Result) : Prop :=
  ∀ stack, (evaluation stack).Always fun outcome => outcome.2.values <:+ stack.values

/-- Where an evaluation fails, the values that are left are the lowest of those that were there. -/
def ConsumesOnFailure (evaluation : Evaluation Result) : Prop :=
  ∀ stack, (evaluation stack).Always fun outcome =>
    ∀ error, outcome.1 = .error error → outcome.2.values <:+ stack.values

namespace Consumes

theorem bind (first : evaluation.Consumes) (rest : ∀ result, (next result).Consumes) :
    (evaluation >>= next).Consumes := by
  intro stack
  apply (first stack).bind
  rintro ⟨outcome, middle⟩ taken
  cases outcome with
  | error error => exact taken
  | ok result => exact (rest result middle).mono fun _ takenToo => takenToo.trans taken

/-- Of an evaluation that takes operands first, only what follows can put some on the stack. -/
theorem bind_onFailure (first : evaluation.Consumes)
    (rest : ∀ result, (next result).ConsumesOnFailure) :
    (evaluation >>= next).ConsumesOnFailure := by
  intro stack
  apply (first stack).bind
  rintro ⟨outcome, middle⟩ taken
  cases outcome with
  | error error => exact fun _ _ => taken
  | ok result =>
      refine (rest result middle).mono fun _ takenToo error failed => ?_
      exact (takenToo error failed).trans taken

theorem onFailure (consumes : evaluation.Consumes) : evaluation.ConsumesOnFailure :=
  fun stack => (consumes stack).mono fun _ taken _ _ => taken

theorem lift (result : Except EvaluationError Result) : (lift result).Consumes :=
  fun _ => List.suffix_rfl

theorem ask (call : Call) : (ask call).Consumes :=
  fun _ _ => List.suffix_rfl

theorem pop : pop.Consumes := by
  intro stack
  rw [Evaluation.pop]
  split
  · next operand after popped => exact Stack.values_pop popped
  · exact List.suffix_rfl

theorem popValue : popValue.Consumes :=
  pop.bind fun operand => lift (.ok operand.value)

theorem popSlot : popSlot.Consumes := by
  refine pop.bind fun operand => ?_
  cases operand with
  | plain value => exact lift _
  | slot location value => exact lift _

theorem popValues (count : Nat) : (popValues count).Consumes := by
  intro stack
  rw [Evaluation.popValues]
  split
  · next operands after popped => exact Stack.values_popMany popped
  · exact List.suffix_rfl

end Consumes

theorem Steady.consumes (steady : evaluation.Steady) : evaluation.Consumes := by
  induction steady with
  | lift result => exact .lift result
  | invoke operation operands => exact .ask _
  | bind first rest ihFirst ihRest => exact ihFirst.bind ihRest

namespace ConsumesOnFailure

theorem push (operand : Operand) : (push operand).ConsumesOnFailure := by
  intro stack
  rw [Evaluation.push]
  split
  · rintro error ⟨⟩
  · exact fun _ _ => List.suffix_rfl

theorem pushValue (value : Value) : (pushValue value).ConsumesOnFailure :=
  push (.plain value)

theorem pushSlot (location : Location) : (pushSlot location).ConsumesOnFailure :=
  (Consumes.ask _).bind_onFailure fun value => push (.slot location value)

/-- What cannot fail any more may follow. -/
theorem thenNext {evaluation : Evaluation Unit} (consumes : evaluation.ConsumesOnFailure)
    (place : Nat) : (InstructionKind.thenNext place evaluation).ConsumesOnFailure := by
  intro stack
  apply (consumes stack).bind
  rintro ⟨outcome, middle⟩ taken
  cases outcome with
  | error error => exact fun _ _ => taken error rfl
  | ok done => rintro error ⟨⟩

end ConsumesOnFailure

end Evaluation

open Evaluation

theorem TypedBinary.consumesOnFailure_execute (operator : TypedBinary) :
    operator.execute.ConsumesOnFailure := by
  rw [execute]
  refine Consumes.popValue.bind_onFailure fun right => ?_
  split
  · refine Consumes.popSlot.bind_onFailure fun slot => ?_
    refine (operator.steady_valueOf slot.2 right).consumes.bind_onFailure fun value => ?_
    exact (Consumes.ask _).bind_onFailure fun _ => .pushValue value
  · refine Consumes.popValue.bind_onFailure fun left => ?_
    exact (operator.steady_valueOf left right).consumes.bind_onFailure .pushValue

theorem TypedUnary.consumesOnFailure_execute (operator : TypedUnary) :
    operator.execute.ConsumesOnFailure := by
  rw [execute]
  split
  · refine Consumes.popSlot.bind_onFailure fun slot => ?_
    refine (Consumes.lift _).bind_onFailure fun stepped => ?_
    refine (Consumes.lift _).bind_onFailure fun updated => ?_
    refine (Consumes.ask _).bind_onFailure fun _ => ?_
    exact (Consumes.lift _).bind_onFailure .pushValue
  · refine Consumes.popValue.bind_onFailure fun operand => ?_
    refine (Consumes.lift _).bind_onFailure fun computed => ?_
    exact (Consumes.lift _).bind_onFailure .pushValue

namespace InstructionKind

theorem consumesOnFailure_readField (name : String) : (readField name).ConsumesOnFailure := by
  refine Consumes.popValue.bind_onFailure fun operand => ?_
  split
  · exact .pushSlot _
  · exact (Consumes.lift _).onFailure
  · exact (Consumes.lift _).onFailure

theorem consumesOnFailure_readElement : readElement.ConsumesOnFailure := by
  refine Consumes.popValue.bind_onFailure fun index => ?_
  refine (Consumes.lift _).bind_onFailure fun number => ?_
  refine Consumes.popValue.bind_onFailure fun operand => ?_
  split
  · split
    · exact .pushSlot _
    · exact (Consumes.lift _).onFailure
  · exact (Consumes.lift _).onFailure
  · exact (Consumes.lift _).onFailure

theorem consumesOnFailure_readLength : readLength.ConsumesOnFailure := by
  refine Consumes.popValue.bind_onFailure fun operand => ?_
  split
  · exact .pushValue _
  · exact (Consumes.lift _).onFailure
  · exact (Consumes.lift _).onFailure

theorem consumesOnFailure_assignTo (result : TypeTag) : (assignTo result).ConsumesOnFailure := by
  refine Consumes.popValue.bind_onFailure fun operand => ?_
  refine Consumes.popSlot.bind_onFailure fun slot => ?_
  refine (Consumes.lift _).bind_onFailure fun value => ?_
  exact (Consumes.ask _).bind_onFailure fun _ => .pushValue value

theorem consumes_popOperands (argumentCount : UInt64) (staticType : Option String) :
    (popOperands argumentCount staticType).Consumes := by
  simp only [popOperands]
  split
  · exact .popValues _
  · exact .lift _

theorem consumesOnFailure_callMethod (method : String) (argumentCount : UInt64)
    (staticType : Option String) :
    (callMethod method argumentCount staticType).ConsumesOnFailure := by
  refine (consumes_popOperands argumentCount staticType).bind_onFailure fun operands => ?_
  exact (Consumes.ask _).bind_onFailure .pushValue

theorem consumes_branch (truth : Bool) (target : UInt64) (length next : Nat) :
    (branch truth target length next).Consumes := by
  refine Consumes.popValue.bind fun operand => (Consumes.lift _).bind fun decision => ?_
  split
  · exact .lift _
  · exact .lift (.ok next)

/-- The left operand of a connective is put back, or is all that is taken if it is no boolean. -/
theorem skipRight_operand (connective : Connective) (target : UInt64) (length next : Nat)
    (left : Operand) (rest : List Operand) (room : Nat) :
    skipRight connective target length next ⟨left :: rest, room⟩ =
      match left.value.asBoolean with
      | .error error => .done (.error error, ⟨rest, room + 1⟩)
      | .ok truth =>
        if truth = connective.decidingValue then
          .done (jumpTo target length, ⟨.plain (.boolean truth) :: rest, room⟩)
        else .done (.ok next, ⟨.plain left.value :: rest, room⟩) := by
  change (lift left.value.asBoolean >>= fun decision => _) _ = _
  cases left.value.asBoolean with
  | error error => rfl
  | ok truth => cases truth <;> cases connective <;> rfl

theorem eq_boolean_of_asBoolean {value : Value} {truth : Bool}
    (isBoolean : value.asBoolean = .ok truth) : value = .boolean truth := by
  cases value with
  | boolean other =>
      cases isBoolean
      rfl
  | _ => cases isBoolean

/-- The operand that is put back has the value of the one that was taken. -/
theorem consumesOnFailure_skipRight (connective : Connective) (target : UInt64)
    (length next : Nat) : (skipRight connective target length next).ConsumesOnFailure := by
  rintro ⟨_ | ⟨left, rest⟩, room⟩
  · exact fun _ _ => List.suffix_rfl
  · rw [skipRight_operand]
    split
    · exact fun _ _ => List.suffix_cons _ _
    · next truth isBoolean =>
      split
      · intro error _
        simp only [Stack.values, List.map_cons]
        rw [eq_boolean_of_asBoolean isBoolean]
        exact List.suffix_rfl
      · rintro error ⟨⟩

/-- Where an instruction fails, the values that are left are the lowest of those that were there. -/
theorem consumesOnFailure_execute (kind : InstructionKind) (length place : Nat) :
    (kind.execute length place).ConsumesOnFailure := by
  cases kind with
  | pushLiteral value => exact (ConsumesOnFailure.pushValue value).thenNext _
  | pushLocal name => exact (ConsumesOnFailure.pushSlot _).thenNext _
  | pushThis => exact ((Consumes.ask _).bind_onFailure .pushValue).thenNext _
  | pushField name => exact (consumesOnFailure_readField name).thenNext _
  | pushStaticField typeName name => exact (ConsumesOnFailure.pushSlot _).thenNext _
  | pushElement => exact consumesOnFailure_readElement.thenNext _
  | arrayLength => exact consumesOnFailure_readLength.thenNext _
  | binary operator => exact operator.consumesOnFailure_execute.thenNext _
  | unary operator => exact operator.consumesOnFailure_execute.thenNext _
  | assign result => exact (consumesOnFailure_assignTo result).thenNext _
  | cast target =>
      refine ConsumesOnFailure.thenNext (Consumes.popValue.bind_onFailure fun operand => ?_) _
      exact (Consumes.lift _).bind_onFailure .pushValue
  | invoke method argumentCount staticType =>
      exact (consumesOnFailure_callMethod method argumentCount staticType).thenNext _
  | jump target => exact (Consumes.lift _).onFailure
  | jumpIf truth target => exact (consumes_branch truth target length _).onFailure
  | shortCircuit connective target => exact consumesOnFailure_skipRight connective target length _
  | pop => exact (Consumes.pop.bind fun _ => .lift (.ok ())).onFailure.thenNext _
  | noop => exact (Consumes.lift (.ok _)).onFailure

end InstructionKind

end Watch
