import Watch.Instruction.Execution

/-!
# What instructions are composed of

An evaluation is put together from a few parts: it computes without the stack, it takes operands
and puts others there, and it makes calls. `Evaluation.Composed` says that it is put together from
such parts and from calls of which a predicate holds, so that what the parts keep is what the
evaluation keeps.

Every instruction is of one of three forms, which differ in the calls they make. One that looks at
a location (`Evaluation.Looks`) computes the location without any call, and the fetch is its only
call. One that changes a location (`Evaluation.Changes`) takes the location with a slot from the
stack, and the store into it is its last call. All others have nothing but operations carried out.

The value of a binary operator is computed beside the stack (`Evaluation.Steady`): operations may be
carried out for it, and the operands that are left stay as they are.
-/

namespace Watch

namespace Call

/-- Whether a call has an operation carried out. -/
def isInvoke : Call → Bool
  | .invoke .. => true
  | .fetch _ | .store .. => false

end Call

namespace Evaluation

variable {Result Next : Type}

/--
Evaluations whose calls satisfy a predicate. The operands that they put on the stack are plain
values, and slots with what they fetched.
-/
inductive Composed (allowed : Call → Prop) : {Result : Type} → Evaluation Result → Prop where
  | lift {Result : Type} (result : Except EvaluationError Result) : Composed allowed (lift result)
  | ask {call : Call} (isAllowed : allowed call) : Composed allowed (ask call)
  | pushValue (value : Value) : Composed allowed (pushValue value)
  | pushSlot {location : Location} (isAllowed : allowed (.fetch location)) :
      Composed allowed (pushSlot location)
  | pop : Composed allowed pop
  | popValues (count : Nat) : Composed allowed (popValues count)
  | bind {Result Next : Type} {evaluation : Evaluation Result} {next : Result → Evaluation Next}
      (first : Composed allowed evaluation) (rest : ∀ result, Composed allowed (next result)) :
      Composed allowed (evaluation >>= next)

/-- Evaluations that make no call. -/
abbrev Silent (evaluation : Evaluation Result) : Prop :=
  evaluation.Composed fun _ => False

/-- Evaluations that make no other calls than to have operations carried out. -/
abbrev Inert (evaluation : Evaluation Result) : Prop :=
  evaluation.Composed fun call => call.isInvoke = true

/-- Evaluations that leave the stack alone and have nothing but operations carried out. -/
inductive Steady : {Result : Type} → Evaluation Result → Prop where
  | lift {Result : Type} (result : Except EvaluationError Result) : Steady (lift result)
  | invoke (operation : TargetOperation) (operands : List Value) :
      Steady (invoke operation operands)
  | bind {Result Next : Type} {evaluation : Evaluation Result} {next : Result → Evaluation Next}
      (first : Steady evaluation) (rest : ∀ result, Steady (next result)) :
      Steady (evaluation >>= next)

/-- Evaluations that look at a location other than the receiver, or fetch the receiver, or fail. -/
inductive Looks : Evaluation Unit → Prop where
  | slot {location : Location} (notThis : location ≠ .this) : Looks (pushSlot location)
  | receiver : Looks (do
      let receiver ← fetch .this
      pushValue receiver)
  | fail (error : EvaluationError) : Looks (fail error)
  | after {Result : Type} {evaluation : Evaluation Result} {next : Result → Evaluation Unit}
      (silent : evaluation.Silent) (rest : ∀ result, Looks (next result)) :
      Looks (evaluation >>= next)

/-- Evaluations that end with a store into a location, after which they make no call. -/
inductive StoresInto (location : Location) : Evaluation Unit → Prop where
  | store (value : Value) {next : Unit → Evaluation Unit} (silent : ∀ done, (next done).Silent) :
      StoresInto location (store location value >>= next)
  | after {Result : Type} {evaluation : Evaluation Result} {next : Result → Evaluation Unit}
      (inert : evaluation.Inert) (rest : ∀ result, StoresInto location (next result)) :
      StoresInto location (evaluation >>= next)

/-- Evaluations that take a slot and end with a store into its location. -/
inductive Changes : Evaluation Unit → Prop where
  | slot {next : Location × Value → Evaluation Unit}
      (rest : ∀ location value, StoresInto location (next (location, value))) :
      Changes (popSlot >>= next)
  | after {Result : Type} {evaluation : Evaluation Result} {next : Result → Evaluation Unit}
      (inert : evaluation.Inert) (rest : ∀ result, Changes (next result)) :
      Changes (evaluation >>= next)

namespace Composed

variable {allowed : Call → Prop}

theorem mono {more : Call → Prop} {evaluation : Evaluation Result}
    (composed : evaluation.Composed allowed) (weaker : ∀ call, allowed call → more call) :
    evaluation.Composed more := by
  induction composed with
  | lift result => exact .lift result
  | ask isAllowed => exact .ask (weaker _ isAllowed)
  | pushValue value => exact .pushValue value
  | pushSlot isAllowed => exact .pushSlot (weaker _ isAllowed)
  | pop => exact .pop
  | popValues count => exact .popValues count
  | bind first rest ihFirst ihRest => exact .bind ihFirst ihRest

theorem pure (result : Result) : (Pure.pure result : Evaluation Result).Composed allowed :=
  .lift (.ok result)

theorem fail (error : EvaluationError) : (fail error : Evaluation Result).Composed allowed :=
  .lift (.error error)

theorem popValue : popValue.Composed allowed :=
  .bind .pop fun operand => pure operand.value

theorem popSlot : popSlot.Composed allowed := by
  refine .bind .pop fun operand => ?_
  cases operand with
  | plain value => exact fail _
  | slot location value => exact pure _

end Composed

theorem Silent.inert {evaluation : Evaluation Result} (silent : evaluation.Silent) :
    evaluation.Inert :=
  silent.mono fun _ => False.elim

theorem inert_invoke (operation : TargetOperation) (operands : List Value) :
    (invoke operation operands).Inert :=
  .ask rfl

namespace Steady

theorem pure (result : Result) : (Pure.pure result : Evaluation Result).Steady :=
  .lift (.ok result)

theorem fail (error : EvaluationError) : (fail error : Evaluation Result).Steady :=
  .lift (.error error)

theorem inert {evaluation : Evaluation Result} (steady : evaluation.Steady) :
    evaluation.Inert := by
  induction steady with
  | lift result => exact .lift result
  | invoke operation operands => exact inert_invoke operation operands
  | bind first rest ihFirst ihRest => exact .bind ihFirst ihRest

end Steady

end Evaluation

open Evaluation

namespace BinaryOperation

theorem steady_onReferences (operation : BinaryOperation) (left right : Value) :
    (operation.onReferences left right).Steady := by
  have compared : ∀ operation : BinaryOperation, Evaluation.Steady (do
      let answer ← Evaluation.invoke (.binary operation) [left, right]
      let truth ← Evaluation.lift answer.asBoolean
      return Value.boolean truth) := fun operation =>
    (Steady.invoke _ _).bind fun _ => (Steady.lift _).bind fun _ => .pure _
  cases operation with
  | eq => exact compared .eq
  | ne => exact compared .ne
  | _ => exact .pure _

theorem steady_textOf (value : Value) : (textOf value).Steady := by
  rw [textOf]
  split
  · exact .pure _
  · refine (Steady.invoke _ _).bind fun answer => ?_
    split
    · exact .pure _
    · exact .pure _
    · exact .fail _

theorem steady_onTexts (operation : BinaryOperation) (left right : Value) :
    (operation.onTexts left right).Steady := by
  cases operation with
  | add =>
      exact (steady_textOf left).bind fun _ => (steady_textOf right).bind fun _ => .pure _
  | eq => exact steady_onReferences .eq left right
  | ne => exact steady_onReferences .ne left right
  | _ => exact .pure _

end BinaryOperation

namespace TypedBinary

theorem steady_compute (operator : TypedBinary) (left right : Value) :
    (operator.compute left right).Steady := by
  rw [compute]
  split
  case h_9 => exact BinaryOperation.steady_onTexts _ left right
  all_goals first
    | exact .lift _
    | exact BinaryOperation.steady_onReferences _ left right

theorem steady_valueOf (operator : TypedBinary) (left right : Value) :
    (operator.valueOf left right).Steady := by
  refine (operator.steady_compute left right).bind fun computed => ?_
  split
  · exact .pure _
  · exact .lift _

/-- A compound assignment stores its value into the location of the left operand. -/
theorem changes_execute {operator : TypedBinary} (assigns : operator.assigns = true) :
    Changes operator.execute := by
  rw [execute]
  simp only [assigns, if_true]
  refine .after .popValue fun right => .slot fun location left => ?_
  exact .after (operator.steady_valueOf left right).inert fun value =>
    .store value fun _ => .pushValue value

theorem inert_execute {operator : TypedBinary} (assignsNot : operator.assigns = false) :
    operator.execute.Inert := by
  rw [execute]
  simp only [assignsNot, Bool.false_eq_true, if_false]
  refine Composed.popValue.bind fun right => Composed.popValue.bind fun left => ?_
  exact (operator.steady_valueOf left right).inert.bind fun value => .pushValue value

end TypedBinary

namespace TypedUnary

theorem changes_executeUpdate (operator : TypedUnary) : Changes operator.executeUpdate := by
  refine .slot fun location old => ?_
  refine .after (.lift _) fun stepped => .after (.lift _) fun updated => .store updated fun _ => ?_
  exact .bind (.lift _) fun value => .pushValue value

theorem silent_execute {operator : TypedUnary} (updatesNot : operator.operation.isUpdate = false) :
    operator.execute.Silent := by
  rw [execute, updatesNot]
  refine Composed.popValue.bind fun operand => ?_
  exact .bind (.lift _) fun computed => .bind (.lift _) fun value => .pushValue value

end TypedUnary

namespace InstructionKind

/-- The instructions that look at a location. -/
def isLook : InstructionKind → Bool
  | .pushLocal _ | .pushThis | .pushField _ | .pushStaticField .. | .pushElement => true
  | _ => false

/-- The instructions that change a location. -/
def isChange : InstructionKind → Bool
  | .binary operator => operator.assigns
  | .unary operator => operator.operation.isUpdate
  | .assign _ => true
  | _ => false

theorem looks_readField (name : String) : Looks (readField name) := by
  refine .after .popValue fun operand => ?_
  split
  · exact .slot (by simp)
  · exact .fail _
  · exact .fail _

theorem looks_readElement : Looks readElement := by
  refine .after .popValue fun operand => .after (.lift _) fun index => ?_
  refine .after .popValue fun operand => ?_
  split
  · split
    · exact .slot (by simp)
    · exact .fail _
  · exact .fail _
  · exact .fail _

theorem silent_readLength : readLength.Silent := by
  refine Composed.popValue.bind fun operand => ?_
  split
  · exact .pushValue _
  · exact .fail _
  · exact .fail _

theorem changes_assignTo (result : TypeTag) : Changes (assignTo result) := by
  refine .after .popValue fun operand => .slot fun location old => ?_
  exact .after (.lift _) fun value => .store value fun _ => .pushValue value

theorem silent_popOperands (argumentCount : UInt64) (staticType : Option String) :
    (popOperands argumentCount staticType).Silent := by
  simp only [popOperands]
  split
  · exact .popValues _
  · exact .fail _

theorem inert_callMethod (method : String) (argumentCount : UInt64) (staticType : Option String) :
    (callMethod method argumentCount staticType).Inert := by
  refine (silent_popOperands argumentCount staticType).inert.bind fun operands => ?_
  exact (inert_invoke _ _).bind fun value => .pushValue value

theorem silent_branch (truth : Bool) (target : UInt64) (length next : Nat) :
    (branch truth target length next).Silent := by
  refine Composed.popValue.bind fun operand => .bind (.lift _) fun decision => ?_
  split
  · exact .lift _
  · exact .pure _

theorem silent_skipRight (connective : Connective) (target : UInt64) (length next : Nat) :
    (skipRight connective target length next).Silent := by
  refine Composed.popValue.bind fun left => .bind (.lift _) fun decision => ?_
  split
  · exact .bind (.pushValue _) fun _ => .lift _
  · exact .bind (.pushValue _) fun _ => .pure _

theorem inert_thenNext {evaluation : Evaluation Unit} (inert : evaluation.Inert) (next : Nat) :
    (thenNext next evaluation).Inert :=
  inert.bind fun _ => .pure next

/-- The forms that an instruction may have. -/
inductive Form (kind : InstructionKind) (length place : Nat) : Prop where
  /-- It looks at a location. -/
  | look {evaluation : Evaluation Unit} (isLook : kind.isLook = true) (looks : Looks evaluation)
      (executeEq : kind.execute length place = thenNext (place + 1) evaluation)
  /-- It changes a location. -/
  | change {evaluation : Evaluation Unit} (isChange : kind.isChange = true)
      (changes : Changes evaluation)
      (executeEq : kind.execute length place = thenNext (place + 1) evaluation)
  /-- It has nothing but operations carried out. -/
  | other (isNoLook : kind.isLook = false) (inert : (kind.execute length place).Inert)

/-- The form of every instruction. -/
theorem form (kind : InstructionKind) (length place : Nat) : kind.Form length place := by
  cases kind with
  | pushLiteral value => exact .other rfl (inert_thenNext (.pushValue value) _)
  | pushLocal name => exact .look rfl (.slot (by simp)) rfl
  | pushThis => exact .look rfl .receiver rfl
  | pushField name => exact .look rfl (looks_readField name) rfl
  | pushStaticField typeName name => exact .look rfl (.slot (by simp)) rfl
  | pushElement => exact .look rfl looks_readElement rfl
  | arrayLength => exact .other rfl (inert_thenNext silent_readLength.inert _)
  | binary operator =>
      cases assigns : operator.assigns with
      | true => exact .change assigns (TypedBinary.changes_execute assigns) rfl
      | false => exact .other rfl (inert_thenNext (TypedBinary.inert_execute assigns) _)
  | unary operator =>
      cases updates : operator.operation.isUpdate with
      | true =>
          refine .change updates operator.changes_executeUpdate ?_
          simp only [execute, TypedUnary.execute, updates, if_true]
      | false =>
          exact .other rfl (inert_thenNext (TypedUnary.silent_execute updates).inert _)
  | assign result => exact .change rfl (changes_assignTo result) rfl
  | cast target =>
      refine .other rfl (inert_thenNext ?_ _)
      refine Composed.popValue.bind fun operand => ?_
      exact .bind (.lift _) fun value => .pushValue value
  | invoke method argumentCount staticType =>
      exact .other rfl (inert_thenNext (inert_callMethod method argumentCount staticType) _)
  | jump target => exact .other rfl (.lift _)
  | jumpIf truth target => exact .other rfl (silent_branch truth target length _).inert
  | shortCircuit connective target =>
      exact .other rfl (silent_skipRight connective target length _).inert
  | pop => exact .other rfl (inert_thenNext (.bind .pop fun _ => .pure ()) _)
  | noop => exact .other rfl (.pure _)

end InstructionKind

end Watch
