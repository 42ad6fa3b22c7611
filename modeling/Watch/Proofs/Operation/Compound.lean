import Watch.Proofs.Operation.Comparison
import Watch.Proofs.Operation.Operands
import Watch.Proofs.Value.Coercion

/-!
# Compound assignments

A compound assignment is a shorter way to write an operator and an assignment
(`TypedBinary.expansion`). Both work in the same type, although one is told it by the types of the
operands and the other by the type of the result. What is computed is a value of that type, or the
null reference in its place, so that the conversion to it in between changes nothing.
-/

namespace Watch

open Evaluation

/-- What an operator computes in a type: a value of the type, or the null reference in its place. -/
def Value.IsComputedIn (value : Value) (tag : TypeTag) : Prop :=
  value.tag = tag ∨ value = .null ∧ tag.isPrimitive = false

/-- A value that was computed in a type need not be converted to that type first. -/
theorem Value.IsComputedIn.convertTo_bind {value : Value} {tag target : TypeTag}
    (computed : value.IsComputedIn tag) (noVoid : tag = .void → target = .void) :
    ((value.convertTo tag).bind fun converted => converted.convertTo target) =
      value.convertTo target := by
  rcases computed with same | ⟨rfl, noPrimitive⟩
  · rw [convertTo_of_tag_eq same]
    rfl
  · cases tag with
    | object | array | string => rfl
    | void =>
        rw [noVoid rfl]
        rfl
    | _ => contradiction

namespace Evaluation

/-- Beside the stack a frame changes nothing, and what it answers does not depend on the stack. -/
theorem Steady.perform_frame {Result : Type} {evaluation : Evaluation Result}
    (steady : evaluation.Steady) (state : Suspended) :
    ∃ outcome, ∀ stack, (evaluation stack).perform Frame.target state =
      ((outcome, stack), state) := by
  induction steady with
  | lift result => exact ⟨result, fun _ => rfl⟩
  | invoke operation operands => exact ⟨operation.carryOut operands, fun _ => rfl⟩
  | bind first rest ihFirst ihRest =>
      rcases ihFirst with ⟨error | result, performed⟩
      · exact ⟨.error error, fun stack => perform_bind_of_error (performed stack)⟩
      · rcases ihRest result with ⟨outcome, performedRest⟩
        refine ⟨outcome, fun stack => ?_⟩
        rw [perform_bind_of_ok (performed stack), performedRest]

end Evaluation

namespace BinaryOperation

variable {operation : BinaryOperation} {value : Value}

theorem tag_onInts (noComparison : operation.isRelational = false) {left right : Int32}
    (computed : operation.onInts left right = .ok value) : value.tag = .int := by
  cases operation with
  | lt | le | gt | ge | eq | ne => contradiction
  | div | rem =>
      unfold onInts at computed
      simp only at computed
      split at computed
      · cases computed
      · cases computed
        rfl
  | _ =>
      cases computed
      rfl

theorem tag_onLongs (noComparison : operation.isRelational = false) {left right : Int64}
    (computed : operation.onLongs left right = .ok value) : value.tag = .long := by
  cases operation with
  | lt | le | gt | ge | eq | ne => contradiction
  | div | rem =>
      unfold onLongs at computed
      simp only at computed
      split at computed
      · cases computed
      · cases computed
        rfl
  | _ =>
      cases computed
      rfl

theorem tag_onFloats (noComparison : operation.isRelational = false) (left right : Float32) :
    (operation.onFloats left right).tag = .float := by
  cases operation with
  | lt | le | gt | ge | eq | ne => contradiction
  | _ => rfl

theorem tag_onDoubles (noComparison : operation.isRelational = false) (left right : Float) :
    (operation.onDoubles left right).tag = .double := by
  cases operation with
  | lt | le | gt | ge | eq | ne => contradiction
  | _ => rfl

theorem onReferences_of_noComparison (noComparison : operation.isRelational = false)
    (left right : Value) : operation.onReferences left right = Pure.pure Value.null := by
  cases operation with
  | lt | le | gt | ge | eq | ne => contradiction
  | _ => rfl

theorem returns_onTexts (noComparison : operation.isRelational = false) (left right : Value) :
    (operation.onTexts left right).Returns fun value => value.IsComputedIn .string := by
  cases operation with
  | lt | le | gt | ge | eq | ne => contradiction
  | add =>
      refine returns_bind fun leftText => returns_bind fun rightText => ?_
      exact returns_pure (.inl rfl)
  | _ => exact returns_pure (.inr ⟨rfl, rfl⟩)

end BinaryOperation

namespace TypedBinary

theorem returns_isComputedIn (operator : TypedBinary)
    (noComparison : operator.operation.isRelational = false) (left right : Value) :
    (operator.compute left right).Returns fun value => value.IsComputedIn operator.workType := by
  have promoted := operator.unaryPromotion_workType
  unfold compute
  cases worksIn : operator.workType with
  | boolean =>
      refine returns_lift fun value computed => ?_
      rcases exists_ok_of_both computed with ⟨leftTruth, rightTruth, computed⟩
      cases computed
      exact .inl rfl
  | byte | char | short =>
      rw [worksIn] at promoted
      cases promoted
  | int =>
      refine returns_lift fun value computed => ?_
      rcases exists_ok_of_both computed with ⟨leftNumber, rightNumber, computed⟩
      exact .inl (BinaryOperation.tag_onInts noComparison computed)
  | long =>
      refine returns_lift fun value computed => ?_
      rcases exists_ok_of_both computed with ⟨leftNumber, rightNumber, computed⟩
      exact .inl (BinaryOperation.tag_onLongs noComparison computed)
  | float =>
      refine returns_lift fun value computed => ?_
      rcases exists_ok_of_both computed with ⟨leftNumber, rightNumber, computed⟩
      cases computed
      exact .inl (BinaryOperation.tag_onFloats noComparison leftNumber rightNumber)
  | double =>
      refine returns_lift fun value computed => ?_
      rcases exists_ok_of_both computed with ⟨leftNumber, rightNumber, computed⟩
      cases computed
      exact .inl (BinaryOperation.tag_onDoubles noComparison leftNumber rightNumber)
  | string => exact BinaryOperation.returns_onTexts noComparison left right
  | object | array | void =>
      simp only [BinaryOperation.onReferences_of_noComparison noComparison]
      exact returns_pure (.inr ⟨rfl, rfl⟩)

/-- The operator in the assignment that a compound assignment stands for. -/
def expansion (operation : BinaryOperation) (left right : TypeTag) : TypedBinary :=
  ⟨operation, if operation.isShift then left.unaryPromotion else left.binaryPromotion right,
    left, right, false⟩

variable {operation : BinaryOperation}

/-- The operator in the expansion works in its result type, as the compound assignment does. -/
theorem workType_expansion (noComparison : operation.isRelational = false) (left right : TypeTag) :
    (expansion operation left right).workType = (compound operation left right).workType ∧
      (expansion operation left right).workType = (expansion operation left right).result := by
  unfold workType expansion compound
  cases shifts : operation.isShift with
  | true => simp
  | false =>
      have promoted := TypeTag.unaryPromotion_binaryPromotion left right
      simp [noComparison, promoted]

theorem compute_expansion (noComparison : operation.isRelational = false) (left right : TypeTag)
    (leftValue rightValue : Value) :
    (expansion operation left right).compute leftValue rightValue =
      (compound operation left right).compute leftValue rightValue := by
  rw [compute, compute, (workType_expansion noComparison left right).1]
  rfl

/-- Only a shift of `void` works in `void`. -/
theorem left_eq_void {left right : TypeTag}
    (isVoid : (expansion operation left right).result = .void) : left = .void := by
  unfold expansion at isVoid
  cases shifts : operation.isShift with
  | true =>
      simp only [shifts, if_true] at isVoid
      cases left <;> first | rfl | cases isVoid
  | false =>
      simp only [shifts, Bool.false_eq_true, if_false] at isVoid
      cases left <;> cases right <;> first | rfl | cases isVoid

variable {state : Suspended} {left right : Value} {computed : Except EvaluationError Value}

/-- To the type of its left operand it is one conversion or two, by the way of the type between. -/
theorem convertTo_expansion (noComparison : operation.isRelational = false)
    (leftTag rightTag : TypeTag)
    (performed : ∀ stack, ((compound operation leftTag rightTag).compute left right stack).perform
      Frame.target state = ((computed, stack), state)) :
    ((computed.bind fun value => value.convertTo (expansion operation leftTag rightTag).result).bind
        fun promoted => promoted.convertTo leftTag) =
      computed.bind fun value => value.convertTo leftTag := by
  cases computed with
  | error error => rfl
  | ok value =>
      have isComputed := (returns_isComputedIn (compound operation leftTag rightTag) noComparison
        left right).of_perform (performed (.empty 0))
      rcases workType_expansion noComparison leftTag rightTag with ⟨same, worksInResult⟩
      rw [← same, worksInResult] at isComputed
      exact isComputed.convertTo_bind left_eq_void

theorem perform_valueOf (operator : TypedBinary)
    (noComparison : operator.operation.isRelational = false)
    (performed : ∀ stack, (operator.compute left right stack).perform Frame.target state =
      ((computed, stack), state)) (stack : Stack) :
    (operator.valueOf left right stack).perform Frame.target state =
      ((computed.bind fun value => value.convertTo operator.result, stack), state) := by
  unfold valueOf
  cases computed with
  | error error => exact perform_bind_of_error (performed stack)
  | ok value =>
      rw [perform_bind_of_ok (performed stack), noComparison]
      rfl

/-- What an assignment of a value to a location of a frame leaves, or the error in its place. -/
def assigned (state : Suspended) (location : Location) (rest : List Operand) (room : Nat) :
    Except EvaluationError Value → (Except EvaluationError Unit × Stack) × Suspended
  | .error error => ((.error error, ⟨rest, room + 1⟩), state)
  | .ok value =>
    ((.ok (), ⟨.plain value :: rest, room⟩),
      { state with frame := state.frame.write location value })

variable {location : Location} {old value : Value} {rest : List Operand} {room : Nat}

theorem perform_assigned (fetched : state.frame.fetch location = .ok old)
    (evaluation : Evaluation Value)
    (performed : (evaluation ⟨rest, room + 1⟩).perform Frame.target state =
      ((computed, ⟨rest, room + 1⟩), state)) :
    ((evaluation >>= fun value => storeAndPush location value value)
        ⟨rest, room + 1⟩).perform Frame.target state =
      assigned state location rest room computed := by
  cases computed with
  | error error => exact perform_bind_of_error performed
  | ok value =>
      rw [perform_bind_of_ok performed]
      exact Frame.perform_storeAndPush fetched value value rest room

/-- The assignment of an operator on the location itself and a value, as in `x = x + y`. -/
def assignment (operator : TypedBinary) (location : Location) (value : Value) (tag : TypeTag) :
    Evaluation Unit := do
  pushSlot location
  pushSlot location
  pushValue value
  operator.execute
  InstructionKind.assignTo tag

section Assignment

variable {operator : TypedBinary} (assignsNot : operator.assigns = false)
  (fetched : state.frame.fetch location = .ok old) (rest room)

include fetched

theorem perform_assignment_eq (tag : TypeTag) :
    (assignment operator location value tag ⟨rest, room + 3⟩).perform Frame.target state =
      ((operator.execute >>= fun _ => InstructionKind.assignTo tag)
        ⟨.plain value :: .slot location old :: .slot location old :: rest, room⟩).perform
          Frame.target state :=
  (Frame.perform_pushSlot fetched _ rest (room + 2)).trans
    (Frame.perform_pushSlot fetched _ (.slot location old :: rest) (room + 1))

include assignsNot

theorem perform_assignment_of_error {error : EvaluationError}
    (valued : ∀ stack, (operator.valueOf old value stack).perform Frame.target state =
      ((.error error, stack), state)) (tag : TypeTag) :
    (assignment operator location value tag ⟨rest, room + 3⟩).perform Frame.target state =
      ((.error error, ⟨.slot location old :: rest, room + 2⟩), state) := by
  rw [perform_assignment_eq rest room fetched]
  apply perform_bind_of_error
  exact perform_execute_of_error assignsNot (.slot location old) (.plain value) (valued _)

theorem perform_assignment_of_ok {promoted : Value}
    (valued : ∀ stack, (operator.valueOf old value stack).perform Frame.target state =
      ((.ok promoted, stack), state)) (tag : TypeTag) :
    (assignment operator location value tag ⟨rest, room + 3⟩).perform Frame.target state =
      assigned state location rest (room + 2) (promoted.convertTo tag) := by
  have executed := perform_execute_of_ok assignsNot (.slot location old) (.plain value)
    (valued ⟨.slot location old :: rest, room + 2⟩)
  rw [perform_assignment_eq rest room fetched, perform_bind_of_ok executed]
  exact perform_assigned fetched (lift (promoted.convertTo tag)) rfl

end Assignment

/--
A compound assignment is the same as the assignment of its operator, over every frame: what is
stored and left on the stack is the same, or both fail with the same error and leave the frame as it
is.
-/
theorem compound_expands (operation : BinaryOperation)
    (noComparison : operation.isRelational = false) (left right : TypeTag) (location : Location)
    (state : Suspended) (old : Value) (fetched : state.frame.fetch location = .ok old)
    (value : Value) (rest : List Operand) (room : Nat) :
    let direct : Evaluation Unit := do
      pushSlot location
      pushValue value
      (compound operation left right).execute
    let expanded := assignment (expansion operation left right) location value left
    (∃ result,
      let final : Suspended := { state with frame := state.frame.write location result }
      (direct ⟨rest, room + 3⟩).perform Frame.target state =
          ((.ok (), ⟨.plain result :: rest, room + 2⟩), final) ∧
        (expanded ⟨rest, room + 3⟩).perform Frame.target state =
          ((.ok (), ⟨.plain result :: rest, room + 2⟩), final)) ∨
      ∃ error after afterToo,
        (direct ⟨rest, room + 3⟩).perform Frame.target state = ((.error error, after), state) ∧
        (expanded ⟨rest, room + 3⟩).perform Frame.target state =
          ((.error error, afterToo), state) := by
  intro direct expanded
  -- Both compute the same, once, and differ in how they convert what was computed.
  rcases ((compound operation left right).steady_compute old value).perform_frame state with
    ⟨computed, performed⟩
  have performedToo := performed
  rw [← compute_expansion noComparison] at performedToo
  have valued := perform_valueOf (expansion operation left right) noComparison performedToo
  have directly : (direct ⟨rest, room + 3⟩).perform Frame.target state =
      assigned state location rest (room + 2)
        (computed.bind fun result => result.convertTo left) := by
    refine (Frame.perform_pushSlot fetched _ rest (room + 2)).trans ?_
    exact perform_assigned fetched _ (perform_valueOf _ noComparison performed ⟨rest, room + 3⟩)
  rw [← convertTo_expansion noComparison left right performed] at directly
  cases outcome : computed.bind fun result =>
      result.convertTo (expansion operation left right).result with
  | error error =>
      rw [outcome] at directly valued
      have failed := perform_assignment_of_error rest room rfl fetched valued left
      exact .inr ⟨error, _, _, directly, failed⟩
  | ok promoted =>
      rw [outcome] at directly valued
      have expandedly := perform_assignment_of_ok rest room rfl fetched valued left
      simp only [Except.bind] at directly
      cases stored : promoted.convertTo left with
      | error error =>
          rw [stored] at directly expandedly
          exact .inr ⟨error, _, _, directly, expandedly⟩
      | ok result =>
          rw [stored] at directly expandedly
          exact .inl ⟨result, directly, expandedly⟩

/-- Three times a hundred in a `byte`: multiplied as an `int`, and cut to the `byte` at the end. -/
theorem compound_expands_byte :
    let location : Location := .local "b"
    let state : Suspended := ⟨Frame.empty.withLocal "b" (.byte 100), false⟩
    let final : Suspended := ⟨Frame.empty.withLocal "b" (.byte 44), false⟩
    let direct : Evaluation Unit := do
      pushSlot location
      pushValue (.int 3)
      (compound .mul .byte .int).execute
    let expanded := assignment (expansion .mul .byte .int) location (.int 3) .byte
    BinaryOperation.isRelational .mul = false ∧ state.frame.fetch location = .ok (.byte 100) ∧
      (direct ⟨[], 3⟩).perform Frame.target state =
        ((.ok (), ⟨[.plain (.byte 44)], 2⟩), final) ∧
      (expanded ⟨[], 3⟩).perform Frame.target state =
        ((.ok (), ⟨[.plain (.byte 44)], 2⟩), final) := by
  intro location state final direct expanded
  have directly : (direct ⟨[], 3⟩).perform Frame.target state =
      ((.ok (), ⟨[.plain (.byte 44)], 2⟩), final) := rfl
  have fetched : state.frame.fetch location = .ok (.byte 100) := rfl
  refine ⟨rfl, fetched, directly, ?_⟩
  rcases compound_expands .mul rfl .byte .int location state _ fetched (.int 3) [] 0 with
    ⟨result, directlyToo, expandedly⟩ | ⟨error, after, afterToo, failed, -⟩
  · cases directly.symm.trans directlyToo
    exact expandedly
  · cases directly.symm.trans failed

end TypedBinary

end Watch
