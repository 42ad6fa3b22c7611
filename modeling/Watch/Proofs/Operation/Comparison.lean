import Watch.Frame.Invocation
import Watch.Proofs.Evaluation.Limit
import Watch.Proofs.Operation.Operands

/-!
# What a comparison yields

A comparison that succeeds leaves a boolean on the stack, in whatever type it works and whatever its
operands are: numbers and booleans are compared at once, references by the suspended program. The
exception are comparisons that ask which of two texts or references is the smaller
(`TypedBinary.ordersReferences`). Texts and references have no order here, and what is left is the
null reference, which is no boolean.
-/

namespace Watch

namespace Evaluation

variable {Result : Type} {evaluation : Evaluation Result}

/-- An evaluation beside the stack leaves the stack as it is. -/
theorem Steady.keepsStack (steady : evaluation.Steady) (stack : Stack) :
    (evaluation stack).Always fun outcome => outcome.2 = stack := by
  induction steady generalizing stack with
  | lift result => exact rfl
  | invoke operation operands => exact fun _ => rfl
  | bind first rest ihFirst ihRest =>
      apply (ihFirst stack).bind
      rintro ⟨outcome, middle⟩ rfl
      cases outcome with
      | error error => exact rfl
      | ok result => exact ihRest result _

end Evaluation

open Evaluation

namespace BinaryOperation

/-- The comparisons that ask which of two operands is the smaller. -/
def isOrdering : BinaryOperation → Bool
  | .lt | .le | .gt | .ge => true
  | _ => false

variable {operation : BinaryOperation}

theorem isRelational_of_isOrdering (ordering : operation.isOrdering = true) :
    operation.isRelational = true := by
  cases operation with
  | lt | le | gt | ge => rfl
  | _ => contradiction

theorem onInts_of_isRelational (relational : operation.isRelational = true) (left right : Int32) :
    ∃ truth, operation.onInts left right = .ok (.boolean truth) := by
  cases operation with
  | lt | le | gt | ge | eq | ne => exact ⟨_, rfl⟩
  | _ => contradiction

theorem onLongs_of_isRelational (relational : operation.isRelational = true) (left right : Int64) :
    ∃ truth, operation.onLongs left right = .ok (.boolean truth) := by
  cases operation with
  | lt | le | gt | ge | eq | ne => exact ⟨_, rfl⟩
  | _ => contradiction

theorem onFloats_of_isRelational (relational : operation.isRelational = true)
    (left right : Float32) : ∃ truth, operation.onFloats left right = .boolean truth := by
  cases operation with
  | lt | le | gt | ge | eq | ne => exact ⟨_, rfl⟩
  | _ => contradiction

theorem onDoubles_of_isRelational (relational : operation.isRelational = true)
    (left right : Float) : ∃ truth, operation.onDoubles left right = .boolean truth := by
  cases operation with
  | lt | le | gt | ge | eq | ne => exact ⟨_, rfl⟩
  | _ => contradiction

/-- Whether two references are equal is asked of the suspended program, which has to answer that. -/
theorem returns_onReferences (relational : operation.isRelational = true)
    (noOrdering : operation.isOrdering = false) (left right : Value) :
    (operation.onReferences left right).Returns fun value => ∃ truth, value = .boolean truth := by
  cases operation with
  | eq | ne =>
      refine returns_bind fun answer => returns_bind fun truth => ?_
      exact returns_pure ⟨truth, rfl⟩
  | _ => contradiction

theorem onReferences_of_isOrdering (ordering : operation.isOrdering = true) (left right : Value) :
    operation.onReferences left right = Pure.pure Value.null := by
  cases operation with
  | lt | le | gt | ge => rfl
  | _ => contradiction

theorem onTexts_of_isRelational (relational : operation.isRelational = true)
    (left right : Value) : operation.onTexts left right = operation.onReferences left right := by
  cases operation with
  | lt | le | gt | ge | eq | ne => rfl
  | _ => contradiction

end BinaryOperation

namespace TypedBinary

/-- Whether an operator asks which of two texts or references is the smaller. -/
def ordersReferences (operator : TypedBinary) : Bool :=
  operator.operation.isOrdering && !operator.workType.isPrimitive

variable {operator : TypedBinary} {left right : Value}

/-- Operands that are converted first come to the operation with what they were converted to. -/
theorem exists_ok_of_both {Left Right Result : Type} {first : Except EvaluationError Left}
    {second : Except EvaluationError Right}
    {combine : Left → Right → Except EvaluationError Result} {result : Result}
    (computed : (do combine (← first) (← second)) = .ok result) :
    ∃ left right, combine left right = .ok result := by
  cases first with
  | error error => cases computed
  | ok left =>
      cases second with
      | error error => cases computed
      | ok right => exact ⟨left, right, computed⟩

theorem returns_compute (relational : operator.operation.isRelational = true)
    (ordered : operator.ordersReferences = false) (left right : Value) :
    (operator.compute left right).Returns fun value => ∃ truth, value = .boolean truth := by
  rw [compute]
  cases typeEq : operator.workType with
  | boolean =>
      refine returns_lift fun value computed => ?_
      rcases exists_ok_of_both computed with ⟨leftTruth, rightTruth, computed⟩
      cases computed
      exact ⟨_, rfl⟩
  | byte | char | short | int =>
      refine returns_lift fun value computed => ?_
      rcases exists_ok_of_both computed with ⟨leftNumber, rightNumber, computed⟩
      rcases BinaryOperation.onInts_of_isRelational relational leftNumber rightNumber with
        ⟨truth, onInts⟩
      exact ⟨truth, Except.ok.inj (computed.symm.trans onInts)⟩
  | long =>
      refine returns_lift fun value computed => ?_
      rcases exists_ok_of_both computed with ⟨leftNumber, rightNumber, computed⟩
      rcases BinaryOperation.onLongs_of_isRelational relational leftNumber rightNumber with
        ⟨truth, onLongs⟩
      exact ⟨truth, Except.ok.inj (computed.symm.trans onLongs)⟩
  | float =>
      refine returns_lift fun value computed => ?_
      rcases exists_ok_of_both computed with ⟨leftNumber, rightNumber, computed⟩
      cases computed
      exact BinaryOperation.onFloats_of_isRelational relational leftNumber rightNumber
  | double =>
      refine returns_lift fun value computed => ?_
      rcases exists_ok_of_both computed with ⟨leftNumber, rightNumber, computed⟩
      cases computed
      exact BinaryOperation.onDoubles_of_isRelational relational leftNumber rightNumber
  | string =>
      have noOrdering : operator.operation.isOrdering = false := by
        simpa [ordersReferences, typeEq, TypeTag.isPrimitive, TypeTag.isNumeric] using ordered
      rw [BinaryOperation.onTexts_of_isRelational relational]
      exact BinaryOperation.returns_onReferences relational noOrdering left right
  | object | array | void =>
      have noOrdering : operator.operation.isOrdering = false := by
        simpa [ordersReferences, typeEq, TypeTag.isPrimitive, TypeTag.isNumeric] using ordered
      exact BinaryOperation.returns_onReferences relational noOrdering left right

theorem compute_of_ordersReferences (orders : operator.ordersReferences = true)
    (left right : Value) : operator.compute left right = Pure.pure Value.null := by
  rw [ordersReferences, Bool.and_eq_true] at orders
  rcases orders with ⟨ordering, noPrimitive⟩
  have relational := BinaryOperation.isRelational_of_isOrdering ordering
  rw [compute]
  cases typeEq : operator.workType with
  | string =>
      rw [BinaryOperation.onTexts_of_isRelational relational]
      exact BinaryOperation.onReferences_of_isOrdering ordering left right
  | object | array | void =>
      exact BinaryOperation.onReferences_of_isOrdering ordering left right
  | _ => simp [typeEq, TypeTag.isPrimitive, TypeTag.isNumeric] at noPrimitive

theorem returns_valueOf (relational : operator.operation.isRelational = true)
    (ordered : operator.ordersReferences = false) (left right : Value) :
    (operator.valueOf left right).Returns fun value => ∃ truth, value = .boolean truth := by
  rw [valueOf]
  refine (returns_compute relational ordered left right).bind fun computed isBoolean => ?_
  rw [relational]
  exact returns_pure isBoolean

theorem returns_valueOf_of_ordersReferences (orders : operator.ordersReferences = true)
    (left right : Value) : (operator.valueOf left right).Returns (· = .null) := by
  have relational : operator.operation.isRelational = true :=
    BinaryOperation.isRelational_of_isOrdering (Bool.and_eq_true_iff.1 orders).1
  have computed : (Pure.pure Value.null : Evaluation Value).Returns (· = .null) := returns_pure rfl
  rw [valueOf, compute_of_ordersReferences orders, relational]
  exact computed.bind fun value isNull => returns_pure isNull

variable {State : Type} {target : Target State} {state final : State} {stack after : Stack}
  {leftOperand rightOperand : Operand} {rest : List Operand} {room : Nat}

/-- An operator that succeeds has taken its operands, and its value is in their place. -/
theorem ok_of_perform_execute (assignsNot : operator.assigns = false)
    (performed : (operator.execute ⟨rightOperand :: leftOperand :: rest, room⟩).perform target
      state = ((.ok (), after), final)) :
    ∃ value, (operator.valueOf leftOperand.value rightOperand.value ⟨rest, room + 2⟩).perform target
        state = ((.ok value, ⟨rest, room + 2⟩), final) ∧
      after = ⟨.plain value :: rest, room + 1⟩ := by
  rw [execute_values assignsNot] at performed
  rcases ok_of_perform_bind performed with ⟨value, middle, middleState, computed, pushed⟩
  have kept := ((operator.steady_valueOf leftOperand.value rightOperand.value).keepsStack
    ⟨rest, room + 2⟩).perform target state
  rw [computed] at kept
  cases kept
  cases pushed
  exact ⟨value, computed, rfl⟩

/--
What a comparison that succeeds leaves on the stack in place of its operands, whatever their values
and its type tags are and whatever the suspended program answers: a boolean, or the null reference if
it asks which of two texts or references is the smaller.
-/
theorem pushed_of_isRelational (operator : TypedBinary)
    (relational : operator.operation.isRelational = true) (assignsNot : operator.assigns = false)
    (target : Target State) (state final : State) (left right : Operand) (rest : List Operand)
    (room : Nat) (after : Stack)
    (performed : (operator.execute ⟨right :: left :: rest, room⟩).perform target state =
      ((.ok (), after), final)) :
    ∃ pushed, after = ⟨.plain pushed :: rest, room + 1⟩ ∧
      (operator.ordersReferences = false → ∃ truth, pushed = .boolean truth) ∧
      (operator.ordersReferences = true → pushed = .null) := by
  rcases ok_of_perform_execute assignsNot performed with ⟨pushed, computed, rfl⟩
  refine ⟨pushed, rfl, ?_, ?_⟩
  · intro ordered
    exact (returns_valueOf relational ordered left.value right.value).of_perform computed
  · intro orders
    exact (returns_valueOf_of_ordersReferences orders left.value right.value).of_perform computed

/--
That an object and a text are not the same is said by the frame, which answers with a boolean. Which
of two texts is the smaller is not asked, and the null reference is left.
-/
theorem pushed_of_isRelational_references :
    let object : Operand := .slot (.local "it") (.object 1 "Point")
    let first : Operand := .plain (.string "a")
    let second : Operand := .plain (.string "b")
    let differ : TypedBinary := ⟨.ne, .boolean, .object, .string, false⟩
    let less : TypedBinary := ⟨.lt, .boolean, .string, .string, false⟩
    let state : Suspended := ⟨Frame.empty, false⟩
    differ.ordersReferences = false ∧ less.ordersReferences = true ∧
      (∃ pushed, (differ.execute ⟨[first, object], 0⟩).perform Frame.target state =
          ((.ok (), ⟨[.plain pushed], 1⟩), state) ∧ ∃ truth, pushed = .boolean truth) ∧
      ∃ pushed, (less.execute ⟨[second, first], 0⟩).perform Frame.target state =
        ((.ok (), ⟨[.plain pushed], 1⟩), state) ∧ pushed = .null := by
  intro object first second differ less state
  have ordered : differ.ordersReferences = false := by decide
  have orders : less.ordersReferences = true := by decide
  have differs : (differ.execute ⟨[first, object], 0⟩).perform Frame.target state =
      ((.ok (), ⟨[.plain (.boolean true)], 1⟩), state) := rfl
  have lessThan : (less.execute ⟨[second, first], 0⟩).perform Frame.target state =
      ((.ok (), ⟨[.plain .null], 1⟩), state) := rfl
  refine ⟨ordered, orders, ⟨_, differs, ?_⟩, ⟨_, lessThan, ?_⟩⟩
  · rcases pushed_of_isRelational differ rfl rfl Frame.target state state object first [] 0 _
      differs with ⟨pushed, afterEq, isBoolean, -⟩
    cases afterEq
    exact isBoolean ordered
  · rcases pushed_of_isRelational less rfl rfl Frame.target state state first second [] 0 _
      lessThan with ⟨pushed, afterEq, -, isNull⟩
    cases afterEq
    exact isNull orders

end TypedBinary

end Watch
