import Watch.Proofs.Operation.Operands
import Watch.Proofs.Value.Coercion

/-!
# Operands in the type of the result

An operator on numbers that is neither a shift nor a comparison works in the type of its result,
whatever the tags of its operands are. So one may as well convert the operands to that type
beforehand (`TypedBinary.convertOperands`) and tag all three alike: the value is the same, and so is
the error, be it of a conversion, of the left operand before the right one, or of a division by
zero.

The main statement is `TypedBinary.execute_of_isPromoted`.
-/

namespace Watch

open Evaluation

/-- The types of numbers in which operators work. -/
def TypeTag.isPromoted : TypeTag → Bool
  | .int | .long | .float | .double => true
  | _ => false

theorem TypeTag.unaryPromotion_of_isPromoted {tag : TypeTag} (promoted : tag.isPromoted = true) :
    tag.unaryPromotion = tag := by
  cases tag <;> first | rfl | contradiction

/-- Operands that were converted are read as what they were converted from. -/
theorem Value.both_of_convertTo {Number : Type} {read : Value → Except EvaluationError Number}
    {make : Number → Value} {tag : TypeTag}
    (converts : ∀ value : Value, value.convertTo tag = (read value).map make)
    (reads : ∀ number, read (make number) = .ok number)
    (combine : Number → Number → Except EvaluationError Value) (left right : Value) :
    (do combine (← read left) (← read right)) =
      (do
        let left ← left.convertTo tag
        let right ← right.convertTo tag
        combine (← read left) (← read right)) := by
  rw [converts left, converts right]
  cases read left with
  | error error => rfl
  | ok leftNumber =>
      cases read right with
      | error error => rfl
      | ok rightNumber =>
          change _ = (do combine (← read (make leftNumber)) (← read (make rightNumber)))
          rw [reads, reads]

namespace TypedBinary

variable {operation : BinaryOperation} {tag : TypeTag}

/-- In a type of numbers an operator makes no call, and converts its operands to that type. -/
theorem exists_computed (operation : BinaryOperation) (promoted : tag.isPromoted = true) :
    ∃ computed : Value → Value → Except EvaluationError Value,
      (∀ operator : TypedBinary, operator.operation = operation → operator.workType = tag →
        ∀ left right, operator.compute left right = lift (computed left right)) ∧
      ∀ left right, computed left right =
        (do computed (← left.convertTo tag) (← right.convertTo tag)) := by
  cases tag with
  | int =>
      refine ⟨_, ?_, Value.both_of_convertTo Value.convertTo_int (fun _ => rfl) operation.onInts⟩
      rintro operator rfl worksIn
      exact compute_of_int worksIn
  | long =>
      refine ⟨_, ?_, Value.both_of_convertTo Value.convertTo_long (fun _ => rfl) operation.onLongs⟩
      rintro operator rfl worksIn
      exact compute_of_long worksIn
  | float =>
      refine ⟨_, ?_, Value.both_of_convertTo Value.convertTo_float (fun _ => rfl)
        fun left right => .ok (operation.onFloats left right)⟩
      rintro operator rfl worksIn left right
      rw [compute, worksIn]
      rfl
  | double =>
      refine ⟨_, ?_, Value.both_of_convertTo Value.convertTo_double (fun _ => rfl)
        fun left right => .ok (operation.onDoubles left right)⟩
      rintro operator rfl worksIn left right
      rw [compute, worksIn]
      rfl
  | _ => contradiction

theorem valueOf_of_compute {operator : TypedBinary} {left right : Value}
    {computed : Except EvaluationError Value}
    (isComputed : operator.compute left right = lift computed)
    (noComparison : operator.operation.isRelational = false) :
    operator.valueOf left right =
      lift (computed.bind fun value => value.convertTo operator.result) := by
  rw [valueOf, isComputed, noComparison]
  cases computed <;> rfl

theorem workType_of_isPromoted {operator : TypedBinary}
    (noShift : operator.operation.isShift = false)
    (noComparison : operator.operation.isRelational = false)
    (assignsNot : operator.assigns = false) (promoted : operator.result.isPromoted = true) :
    operator.workType = operator.result := by
  simp [workType, noShift, noComparison, assignsNot,
    TypeTag.unaryPromotion_of_isPromoted promoted]

/-- The tags of the operands do not count, and converted operands leave what the operands leave. -/
theorem exists_outcome (noShift : operation.isShift = false)
    (noComparison : operation.isRelational = false) (promoted : tag.isPromoted = true) :
    ∃ outcome : Value → Value → Except EvaluationError Value,
      (∀ (leftTag rightTag : TypeTag) (left right : Operand) (rest : List Operand) (room : Nat),
        (⟨operation, tag, leftTag, rightTag, false⟩ : TypedBinary).execute
            ⟨right :: left :: rest, room⟩ =
          .done (concluded rest (room + 1) (outcome left.value right.value))) ∧
      ∀ left right, outcome left right =
        (do outcome (← left.convertTo tag) (← right.convertTo tag)) := by
  rcases exists_computed operation promoted with ⟨computed, isComputed, converts⟩
  refine ⟨fun left right => (computed left right).bind fun value => value.convertTo tag, ?_, ?_⟩
  · intro leftTag rightTag left right rest room
    have worksIn : (⟨operation, tag, leftTag, rightTag, false⟩ : TypedBinary).workType = tag :=
      workType_of_isPromoted noShift noComparison rfl promoted
    rw [execute_values rfl,
      valueOf_of_compute (isComputed _ rfl worksIn left.value right.value) noComparison]
    exact lift_bind_pushValue _ rest (room + 1)
  · intro left right
    simp only [converts left right]
    cases left.convertTo tag with
    | error error => rfl
    | ok leftConverted => cases right.convertTo tag <;> rfl

/-- Converts the two operands on top to a type, the left one first. -/
def convertOperands (tag : TypeTag) : Evaluation Unit := do
  let right ← popValue
  let left ← popValue
  let leftConverted ← lift (left.convertTo tag)
  let rightConverted ← lift (right.convertTo tag)
  pushValue leftConverted
  pushValue rightConverted

theorem convertOperands_bind (tag : TypeTag) (next : Evaluation Unit) (left right : Operand)
    (rest : List Operand) (room : Nat) :
    (do convertOperands tag; next) ⟨right :: left :: rest, room⟩ =
      match left.value.convertTo tag, right.value.convertTo tag with
      | .ok leftConverted, .ok rightConverted =>
        next ⟨.plain rightConverted :: .plain leftConverted :: rest, room⟩
      | .error error, _ | .ok _, .error error => .done (.error error, ⟨rest, room + 2⟩) := by
  have converted : convertOperands tag ⟨right :: left :: rest, room⟩ =
      (do
        let leftConverted ← lift (left.value.convertTo tag)
        let rightConverted ← lift (right.value.convertTo tag)
        pushValue leftConverted
        pushValue rightConverted : Evaluation Unit) ⟨rest, room + 2⟩ :=
    rfl
  change (convertOperands tag ⟨right :: left :: rest, room⟩).bind _ = _
  rw [converted]
  cases left.value.convertTo tag with
  | error error => rfl
  | ok leftConverted => cases right.value.convertTo tag <;> rfl

/--
An operator whose result is a number of a type that operators work in, and which is neither a shift
nor a comparison nor a compound assignment. However its operands are tagged, it does what converting
both to the result type does, followed by the same operator with this type in all three places. So
it leaves what that operator leaves of the converted operands, or fails with its error; and if an
operand cannot be converted, it fails with the error of the first that cannot, the left one before
the right one.
-/
theorem execute_of_isPromoted (operation : BinaryOperation)
    (noShift : operation.isShift = false) (noComparison : operation.isRelational = false)
    (result : TypeTag) (promoted : result.isPromoted = true) (leftTag rightTag : TypeTag) :
    let operator : TypedBinary := ⟨operation, result, leftTag, rightTag, false⟩
    let uniform : TypedBinary := ⟨operation, result, result, result, false⟩
    operator.execute = (do convertOperands result; uniform.execute) ∧
    ∃ outcome : Value → Value → Except EvaluationError Value,
      (∀ left right rest room, uniform.execute ⟨.plain right :: .plain left :: rest, room⟩ =
        .done (concluded rest (room + 1) (outcome left right))) ∧
      ∀ (left right : Operand) (rest : List Operand) (room : Nat),
        operator.execute ⟨right :: left :: rest, room⟩ =
          .done (concluded rest (room + 1) (do
            let left ← left.value.convertTo result
            let right ← right.value.convertTo result
            outcome left right)) := by
  intro operator uniform
  rcases exists_outcome noShift noComparison promoted with ⟨outcome, leaves, converts⟩
  refine ⟨?_, outcome, ?_, ?_⟩
  · funext stack
    rcases stack with ⟨_ | ⟨right, _ | ⟨left, rest⟩⟩, room⟩
    · rfl
    · rfl
    · rw [convertOperands_bind, leaves, converts]
      cases left.value.convertTo result with
      | error error => rfl
      | ok leftConverted =>
          cases right.value.convertTo result with
          | error error => rfl
          | ok rightConverted =>
              exact (leaves result result (.plain leftConverted) (.plain rightConverted) rest
                room).symm
  · intro left right rest room
    exact leaves result result (.plain left) (.plain right) rest room
  · intro left right rest room
    rw [← converts]
    exact leaves leftTag rightTag left right rest room

/-- Quotients as a `long`, one of them by a half, which counts as zero, and one of no numbers. -/
theorem execute_of_isPromoted_quotient :
    let quotient (leftTag rightTag : TypeTag) : TypedBinary :=
      ⟨.div, .long, leftTag, rightTag, false⟩
    BinaryOperation.isShift .div = false ∧ BinaryOperation.isRelational .div = false ∧
      TypeTag.long.isPromoted = true ∧
      (quotient .char .string).execute =
        (do convertOperands .long; (quotient .long .long).execute) ∧
      (quotient .char .string).execute ⟨[.plain (.byte (-2)), .plain (.char 65535)], 0⟩ =
        .done (.ok (), ⟨[.plain (.long (-32767))], 1⟩) ∧
      (quotient .int .double).execute ⟨[.plain (.double 0.5), .plain (.int 7)], 0⟩ =
        .done (.error .divisionByZero, ⟨[], 2⟩) ∧
      (quotient .int .double).execute ⟨[.plain .null, .plain (.boolean true)], 0⟩ =
        .done (.error (.coercion "long" "boolean"), ⟨[], 2⟩) := by
  intro quotient
  have promotes := execute_of_isPromoted .div rfl rfl .long rfl
  rcases promotes .char .string with ⟨same, outcome, uniformly, leaves⟩
  rcases promotes .int .double with ⟨-, outcomeToo, uniformlyToo, leavesToo⟩
  refine ⟨rfl, rfl, rfl, same, ?_, ?_, ?_⟩
  · exact (leaves (.plain (.char 65535)) (.plain (.byte (-2))) [] 0).trans
      (uniformly (.long 65535) (.long (-2)) [] 0).symm
  · exact (leavesToo (.plain (.int 7)) (.plain (.double 0.5)) [] 0).trans
      (uniformlyToo (.long 7) (.long 0) [] 0).symm
  · exact leavesToo (.plain (.boolean true)) (.plain .null) [] 0

end TypedBinary

end Watch
