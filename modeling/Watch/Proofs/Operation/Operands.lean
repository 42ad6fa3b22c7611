import Watch.Frame.Invocation
import Watch.Operation.Unary
import Watch.Proofs.Evaluation.Performance
import Watch.Proofs.Value.Integral

/-!
# Operators on the operands on top

What an operator does once its operands are there: it has taken them from the stack, and what is
left is to compute its value and to put that in their place, after a store if it is a compound
assignment. Where an operator works on whole numbers, its value takes no call
(`TypedBinary.compute_of_int`, `TypedBinary.compute_of_long`).
-/

namespace Watch

namespace Evaluation

variable {Result Next : Type}

theorem lift_ok_bind (result : Result) (next : Result → Evaluation Next) :
    (lift (.ok result) >>= next) = next result :=
  rfl

/-- Stores a value into a location and leaves it, or another one, on the stack. -/
def storeAndPush (location : Location) (stored pushed : Value) : Evaluation Unit := do
  store location stored
  pushValue pushed

/-- What an operator leaves whose operands were taken: its value on the stack, or its error. -/
def concluded (rest : List Operand) (room : Nat) :
    Except EvaluationError Value → Except EvaluationError Unit × Stack
  | .ok value => (.ok (), ⟨.plain value :: rest, room⟩)
  | .error error => (.error error, ⟨rest, room + 1⟩)

theorem lift_bind_pushValue (outcome : Except EvaluationError Value) (rest : List Operand)
    (room : Nat) :
    (lift outcome >>= pushValue) ⟨rest, room + 1⟩ = .done (concluded rest room outcome) := by
  cases outcome <;> rfl

end Evaluation

open Evaluation

namespace TypeTag

/-- The two types in which operators work on whole numbers. -/
def IsWord (tag : TypeTag) : Prop :=
  tag = .int ∨ tag = .long

/-- The whole numbers that a type with a sign holds. -/
def Holds (tag : TypeTag) (number : Int) : Prop :=
  -2 ^ (tag.bits - 1) ≤ number ∧ number < 2 ^ (tag.bits - 1)

variable {tag left right : TypeTag}

theorem IsWord.isIntegral (word : tag.IsWord) : tag.isIntegral = true := by
  rcases word with rfl | rfl <;> rfl

/-- The numbers that a word holds are those that it stands for when it keeps them. -/
theorem bmod_eq_iff {number : Int} (word : tag.IsWord) :
    number.bmod (2 ^ tag.bits) = number ↔ tag.Holds number := by
  rcases word with rfl | rfl <;> simp only [Holds, bits, Int.bmod] <;> omega

/-- A unary operator works in a type that is as wide as an integral type. -/
theorem isWord_unaryPromotion (integral : tag.isIntegral = true) :
    tag.unaryPromotion.IsWord ∧ tag.bits ≤ tag.unaryPromotion.bits := by
  cases tag with
  | byte | char | short | int => exact ⟨.inl rfl, by decide⟩
  | long => exact ⟨.inr rfl, by decide⟩
  | _ => contradiction

/-- A binary operator works in a type that is as wide as its integral left operand. -/
theorem isWord_binaryPromotion (integral : left.isIntegral = true)
    (integralToo : right.isIntegral = true) :
    (left.binaryPromotion right).IsWord ∧ left.bits ≤ (left.binaryPromotion right).bits := by
  cases left <;> cases right <;> first
    | contradiction
    | exact ⟨.inl rfl, by decide⟩
    | exact ⟨.inr rfl, by decide⟩

theorem unaryPromotion_unaryPromotion (tag : TypeTag) :
    tag.unaryPromotion.unaryPromotion = tag.unaryPromotion := by
  cases tag <;> rfl

theorem unaryPromotion_binaryPromotion (left right : TypeTag) :
    (left.binaryPromotion right).unaryPromotion = left.binaryPromotion right := by
  cases left <;> cases right <;> rfl

theorem binaryPromotion_comm (left right : TypeTag) :
    left.binaryPromotion right = right.binaryPromotion left := by
  cases left <;> cases right <;> rfl

end TypeTag

namespace Value

variable {value : Value} {number : Int} {tag : TypeTag}

theorem holds_of_integer? (isInteger : value.integer? = some number) (word : tag.IsWord)
    (fits : value.tag.bits ≤ tag.bits) : tag.Holds number := by
  cases value with
  | byte own | short own | int own | long own =>
      cases isInteger
      have lower := own.le_toInt
      have upper := own.toInt_lt
      rcases word with rfl | rfl <;>
        simp only [TypeTag.Holds, TypeTag.bits, Value.tag] at fits ⊢ <;> omega
  | char unit =>
      cases isInteger
      have upper := unit.toNat_lt
      rcases word with rfl | rfl <;> simp only [TypeTag.Holds, TypeTag.bits] <;> omega
  | _ => cases isInteger

/-- A word stands for the one number in its range that is congruent to the number it keeps. -/
theorem integer?_ofInteger_of_isWord (word : tag.IsWord) (number : Int) :
    (ofInteger number tag).integer? = some (number.bmod (2 ^ tag.bits)) := by
  rcases word with rfl | rfl
  · exact congrArg some Int32.toInt_ofInt
  · exact congrArg some Int64.toInt_ofInt

theorem integer?_ofInteger_of_holds (word : tag.IsWord) (holds : tag.Holds number) :
    (ofInteger number tag).integer? = some number := by
  rw [integer?_ofInteger_of_isWord word, (TypeTag.bmod_eq_iff word).2 holds]

end Value

namespace TypedBinary

variable {operator : TypedBinary}

/-- No operator works in a type that is narrower than `int`. -/
theorem unaryPromotion_workType (operator : TypedBinary) :
    operator.workType.unaryPromotion = operator.workType := by
  unfold workType
  split
  · exact TypeTag.unaryPromotion_unaryPromotion _
  · split
    · exact TypeTag.unaryPromotion_binaryPromotion _ _
    · exact TypeTag.unaryPromotion_unaryPromotion _

theorem workType_of_isShift (shifts : operator.operation.isShift = true) :
    operator.workType = operator.left.unaryPromotion :=
  if_pos shifts

theorem workType_of_isRelational (relational : operator.operation.isRelational = true) :
    operator.workType = operator.left.binaryPromotion operator.right := by
  rcases operator with ⟨operation, result, left, right, assigns⟩
  cases operation with
  | lt | le | gt | ge | eq | ne => rfl
  | _ => contradiction

theorem workType_compound {operation : BinaryOperation}
    (noShift : operation.isShift = false) (left right : TypeTag) :
    (compound operation left right).workType = left.binaryPromotion right := by
  simp [workType, compound, noShift]

theorem execute_values (assignsNot : operator.assigns = false) (left right : Operand)
    (rest : List Operand) (room : Nat) :
    operator.execute ⟨right :: left :: rest, room⟩ =
      (operator.valueOf left.value right.value >>= pushValue) ⟨rest, room + 2⟩ := by
  rw [execute, assignsNot]
  rfl

/-- The value of a comparison is not converted to the result type. -/
theorem execute_of_compute {left right : Operand} {computed : Value}
    (isComputed : operator.compute left.value right.value = lift (.ok computed))
    (assignsNot : operator.assigns = false) (rest : List Operand) (room : Nat) :
    operator.execute ⟨right :: left :: rest, room⟩ =
      .done (concluded rest (room + 1)
        (if operator.operation.isRelational then .ok computed
        else computed.convertTo operator.result)) := by
  rw [execute_values assignsNot, valueOf, isComputed, lift_ok_bind, ← lift_bind_pushValue]
  cases operator.operation.isRelational <;> rfl

section Performed

variable {State : Type} {target : Target State} {state final : State}
  {rest : List Operand} {room : Nat}

theorem perform_execute_of_ok (assignsNot : operator.assigns = false) (left right : Operand)
    {value : Value}
    (performed : (operator.valueOf left.value right.value ⟨rest, room + 2⟩).perform target state =
      ((.ok value, ⟨rest, room + 2⟩), final)) :
    (operator.execute ⟨right :: left :: rest, room⟩).perform target state =
      ((.ok (), ⟨.plain value :: rest, room + 1⟩), final) := by
  rw [execute_values assignsNot]
  exact perform_bind_of_ok performed

theorem perform_execute_of_error (assignsNot : operator.assigns = false) (left right : Operand)
    {error : EvaluationError}
    (performed : (operator.valueOf left.value right.value ⟨rest, room + 2⟩).perform target state =
      ((.error error, ⟨rest, room + 2⟩), final)) :
    (operator.execute ⟨right :: left :: rest, room⟩).perform target state =
      ((.error error, ⟨rest, room + 2⟩), final) := by
  rw [execute_values assignsNot]
  exact perform_bind_of_error performed

end Performed

theorem execute_slot (assigns : operator.assigns = true) (location : Location) (left : Value)
    (right : Operand) (rest : List Operand) (room : Nat) :
    operator.execute ⟨right :: .slot location left :: rest, room⟩ =
      (operator.valueOf left right.value >>= fun value => storeAndPush location value value)
        ⟨rest, room + 2⟩ := by
  rw [execute, assigns]
  rfl

theorem compute_of_int (worksInInt : operator.workType = .int) (left right : Value) :
    operator.compute left right =
      lift (do operator.operation.onInts (← left.asInt) (← right.asInt)) := by
  rw [compute, worksInInt]

theorem compute_of_long (worksInLong : operator.workType = .long) (left right : Value) :
    operator.compute left right =
      lift (do operator.operation.onLongs (← left.asLong) (← right.asLong)) := by
  rw [compute, worksInLong]

end TypedBinary

theorem TypedUnary.execute_value {operator : TypedUnary}
    (updatesNot : operator.operation.isUpdate = false) (operand : Operand) (rest : List Operand)
    (room : Nat) :
    operator.execute ⟨operand :: rest, room⟩ =
      .done (concluded rest room
        (do (← operator.compute operand.value).convertTo operator.result)) := by
  rw [execute, updatesNot, ← lift_bind_pushValue]
  change (lift (operator.compute operand.value) >>= fun computed =>
    lift (computed.convertTo operator.result) >>= pushValue) ⟨rest, room + 1⟩ = _
  cases operator.compute operand.value <;> rfl

/-! ## Locations of a frame -/

namespace Frame

variable {Result : Type} {state : Suspended} {location : Location} {old : Value}

theorem answer_fetch (fetched : state.frame.fetch location = .ok old) :
    target.answer (.fetch location) state = (.ok old, state) := by
  simp only [target, answer, fetched]

theorem answer_store (fetched : state.frame.fetch location = .ok old) (value : Value) :
    target.answer (.store location value) state =
      (.ok (), { state with frame := state.frame.write location value }) := by
  simp only [target, answer, store, fetched, Except.map]

theorem perform_pushSlot (fetched : state.frame.fetch location = .ok old)
    (next : Unit → Evaluation Result) (rest : List Operand) (room : Nat) :
    ((pushSlot location >>= next) ⟨rest, room + 1⟩).perform target state =
      (next () ⟨.slot location old :: rest, room⟩).perform target state :=
  Action.perform_ask target (answer_fetch fetched) _

theorem perform_storeAndPush (fetched : state.frame.fetch location = .ok old)
    (stored pushed : Value) (rest : List Operand) (room : Nat) :
    (storeAndPush location stored pushed ⟨rest, room + 1⟩).perform target state =
      ((.ok (), ⟨.plain pushed :: rest, room⟩),
        { state with frame := state.frame.write location stored }) :=
  Action.perform_ask target (answer_store fetched stored) _

end Frame

end Watch
