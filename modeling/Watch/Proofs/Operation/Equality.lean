import Watch.Proofs.Operation.Compound

/-!
# Equality over a frame

Two values are equal as truths, as numbers of the type that they are compared in, or, as the frame
tells, as references (`Value.equalIn`). This one notion is behind both operators, so that each is
the negation of the other, and it does not matter which of two operands comes first.

As references, handles are the same if they name the same object or the same array, and texts if
they have the same characters. That is an equivalence, it is what the method `equals` of a frame
answers, and values that are the same have the same hash code.
-/

namespace Watch

open Evaluation

namespace Floating

open Float.Model (UnpackedFloat)

theorem compare_swap (left right : UnpackedFloat) :
    right.compare left = (left.compare right).map Ordering.swap := by
  have swapped (exponent other : Int) (mantissa otherMantissa : Nat) :
      (compare other exponent).then (compare otherMantissa mantissa) =
        ((compare exponent other).then (compare mantissa otherMantissa)).swap := by
    rw [Ordering.swap_then, ← Std.OrientedCmp.eq_swap, ← Std.OrientedCmp.eq_swap]
  cases left with
  | notANumber => cases right <;> rfl
  | infinity sign =>
      cases right with
      | infinity other => cases sign <;> cases other <;> rfl
      | _ => cases sign <;> rfl
  | zero sign =>
      cases right with
      | infinity other => cases other <;> rfl
      | finite other => cases other <;> rfl
      | _ => rfl
  | finite sign mantissa exponent =>
      cases right with
      | notANumber => rfl
      | infinity other => cases sign <;> cases other <;> rfl
      | zero other => cases sign <;> rfl
      | finite other otherMantissa otherExponent =>
          have turned := swapped exponent otherExponent mantissa otherMantissa
          cases sign with
          | positive =>
              cases other with
              | positive => exact congrArg some turned
              | negative => rfl
          | negative =>
              cases other with
              | positive => rfl
              | negative => exact congrArg (fun order => some order.swap) turned

/-- What is no number is equal to nothing, from either side. -/
theorem beq_comm (left right : UnpackedFloat) : left.beq right = right.beq left := by
  unfold UnpackedFloat.beq
  rw [compare_swap left right]
  rcases left.compare right with _ | _ | _ | _ <;> rfl

end Floating

namespace Value

/-- Whether a value is a reference: to nothing, to an object, to an array or to a text. -/
def isReference : Value → Bool
  | .string _ | .null | .object .. | .array .. => true
  | _ => false

/-- Whether two values are equal, compared in a type. -/
def equalIn (tag : TypeTag) (left right : Value) : Except EvaluationError Bool :=
  match tag with
  | .boolean => do return (← left.asBoolean) == (← right.asBoolean)
  | .byte | .char | .short | .int => do return (← left.asInt) == (← right.asInt)
  | .long => do return (← left.asLong) == (← right.asLong)
  | .float => do return (← left.asFloat) == (← right.asFloat)
  | .double => do return (← left.asDouble) == (← right.asDouble)
  | .string | .object | .array | .void => .ok (left.isSameReference right)

theorem equalIn_of_not_isPrimitive {tag : TypeTag} (noPrimitive : tag.isPrimitive = false)
    (left right : Value) : left.equalIn tag right = .ok (left.isSameReference right) := by
  cases tag with
  | string | object | array | void => rfl
  | _ => contradiction

/-- References that are the same: handles by what they name, and texts by their characters. -/
inductive SameReference : Value → Value → Prop where
  | null : SameReference .null .null
  | string (text : String) : SameReference (.string text) (.string text)
  | object (id : UInt64) (typeName other : String) :
      SameReference (.object id typeName) (.object id other)
  | array (id : UInt64) (element otherElement : TypeTag) (length otherLength : UInt32) :
      SameReference (.array id element length) (.array id otherElement otherLength)

theorem isSameReference_iff {left right : Value} :
    left.isSameReference right = true ↔ left.SameReference right := by
  constructor
  · intro same
    unfold isSameReference at same
    split at same
    · exact .null
    · cases beq_iff_eq.1 same
      exact .object _ _ _
    · cases beq_iff_eq.1 same
      exact .array _ _ _ _ _
    · cases beq_iff_eq.1 same
      exact .string _
    · contradiction
  · rintro (_ | text | id | id)
    · rfl
    · exact beq_self_eq_true text
    · exact beq_self_eq_true id
    · exact beq_self_eq_true id

theorem SameReference.refl {value : Value} (reference : value.isReference = true) :
    value.SameReference value := by
  cases value with
  | null => exact .null
  | string text => exact .string text
  | object id typeName => exact .object id typeName typeName
  | array id element length => exact .array id element element length length
  | _ => contradiction

theorem SameReference.symm {left right : Value} (same : left.SameReference right) :
    right.SameReference left := by
  cases same with
  | null => exact .null
  | string text => exact .string text
  | object id typeName other => exact .object id other typeName
  | array id element otherElement length otherLength => exact .array id _ _ _ _

theorem SameReference.trans {left middle right : Value} (same : left.SameReference middle)
    (sameToo : middle.SameReference right) : left.SameReference right := by
  cases same with
  | null => exact sameToo
  | string text => exact sameToo
  | object id typeName other =>
      cases sameToo
      exact .object id _ _
  | array id element otherElement length otherLength =>
      cases sameToo
      exact .array id _ _ _ _

theorem SameReference.isNull_eq {left right : Value} (same : left.SameReference right) :
    left.isNull = right.isNull := by
  cases same <;> rfl

/-- Values that are the same have one hash code, if they are no null references. -/
theorem SameReference.hashCode_eq {left right : Value} (same : left.SameReference right)
    (noNull : left.isNull = false) :
    ∃ hash, left.hashCode = .ok hash ∧ right.hashCode = .ok hash := by
  cases same with
  | null => contradiction
  | string text => exact ⟨_, rfl, rfl⟩
  | object id typeName other => exact ⟨_, rfl, rfl⟩
  | array id element otherElement length otherLength => exact ⟨_, rfl, rfl⟩

theorem isSameReference_comm (left right : Value) :
    left.isSameReference right = right.isSameReference left := by
  rw [Bool.eq_iff_iff, isSameReference_iff, isSameReference_iff]
  exact ⟨.symm, .symm⟩

theorem equivalence_isSameReference :
    Equivalence fun left right : { value : Value // value.isReference = true } =>
      left.1.isSameReference right.1 = true := by
  simp only [isSameReference_iff]
  exact ⟨fun value => .refl value.2, .symm, .trans⟩

/-- Operands that are converted first may be exchanged if the operation allows it. -/
theorem ok_of_both_comm {Operand Result : Type} {combine : Operand → Operand → Result}
    (comm : ∀ left right, combine left right = combine right left)
    (first second : Except EvaluationError Operand) (result : Result) :
    (do return combine (← first) (← second) : Except EvaluationError Result) = .ok result ↔
      (do return combine (← second) (← first) : Except EvaluationError Result) = .ok result := by
  rcases first with error | left <;> rcases second with otherError | right
  · exact iff_of_false nofun nofun
  · exact iff_of_false nofun nofun
  · exact iff_of_false nofun nofun
  · exact (congrArg (Except.ok · = Except.ok result) (comm left right)).to_iff

theorem equalIn_comm (tag : TypeTag) (left right : Value) (truth : Bool) :
    left.equalIn tag right = .ok truth ↔ right.equalIn tag left = .ok truth := by
  cases tag with
  | boolean => exact ok_of_both_comm (fun _ _ => BEq.comm) _ _ _
  | byte | char | short | int => exact ok_of_both_comm (fun _ _ => BEq.comm) _ _ _
  | long => exact ok_of_both_comm (fun _ _ => BEq.comm) _ _ _
  | float => exact ok_of_both_comm (fun _ _ => Floating.beq_comm _ _) _ _ _
  | double => exact ok_of_both_comm (fun _ _ => Floating.beq_comm _ _) _ _ _
  | string | object | array | void =>
      exact (congrArg (Except.ok · = Except.ok truth) (isSameReference_comm left right)).to_iff

section Methods

variable {receiver : Value} (noNull : receiver.isNull = false)
include noNull

theorem callMethod_equals (other : Value) :
    receiver.callMethod "equals" [other] = .ok (.boolean (receiver.isSameReference other)) := by
  unfold callMethod
  rw [noNull]
  rfl

theorem callMethod_hashCode : receiver.callMethod "hashCode" [] = receiver.hashCode.map .int := by
  unfold callMethod
  rw [noNull]
  rfl

end Methods

end Value

namespace BinaryOperation

/-- How an operator reads whether its operands are equal. -/
def equating? : BinaryOperation → Option (Bool → Bool)
  | .eq => some id
  | .ne => some not
  | _ => none

theorem isRelational_of_equating? {operation : BinaryOperation} {reading : Bool → Bool}
    (isEquality : operation.equating? = some reading) : operation.isRelational = true := by
  cases operation <;> first | rfl | cases isEquality

end BinaryOperation

namespace Frame

/-- What a computation leaves that keeps the frame: its value on top, or its error. -/
def kept (state : Suspended) (rest : List Operand) (room : Nat)
    (outcome : Except EvaluationError Value) : (Except EvaluationError Unit × Stack) × Suspended :=
  (concluded rest room outcome, state)

theorem perform_kept {evaluation : Evaluation Value} {state : Suspended} {rest : List Operand}
    {room : Nat} {outcome : Except EvaluationError Value}
    (performed : (evaluation ⟨rest, room + 1⟩).perform target state =
      ((outcome, ⟨rest, room + 1⟩), state)) :
    ((evaluation >>= pushValue) ⟨rest, room + 1⟩).perform target state =
      kept state rest room outcome := by
  cases outcome with
  | error error => exact perform_bind_of_error performed
  | ok value => exact perform_bind_of_ok performed

end Frame

namespace TypedBinary

variable {operator : TypedBinary} {reading : Bool → Bool}

/-- An operation on converted operands that reads what a test of them says. -/
theorem both_eq_map {Operand Result : Type}
    {combine : Operand → Operand → Except EvaluationError Result}
    {test : Operand → Operand → Bool} {read : Bool → Result}
    (first second : Except EvaluationError Operand)
    (reads : ∀ left right, combine left right = .ok (read (test left right))) :
    (do combine (← first) (← second)) =
      (do return test (← first) (← second) : Except EvaluationError Bool).map read := by
  rcases first with error | left <;> rcases second with otherError | right
  · rfl
  · rfl
  · rfl
  · exact reads left right

theorem perform_compute_of_equating? (isEquality : operator.operation.equating? = some reading)
    (left right : Value) (state : Suspended) (stack : Stack) :
    (operator.compute left right stack).perform Frame.target state =
      (((left.equalIn operator.workType right).map fun truth => .boolean (reading truth), stack),
        state) := by
  have lifted {outcome other : Except EvaluationError Value} (same : outcome = other) :
      (lift outcome stack).perform Frame.target state = ((other, stack), state) :=
    congrArg (fun outcome => ((outcome, stack), state)) same
  unfold compute
  generalize operator.workType = tag
  cases operationEq : operator.operation with
  | eq | ne =>
      rw [operationEq] at isEquality
      cases isEquality
      cases tag with
      | string | object | array | void => rfl
      | _ =>
          -- Only the goal says what is tested and how it is read.
          refine lifted (both_eq_map _ _ ?_)
          exact fun _ _ => rfl
  | _ =>
      rw [operationEq] at isEquality
      cases isEquality

theorem perform_valueOf_of_equating? (isEquality : operator.operation.equating? = some reading)
    (left right : Value) (state : Suspended) (stack : Stack) :
    (operator.valueOf left right stack).perform Frame.target state =
      (((left.equalIn operator.workType right).map fun truth => .boolean (reading truth), stack),
        state) := by
  have relational := BinaryOperation.isRelational_of_equating? isEquality
  have computed := perform_compute_of_equating? isEquality left right state stack
  unfold valueOf
  cases outcome : left.equalIn operator.workType right with
  | error error =>
      rw [outcome] at computed
      exact perform_bind_of_error computed
  | ok truth =>
      rw [outcome] at computed
      rw [perform_bind_of_ok computed, relational]
      rfl

/-- What an operator leaves in place of its operands over a frame, which it keeps as it is. -/
def Leaves (operator : TypedBinary) (state : Suspended) (left right : Operand)
    (outcome : Except EvaluationError Value) : Prop :=
  ∀ rest room, (operator.execute ⟨right :: left :: rest, room⟩).perform Frame.target state =
    Frame.kept state rest (room + 1) outcome

theorem leaves_of_equating? (isEquality : operator.operation.equating? = some reading)
    (assignsNot : operator.assigns = false) (left right : Operand) (state : Suspended) :
    operator.Leaves state left right
      ((left.value.equalIn operator.workType right.value).map fun truth =>
        .boolean (reading truth)) := by
  intro rest room
  rw [execute_values assignsNot]
  exact Frame.perform_kept (perform_valueOf_of_equating? isEquality _ _ state _)

/-- A compound assignment of a comparison stores what the comparison leaves. -/
theorem perform_execute_of_equating?
    (isEquality : operator.operation.equating? = some reading) (assigns : operator.assigns = true)
    {location : Location} {state : Suspended} {old : Value}
    (fetched : state.frame.fetch location = .ok old) (left : Value) (right : Operand)
    (rest : List Operand) (room : Nat) :
    (operator.execute ⟨right :: .slot location left :: rest, room⟩).perform Frame.target state =
      assigned state location rest (room + 1)
        ((left.equalIn operator.workType right.value).map fun truth =>
          .boolean (reading truth)) := by
  rw [execute_slot assigns]
  exact perform_assigned fetched _ (perform_valueOf_of_equating? isEquality _ _ state _)

end TypedBinary

namespace InstructionKind

/-- A frame answers a call of a method with what the receiver answers, below its arguments. -/
theorem perform_callMethod (method : String) (receiver : Operand) (arguments : List Operand)
    {count : UInt64} (counted : (count + 1).toNat = arguments.length + 1) (state : Suspended)
    (rest : List Operand) (room : Nat) :
    (callMethod method count none ⟨arguments.reverse ++ receiver :: rest, room⟩).perform
        Frame.target state =
      Frame.kept state rest (room + arguments.length)
        (receiver.value.callMethod method (arguments.map Operand.value)) := by
  have countEq : operandCount count none = arguments.length + 1 ∧
      arguments.length + 1 < UInt64.size := by
    have countLt := count.toNat_lt
    rw [UInt64.toNat_add, UInt64.toNat_one] at counted
    simp only [operandCount, Option.isNone_none, if_true, UInt64.size]
    omega
  have popped : popOperands count none ⟨arguments.reverse ++ receiver :: rest, room⟩ =
      .done (.ok (receiver.value :: arguments.map Operand.value),
        ⟨rest, room + arguments.length + 1⟩) := by
    have operandsEq : arguments.reverse ++ receiver :: rest =
        (receiver :: arguments).reverse ++ rest := by simp
    have lengthEq : (receiver :: arguments).reverse.length = arguments.length + 1 := by simp
    have fits : arguments.length + 1 ≤ ((receiver :: arguments).reverse ++ rest).length := by
      rw [List.length_append, lengthEq]
      exact Nat.le_add_right _ _
    simp only [popOperands, countEq.1, if_pos countEq.2, popValues, Stack.popMany, Stack.depth,
      operandsEq, if_pos fits, List.take_left' lengthEq, List.drop_left' lengthEq,
      List.reverse_reverse, List.map_cons, Nat.add_assoc]
  unfold callMethod
  refine (perform_bind_of_ok (congrArg (Action.perform Frame.target · state) popped)).trans ?_
  exact Frame.perform_kept rfl

end InstructionKind

namespace TypedBinary

/--
Equality over a frame. Whatever the type tags and the operands are, one operator is the negation of
the other, with the same errors, also where a compound assignment stores what it says; and operands
that are exchanged, together with their tags, are equal as before. Where references are compared,
equality is an equivalence of references, answers what the method `equals` answers, and entails that
the method `hashCode` answers the same.
-/
theorem equality_laws (state : Suspended) (result leftTag rightTag : TypeTag) :
    let equals (assigns : Bool) : TypedBinary := ⟨.eq, result, leftTag, rightTag, assigns⟩
    let differs (assigns : Bool) : TypedBinary := ⟨.ne, result, leftTag, rightTag, assigns⟩
    let swapped : TypedBinary := ⟨.eq, result, rightTag, leftTag, false⟩
    (∀ left right, ∃ outcome other : Except EvaluationError Bool,
      (equals false).Leaves state left right (outcome.map .boolean) ∧
      (differs false).Leaves state left right (outcome.map fun truth => .boolean !truth) ∧
      (∀ location old rest room, left = .slot location left.value →
        state.frame.fetch location = .ok old →
        ((equals true).execute ⟨right :: left :: rest, room⟩).perform Frame.target state =
            assigned state location rest (room + 1) (outcome.map .boolean) ∧
          ((differs true).execute ⟨right :: left :: rest, room⟩).perform Frame.target state =
            assigned state location rest (room + 1) (outcome.map fun truth => .boolean !truth)) ∧
      swapped.Leaves state right left (other.map .boolean) ∧
      ∀ truth, outcome = .ok truth ↔ other = .ok truth) ∧
    ((leftTag.binaryPromotion rightTag).isPrimitive = false →
      (∀ left right, (equals false).Leaves state left right
        (.ok (.boolean (left.value.isSameReference right.value)))) ∧
      (Equivalence fun left right : { value : Value // value.isReference = true } =>
        left.1.isSameReference right.1 = true) ∧
      (∀ left right rest room, left.value.isNull = false →
        (InstructionKind.callMethod "equals" 1 none ⟨right :: left :: rest, room⟩).perform
            Frame.target state =
          Frame.kept state rest (room + 1)
            (.ok (.boolean (left.value.isSameReference right.value)))) ∧
      ∀ left right : Operand, left.value.isSameReference right.value = true →
        left.value.isNull = false →
        ∃ hash, ∀ operand rest room, operand = left ∨ operand = right →
          (InstructionKind.callMethod "hashCode" 0 none ⟨operand :: rest, room⟩).perform
              Frame.target state =
            Frame.kept state rest room (.ok (.int hash))) := by
  intro equals differs swapped
  refine ⟨?_, ?_⟩
  · intro left right
    refine ⟨left.value.equalIn (leftTag.binaryPromotion rightTag) right.value,
      right.value.equalIn (leftTag.binaryPromotion rightTag) left.value,
      leaves_of_equating? rfl rfl left right state, leaves_of_equating? rfl rfl left right state,
      ?_, ?_, Value.equalIn_comm _ _ _⟩
    · intro location old rest room isSlot fetched
      rw [isSlot]
      exact ⟨perform_execute_of_equating? rfl rfl fetched _ right rest room,
        perform_execute_of_equating? rfl rfl fetched _ right rest room⟩
    · rw [TypeTag.binaryPromotion_comm]
      exact leaves_of_equating? rfl rfl right left state
  · intro noPrimitive
    refine ⟨?_, Value.equivalence_isSameReference, ?_, ?_⟩
    · intro left right rest room
      have same := Value.equalIn_of_not_isPrimitive noPrimitive left.value right.value
      refine (leaves_of_equating? rfl rfl left right state rest room).trans ?_
      exact congrArg (fun outcome => Frame.kept state rest (room + 1) (outcome.map .boolean)) same
    · intro left right rest room noNull
      rw [← Value.callMethod_equals noNull]
      exact InstructionKind.perform_callMethod "equals" left [right] rfl state rest room
    · intro left right same noNull
      have sameReference := Value.isSameReference_iff.1 same
      have noNullToo : right.value.isNull = false := sameReference.isNull_eq ▸ noNull
      rcases sameReference.hashCode_eq noNull with ⟨hash, isHash, isHashToo⟩
      refine ⟨hash, fun operand rest room either => ?_⟩
      have answered : operand.value.callMethod "hashCode" [] = .ok (.int hash) := by
        rcases either with rfl | rfl
        · rw [Value.callMethod_hashCode noNull, isHash]
          rfl
        · rw [Value.callMethod_hashCode noNullToo, isHashToo]
          rfl
      rw [← answered]
      exact InstructionKind.perform_callMethod "hashCode" operand [] rfl state rest room

/-- Two handles of one object, under the tags of a text and an object. -/
theorem equality_laws_handles :
    let state : Suspended := ⟨Frame.empty, false⟩
    let left : Operand := .plain (.object 7 "Point")
    let right : Operand := .plain (.object 7 "Shape")
    let equals : TypedBinary := ⟨.eq, .int, .string, .object, false⟩
    (TypeTag.string.binaryPromotion .object).isPrimitive = false ∧
      equals.Leaves state left right (.ok (.boolean true)) ∧
      (InstructionKind.callMethod "equals" 1 none ⟨[right, left], 0⟩).perform Frame.target state =
        Frame.kept state [] 1 (.ok (.boolean true)) ∧
      ∃ hash, ∀ operand rest room, operand = left ∨ operand = right →
        (InstructionKind.callMethod "hashCode" 0 none ⟨operand :: rest, room⟩).perform
            Frame.target state =
          Frame.kept state rest room (.ok (.int hash)) := by
  intro state left right equals
  rcases equality_laws state .int .string .object with ⟨-, ofReferences⟩
  rcases ofReferences rfl with ⟨equated, -, answered, hashed⟩
  exact ⟨rfl, equated left right, answered left right [] 0 rfl, hashed left right rfl rfl⟩

end TypedBinary

end Watch
