import Watch.Proofs.Operation.Comparison
import Watch.Proofs.Operation.Sign
import Watch.Proofs.Value.Coercion

/-!
# Operators that mean nothing for their operands

Bits of a floating-point number, the order of two truths, the product of two texts, the negation of
a number: such an operator has no value of its own. The blank of a type stands in for it, that is
zero, false or the null reference (`TypeTag.blank`), and no call on the suspended program is made.

The blank does not always get to the stack. It is converted as any value is, which fails where the
result type has nothing to do with the type of the blank; of the operators with two operands only
shifts get there, whose type is that of the left operand alone. An operator with one operand goes by
its result type, so that an operand for which it means nothing is not seen where the result is of a
type for which it means something: a negation whose result is a truth fails on a number, and a
complement whose result is a whole number complements the whole part of its operand. When a blank is
left is said by `concluded_of_isInapplicable` for each operator.
-/

namespace Watch

open Evaluation

namespace TypeTag

/-- Zero, false or the null reference, as a value of a type. -/
def blank : TypeTag → Value
  | .boolean => .boolean false
  | .byte => .byte 0
  | .char => .char 0
  | .short => .short 0
  | .int => .int 0
  | .long => .long 0
  | .float => .float 0
  | .double => .double 0
  | .object | .array | .void | .string => .null

/-- Types of one kind, numbers, truths or references, between which blanks convert. -/
def isKin (source target : TypeTag) : Bool :=
  source.isNumeric && target.isNumeric || source == .boolean && target == .boolean ||
    !source.isPrimitive && !target.isPrimitive && target != .void

variable {source target : TypeTag}

theorem blank_eq_ofInteger (integral : source.isIntegral = true) :
    source.blank = .ofInteger 0 source := by
  cases source with
  | byte | char | short | int | long => rfl
  | _ => contradiction

theorem convertTo_blank (kin : source.isKin target = true) :
    source.blank.convertTo target = .ok target.blank := by
  cases source with
  | boolean =>
      cases target with
      | boolean => rfl
      | _ => contradiction
  | byte | char | short | int | long | float | double =>
      cases target with
      | byte | char | short | int | long | float | double => rfl
      | _ => contradiction
  | object | array | void | string =>
      cases target with
      | object | array | string => rfl
      | _ => contradiction

theorem convertTo_blank_string (primitive : source.isPrimitive = true) :
    ∃ text, source.blank.plainText = some text ∧
      source.blank.convertTo .string = .ok (.string text) := by
  cases source with
  | boolean | byte | char | short | int | long | float | double => exact ⟨_, rfl, rfl⟩
  | _ => contradiction

theorem convertTo_blank_of_not_isKin (alien : source.isKin target = false)
    (noText : target ≠ .string) :
    ∃ expected, source.blank.convertTo target = .error (source.blank.coercion expected) := by
  have fails : ∃ error, source.blank.convertTo target = .error error := by
    cases source with
    | boolean =>
        cases target with
        | boolean | string => contradiction
        | _ => exact ⟨_, rfl⟩
    | byte | char | short | int | long | float | double =>
        cases target with
        | boolean | object | array | void => exact ⟨_, rfl⟩
        | _ => contradiction
    | object | array | void | string =>
        cases target with
        | object | array | string => contradiction
        | _ => exact ⟨_, rfl⟩
  rcases fails with ⟨error, failed⟩
  rcases Value.complains_convertTo _ _ error failed with ⟨expected, rfl⟩
  exact ⟨expected, failed⟩

end TypeTag

namespace Value

/-- Zero, false or the null reference, of whatever type. -/
def IsBlank (value : Value) : Prop :=
  value = value.tag.blank

theorem isBlank_blank (tag : TypeTag) : tag.blank.IsBlank := by
  cases tag <;> rfl

theorem isBlank_ofInteger_iff {tag : TypeTag} (integral : tag.isIntegral = true) (number : Int) :
    (ofInteger number tag).IsBlank ↔ number ≡ 0 [ZMOD 2 ^ tag.bits] := by
  rw [IsBlank, tag_ofInteger number integral, TypeTag.blank_eq_ofInteger integral,
    ofInteger_eq_iff integral]

theorem isBlank_complement_iff {tag : TypeTag} (integral : tag.isIntegral = true) (number : Int) :
    (ofInteger (-number - 1) tag).IsBlank ↔ number ≡ -1 [ZMOD 2 ^ tag.bits] := by
  have sameDistance : -number - 1 = -1 - number := by omega
  rw [isBlank_ofInteger_iff integral, Int.modEq_zero_iff_dvd, Int.modEq_iff_dvd, sameDistance]

end Value

/-- Whether an operator with this outcome leaves a blank. -/
def LeavesBlank (outcome : Except EvaluationError Value) : Prop :=
  ∃ value, outcome = .ok value ∧ value.IsBlank

theorem leavesBlank_ok_iff {value : Value} : LeavesBlank (.ok value) ↔ value.IsBlank := by
  simp [LeavesBlank]

theorem not_leavesBlank_error (error : EvaluationError) : ¬LeavesBlank (.error error) := by
  simp [LeavesBlank]

theorem leavesBlank_ok_blank (tag : TypeTag) : LeavesBlank (.ok tag.blank) :=
  leavesBlank_ok_iff.2 (Value.isBlank_blank tag)

/-- A blank stays one among the types of a kind, and nowhere else. -/
theorem TypeTag.leavesBlank_convertTo_blank_iff {source target : TypeTag} :
    LeavesBlank (source.blank.convertTo target) ↔ source.isKin target = true := by
  constructor
  · intro leaves
    by_contra notKin
    have alien : source.isKin target = false := Bool.eq_false_iff.2 notKin
    by_cases isText : target = .string
    · subst isText
      cases primitive : source.isPrimitive with
      | true =>
          rcases convertTo_blank_string primitive with ⟨text, -, converted⟩
          rw [converted, leavesBlank_ok_iff] at leaves
          cases leaves
      | false =>
          have kin : source.isKin .string = true := by
            rw [isKin, primitive, Bool.or_eq_true]
            exact .inr rfl
          exact notKin kin
    · rcases convertTo_blank_of_not_isKin alien isText with ⟨expected, failed⟩
      rw [failed] at leaves
      exact not_leavesBlank_error _ leaves
  · intro kin
    rw [convertTo_blank kin]
    exact leavesBlank_ok_blank target

/-! ## Operators with two operands -/

namespace BinaryOperation

/-- The operators of arithmetic. -/
def isArithmetic : BinaryOperation → Bool
  | .add | .sub | .mul | .div | .rem => true
  | _ => false

/-- The operators that combine two numbers bit by bit. -/
def isBitwise : BinaryOperation → Bool
  | .and | .or | .xor => true
  | _ => false

/-- The operators that combine the two operands of a conditional operator. -/
def isConditional : BinaryOperation → Bool
  | .logicalAnd | .logicalOr => true
  | _ => false

/-- Whether an operator means nothing in the type it works in. -/
def isInapplicable (operation : BinaryOperation) : TypeTag → Bool
  | .boolean => operation.isArithmetic || operation.isShift || operation.isOrdering
  | .float | .double => operation.isBitwise || operation.isShift || operation.isConditional
  | .string => operation != .add && operation != .eq && operation != .ne
  | _ => false

variable {operation : BinaryOperation}

theorem isRelational_of_isShift (shifts : operation.isShift = true) :
    operation.isRelational = false := by
  cases operation with
  | shl | shr | ushr => rfl
  | _ => contradiction

theorem onBooleans_of_isInapplicable (inapplicable : operation.isInapplicable .boolean = true)
    (left right : Bool) : operation.onBooleans left right = false := by
  cases operation with
  | add | sub | mul | div | rem | shl | shr | ushr | lt | le | gt | ge => rfl
  | _ => contradiction

theorem onFloats_of_isInapplicable (inapplicable : operation.isInapplicable .float = true)
    (left right : Float32) : operation.onFloats left right = TypeTag.float.blank := by
  cases operation with
  | and | or | xor | shl | shr | ushr | logicalAnd | logicalOr => rfl
  | _ => contradiction

theorem onDoubles_of_isInapplicable (inapplicable : operation.isInapplicable .double = true)
    (left right : Float) : operation.onDoubles left right = TypeTag.double.blank := by
  cases operation with
  | and | or | xor | shl | shr | ushr | logicalAnd | logicalOr => rfl
  | _ => contradiction

theorem onTexts_of_isInapplicable (inapplicable : operation.isInapplicable .string = true)
    (left right : Value) :
    operation.onTexts left right = lift (.ok TypeTag.string.blank) := by
  cases operation with
  | add | eq | ne => contradiction
  | _ => rfl

end BinaryOperation

namespace TypedBinary

variable {operator : TypedBinary} {left right : Value}

/-- An operator whose result does not depend on its operands still needs operands that convert. -/
theorem both_of_exists_ok {Left Right Result : Type} {first : Except EvaluationError Left}
    {second : Except EvaluationError Right} {combine : Left → Right → Result} {blank : Result}
    (firstOk : ∃ left, first = .ok left) (secondOk : ∃ right, second = .ok right)
    (constant : ∀ left right, combine left right = blank) :
    (do return combine (← first) (← second) : Except EvaluationError Result) = .ok blank := by
  rcases firstOk with ⟨left, rfl⟩
  rcases secondOk with ⟨right, rfl⟩
  exact congrArg Except.ok (constant left right)

theorem compute_of_isInapplicable
    (inapplicable : operator.operation.isInapplicable operator.workType = true)
    (leftConverts : ∃ converted, left.convertTo operator.workType = .ok converted)
    (rightConverts : ∃ converted, right.convertTo operator.workType = .ok converted) :
    operator.compute left right = lift (.ok operator.workType.blank) := by
  rw [compute]
  cases worksIn : operator.workType with
  | boolean =>
      rw [worksIn, Value.convertTo_boolean] at leftConverts rightConverts
      refine congrArg lift (both_of_exists_ok (Value.exists_ok_of_map leftConverts)
        (Value.exists_ok_of_map rightConverts) fun leftTruth rightTruth => ?_)
      exact congrArg Value.boolean
        (BinaryOperation.onBooleans_of_isInapplicable (worksIn ▸ inapplicable) _ _)
  | float =>
      rw [worksIn, Value.convertTo_float] at leftConverts rightConverts
      exact congrArg lift (both_of_exists_ok (Value.exists_ok_of_map leftConverts)
        (Value.exists_ok_of_map rightConverts)
        (BinaryOperation.onFloats_of_isInapplicable (worksIn ▸ inapplicable)))
  | double =>
      rw [worksIn, Value.convertTo_double] at leftConverts rightConverts
      exact congrArg lift (both_of_exists_ok (Value.exists_ok_of_map leftConverts)
        (Value.exists_ok_of_map rightConverts)
        (BinaryOperation.onDoubles_of_isInapplicable (worksIn ▸ inapplicable)))
  -- Texts and references are not converted before.
  | string => exact BinaryOperation.onTexts_of_isInapplicable (worksIn ▸ inapplicable) left right
  | _ =>
      rw [worksIn] at inapplicable
      contradiction

/-- Where the result is converted, it is to the type that the operator works in. -/
theorem convertTo_blank_of_isInapplicable
    (inapplicable : operator.operation.isInapplicable operator.workType = true)
    (assignsNot : operator.assigns = false) (noShift : operator.operation.isShift = false)
    (noComparison : operator.operation.isRelational = false) :
    operator.workType.blank.convertTo operator.result = .ok operator.workType.blank := by
  have worksIn : operator.workType = operator.result.unaryPromotion := by
    simp [workType, noShift, noComparison, assignsNot]
  rw [worksIn] at inapplicable ⊢
  cases resultEq : operator.result with
  | boolean | float | double | string => rfl
  | _ =>
      rw [resultEq] at inapplicable
      contradiction

theorem execute_of_isInapplicable {left right : Operand}
    (isComputed : operator.compute left.value right.value = lift (.ok operator.workType.blank))
    (inapplicable : operator.operation.isInapplicable operator.workType = true)
    (assignsNot : operator.assigns = false) (noShift : operator.operation.isShift = false)
    (rest : List Operand) (room : Nat) :
    operator.execute ⟨right :: left :: rest, room⟩ =
      .done (concluded rest (room + 1) (.ok operator.workType.blank)) := by
  rw [execute_of_compute isComputed assignsNot]
  cases comparison : operator.operation.isRelational with
  | true => rfl
  | false =>
      rw [if_neg Bool.false_ne_true,
        convertTo_blank_of_isInapplicable inapplicable assignsNot noShift comparison]

theorem execute_of_isInapplicable_of_isShift {left right : Operand}
    (isComputed : operator.compute left.value right.value = lift (.ok operator.workType.blank))
    (assignsNot : operator.assigns = false) (shifts : operator.operation.isShift = true)
    (rest : List Operand) (room : Nat) :
    operator.execute ⟨right :: left :: rest, room⟩ =
      .done (concluded rest (room + 1) (operator.workType.blank.convertTo operator.result)) := by
  rw [execute_of_compute isComputed assignsNot, BinaryOperation.isRelational_of_isShift shifts]
  rfl

end TypedBinary

/-! ## Operators with one operand -/

/-- Whether a negation is of no truth, or a complement of no whole number. -/
def UnaryOperation.isInapplicable : UnaryOperation → TypeTag → Bool
  | .not, tag => tag != .boolean
  | .complement, tag => !tag.isIntegral
  | _, _ => false

theorem UnaryOperation.isUpdate_of_isInapplicable {operation : UnaryOperation} {tag : TypeTag}
    (inapplicable : operation.isInapplicable tag = true) : operation.isUpdate = false := by
  cases operation with
  | not | complement => rfl
  | _ => contradiction

namespace TypedUnary

variable {operator : TypedUnary} {operand : Value}

theorem ok_of_exists_ok {Number : Type} {converted : Except EvaluationError Number}
    {make : Number → Value} {blank : Value} (isOk : ∃ number, converted = .ok number)
    (constant : ∀ number, make number = blank) : converted.map make = .ok blank := by
  rcases isOk with ⟨number, rfl⟩
  exact congrArg Except.ok (constant number)

/-- Such an operator still needs a number where its result is one. -/
theorem compute_of_isInapplicable
    (inapplicable : operator.operation.isInapplicable operator.result = true)
    (numeric : operand.tag.isNumeric = true) :
    operator.compute operand = .ok operator.result.unaryPromotion.blank := by
  have intOk : ∃ number, operand.asInt = .ok number :=
    Value.exists_ok_of_map (operand.convertTo_int ▸ Value.exists_convertTo numeric rfl)
  have longOk : ∃ number, operand.asLong = .ok number :=
    Value.exists_ok_of_map (operand.convertTo_long ▸ Value.exists_convertTo numeric rfl)
  have floatOk : ∃ number, operand.asFloat = .ok number :=
    Value.exists_ok_of_map (operand.convertTo_float ▸ Value.exists_convertTo numeric rfl)
  have doubleOk : ∃ number, operand.asDouble = .ok number :=
    Value.exists_ok_of_map (operand.convertTo_double ▸ Value.exists_convertTo numeric rfl)
  rcases operator with ⟨operation, result, own⟩
  cases operation with
  | not =>
      cases result with
      | boolean => contradiction
      | byte | char | short | int => exact ok_of_exists_ok intOk fun _ => rfl
      | long => exact ok_of_exists_ok longOk fun _ => rfl
      | float => exact ok_of_exists_ok floatOk fun _ => rfl
      | double => exact ok_of_exists_ok doubleOk fun _ => rfl
      | object | array | void | string => rfl
  | complement =>
      cases result with
      | byte | char | short | int | long => contradiction
      | float => exact ok_of_exists_ok floatOk fun _ => rfl
      | double => exact ok_of_exists_ok doubleOk fun _ => rfl
      | boolean | object | array | void | string => rfl
  | _ => contradiction

/-- Where an operator means nothing for its result type, the blank of this type is left. -/
theorem execute_of_isInapplicable {operand : Operand}
    (inapplicable : operator.operation.isInapplicable operator.result = true)
    (numeric : operand.value.tag.isNumeric = true) (rest : List Operand) (room : Nat) :
    operator.execute ⟨operand :: rest, room⟩ =
      .done (concluded rest room
        (if operator.result = .void then .error (Value.null.coercion .void)
        else .ok operator.result.blank)) := by
  rw [execute_value (UnaryOperation.isUpdate_of_isInapplicable inapplicable),
    compute_of_isInapplicable inapplicable numeric]
  cases resultEq : operator.result <;> rfl

/-- A negation whose result is a truth asks its operand for one. -/
theorem execute_not_of_isNumeric {operand : Operand} (operandTag : TypeTag)
    (numeric : operand.value.tag.isNumeric = true) (rest : List Operand) (room : Nat) :
    (⟨.not, .boolean, operandTag⟩ : TypedUnary).execute ⟨operand :: rest, room⟩ =
      .done (concluded rest room (.error (operand.value.coercion .boolean))) := by
  have noTruth : operand.value.asBoolean = .error (operand.value.coercion .boolean) := by
    cases valueEq : operand.value with
    | boolean truth =>
        rw [valueEq] at numeric
        contradiction
    | _ => rfl
  rw [execute_value rfl, compute]
  simp only [TypeTag.unaryPromotion, noTruth]
  rfl

/-- An operator whose result is a whole number works on the whole part of its operand. -/
theorem compute_of_convertTo {whole : Value} (integral : operator.result.isIntegral = true)
    (converted : operand.convertTo operator.result.unaryPromotion = .ok whole) :
    operator.compute operand = operator.compute whole := by
  rcases (TypeTag.isWord_unaryPromotion integral).1 with inInt | inLong
  · rw [inInt, Value.convertTo_int] at converted
    rcases Value.ok_of_map converted with ⟨number, isNumber, rfl⟩
    simp only [compute, inInt, isNumber]
    rfl
  · rw [inLong, Value.convertTo_long] at converted
    rcases Value.ok_of_map converted with ⟨number, isNumber, rfl⟩
    simp only [compute, inLong, isNumber]
    rfl

/-- A complement whose result is a whole number is that of the whole part of its operand. -/
theorem execute_complement_of_isNumeric {operand : Operand} {result : TypeTag}
    (operandTag : TypeTag) (integral : result.isIntegral = true)
    (numeric : operand.value.tag.isNumeric = true) (rest : List Operand) (room : Nat) :
    ∃ whole number, operand.value.convertTo result.unaryPromotion = .ok whole ∧
      whole.integer? = some number ∧
      (⟨.complement, result, operandTag⟩ : TypedUnary).execute ⟨operand :: rest, room⟩ =
        .done (concluded rest room (.ok (.ofInteger (-number - 1) result))) := by
  have word := (TypeTag.isWord_unaryPromotion integral).1
  have numericToo := TypeTag.isNumeric_of_isIntegral word.isIntegral
  rcases Value.exists_convertTo numeric numericToo with ⟨whole, converted⟩
  have wholeTag : whole.tag = result.unaryPromotion :=
    Value.tag_of_convertTo (by rw [TypeTag.isPrimitive, numericToo, Bool.true_or]) converted
  rcases Value.exists_integer? (wholeTag ▸ word.isIntegral) with ⟨number, isNumber⟩
  let operator : TypedUnary := ⟨.complement, result, operandTag⟩
  have isSigning : operator.operation.signing? = some fun number => -number - 1 := rfl
  have isWhole : (Operand.plain whole).value.integer? = some number := isNumber
  have asWhole : operator.execute ⟨operand :: rest, room⟩ =
      operator.execute ⟨.plain whole :: rest, room⟩ := by
    rw [execute_value rfl, execute_value rfl, compute_of_convertTo integral converted]
    rfl
  exact ⟨whole, number, converted, isNumber,
    asWhole.trans (execute_of_signing? isSigning integral isWhole rest room)⟩

end TypedUnary

/-! ## What is left of it -/

/--
An operator that means nothing in the type it works in yields the blank of this type, without a
call. Unless it is a shift, it leaves this blank on the stack as it is. A shift ends with what
converting the blank to the result type comes to: the blank of a type of the same kind, a text, or
an error. So a blank is left by the operators that are no shift, and by the shifts with a result of
the same kind.

A negation of a number, and a complement of a number that is not whole, leave the blank of the
result type where they mean nothing for this type either and it is not `void`, to which nothing
converts. Else a negation, whose result is a truth then, fails, and a complement leaves that of the
whole part of its operand, which is a blank where the result type keeps minus one of this part.
-/
theorem concluded_of_isInapplicable (rest : List Operand) (room : Nat) :
    (∀ (operator : TypedBinary) (left right : Operand), operator.assigns = false →
      operator.operation.isInapplicable operator.workType = true →
      (∃ converted, left.value.convertTo operator.workType = .ok converted) →
      (∃ converted, right.value.convertTo operator.workType = .ok converted) →
        let blank := operator.workType.blank
        operator.compute left.value right.value = lift (.ok blank) ∧
        ∃ outcome,
          operator.execute ⟨right :: left :: rest, room⟩ =
            .done (concluded rest (room + 1) outcome) ∧
          (LeavesBlank outcome ↔
            operator.operation.isShift = false ∨ operator.workType.isKin operator.result = true) ∧
          (operator.operation.isShift = false → outcome = .ok blank) ∧
          (operator.operation.isShift = true →
            (operator.workType.isKin operator.result = true →
              outcome = .ok operator.result.blank) ∧
            (operator.workType.isPrimitive = true → operator.result = .string →
              ∃ text, blank.plainText = some text ∧ outcome = .ok (.string text)) ∧
            (operator.workType.isKin operator.result = false → operator.result ≠ .string →
              ∃ expected, outcome = .error (blank.coercion expected)))) ∧
    ∀ (operator : TypedUnary) (operand : Operand), operand.value.tag.isNumeric = true →
      operator.operation.isInapplicable operand.value.tag = true →
        ∃ outcome,
          operator.execute ⟨operand :: rest, room⟩ = .done (concluded rest room outcome) ∧
          (operator.operation.isInapplicable operator.result = true →
            (LeavesBlank outcome ↔ operator.result ≠ .void) ∧
            (operator.result ≠ .void → outcome = .ok operator.result.blank) ∧
            (operator.result = .void → outcome = .error (Value.null.coercion .void))) ∧
          (operator.operation.isInapplicable operator.result = false →
            (operator.operation = .not → outcome = .error (operand.value.coercion .boolean)) ∧
            (operator.operation = .complement → ∃ whole number pushed,
              operand.value.convertTo operator.result.unaryPromotion = .ok whole ∧
              whole.integer? = some number ∧ outcome = .ok pushed ∧
              pushed.Keeps operator.result (-number - 1) ∧
              (LeavesBlank outcome ↔ number ≡ -1 [ZMOD 2 ^ operator.result.bits]))) := by
  constructor
  · intro operator left right assignsNot inapplicable leftConverts rightConverts blank
    have computed := TypedBinary.compute_of_isInapplicable inapplicable leftConverts rightConverts
    refine ⟨computed, ?_⟩
    cases shifts : operator.operation.isShift with
    | false =>
        have executed := TypedBinary.execute_of_isInapplicable computed inapplicable assignsNot
          shifts rest room
        refine ⟨_, executed, ?_, fun _ => rfl, nofun⟩
        exact iff_of_true (leavesBlank_ok_blank _) (.inl rfl)
    | true =>
        have executed := TypedBinary.execute_of_isInapplicable_of_isShift computed assignsNot shifts
          rest room
        -- What is left is which blanks convert to the result type.
        refine ⟨_, executed, ?_, nofun, fun _ =>
          ⟨TypeTag.convertTo_blank, ?_, TypeTag.convertTo_blank_of_not_isKin⟩⟩
        · rw [TypeTag.leavesBlank_convertTo_blank_iff]
          exact (or_iff_right Bool.noConfusion).symm
        · intro primitive isText
          rw [isText]
          exact TypeTag.convertTo_blank_string primitive
  · intro operator operand numeric inapplicable
    cases resultToo : operator.operation.isInapplicable operator.result with
    | true =>
        have executed := TypedUnary.execute_of_isInapplicable resultToo numeric rest room
        refine ⟨_, executed, fun _ => ⟨?_, fun noVoid => if_neg noVoid, fun isVoid => if_pos isVoid⟩,
          nofun⟩
        by_cases isVoid : operator.result = .void
        · rw [if_pos isVoid]
          exact iff_of_false (not_leavesBlank_error _) (not_not.2 isVoid)
        · rw [if_neg isVoid]
          exact iff_of_true (leavesBlank_ok_blank _) isVoid
    | false =>
        rcases operator with ⟨operation, result, operandTag⟩
        cases operation with
        | not =>
            have isTruth : result = .boolean := by
              simpa [UnaryOperation.isInapplicable] using resultToo
            subst isTruth
            have executed := TypedUnary.execute_not_of_isNumeric operandTag numeric rest room
            exact ⟨_, executed, nofun, fun _ => ⟨fun _ => rfl, nofun⟩⟩
        | complement =>
            have integral : result.isIntegral = true := by
              simpa [UnaryOperation.isInapplicable] using resultToo
            rcases TypedUnary.execute_complement_of_isNumeric operandTag integral numeric rest room
              with ⟨whole, number, converted, isNumber, executed⟩
            refine ⟨_, executed, nofun, fun _ => ⟨nofun, fun _ => ?_⟩⟩
            exact ⟨whole, number, _, converted, isNumber, rfl, Value.keeps_ofInteger _ integral,
              leavesBlank_ok_iff.trans (Value.isBlank_complement_iff integral number)⟩
        | _ => contradiction

/--
A conjunction of `float`s leaves zero, and so does a shift of one into a `byte`; a shift of a text
into an `int` fails. The negation of an `int` is zero as a `long`, but it fails as a `void` and as a
truth. The complement of a `double` as an `int` is not zero, but the complement of its whole part.
-/
theorem concluded_of_isInapplicable_outcomes :
    let single : Operand := .plain (.float 1)
    let double : Operand := .plain (.double 1.5)
    let number : Operand := .plain (.int 1)
    let text : Operand := .plain (.string "a")
    let conjunction : TypedBinary := ⟨.and, .float, .float, .float, false⟩
    let shift (result left : TypeTag) : TypedBinary := ⟨.shl, result, left, .int, false⟩
    let negation (result : TypeTag) : TypedUnary := ⟨.not, result, .int⟩
    let complement : TypedUnary := ⟨.complement, .int, .double⟩
    conjunction.operation.isInapplicable conjunction.workType = true ∧
      (shift .byte .float).operation.isInapplicable (shift .byte .float).workType = true ∧
      (shift .int .string).operation.isInapplicable (shift .int .string).workType = true ∧
      UnaryOperation.isInapplicable .not number.value.tag = true ∧
      UnaryOperation.isInapplicable .complement double.value.tag = true ∧
      conjunction.execute ⟨[single, single], 0⟩ = .done (concluded [] 1 (.ok (.float 0))) ∧
      (shift .byte .float).execute ⟨[number, single], 0⟩ =
        .done (concluded [] 1 (.ok (.byte 0))) ∧
      (∃ expected, (shift .int .string).execute ⟨[number, text], 0⟩ =
        .done (concluded [] 1 (.error (Value.null.coercion expected)))) ∧
      (negation .long).execute ⟨[number], 0⟩ = .done (concluded [] 0 (.ok (.long 0))) ∧
      (negation .void).execute ⟨[number], 0⟩ =
        .done (concluded [] 0 (.error (Value.null.coercion .void))) ∧
      (negation .boolean).execute ⟨[number], 0⟩ =
        .done (concluded [] 0 (.error (number.value.coercion .boolean))) ∧
      ∃ outcome, complement.execute ⟨[double], 0⟩ = .done (concluded [] 0 outcome) ∧
        outcome = .ok (.int (-2)) ∧ ¬LeavesBlank outcome := by
  intro single double number text conjunction shift negation complement
  have singleConverts : ∃ converted, single.value.convertTo .float = .ok converted := ⟨_, rfl⟩
  have numberConverts : ∃ converted, number.value.convertTo .float = .ok converted := ⟨_, rfl⟩
  have textConverts : ∃ converted, text.value.convertTo .string = .ok converted := ⟨_, rfl⟩
  have numberAsText : ∃ converted, number.value.convertTo .string = .ok converted := ⟨_, rfl⟩
  rcases concluded_of_isInapplicable [] 0 with ⟨ofBinary, ofUnary⟩
  rcases ofBinary conjunction single single rfl rfl singleConverts singleConverts with
    ⟨-, _, conjoined, -, isBlank, -⟩
  cases isBlank rfl
  rcases ofBinary (shift .byte .float) single number rfl rfl singleConverts numberConverts with
    ⟨-, _, shifted, -, -, ends⟩
  cases (ends rfl).1 rfl
  rcases ofBinary (shift .int .string) text number rfl rfl textConverts numberAsText with
    ⟨-, _, textShifted, -, -, textEnds⟩
  rcases (textEnds rfl).2.2 rfl (by decide) with ⟨expected, rfl⟩
  rcases ofUnary (negation .long) number rfl rfl with ⟨_, negated, asLong, -⟩
  cases (asLong rfl).2.1 (by decide)
  rcases ofUnary (negation .void) number rfl rfl with ⟨_, emptied, asVoid, -⟩
  cases (asVoid rfl).2.2 rfl
  rcases ofUnary (negation .boolean) number rfl rfl with ⟨_, asked, -, asTruth⟩
  cases (asTruth rfl).1 rfl
  rcases ofUnary complement double rfl rfl with ⟨outcome, complemented, -, asWhole⟩
  rcases (asWhole rfl).2 rfl with
    ⟨whole, wholeNumber, pushed, isWhole, isNumber, rfl, keeps, leavesBlank⟩
  cases isWhole
  cases isNumber
  rw [Value.keeps_iff rfl] at keeps
  cases keeps
  exact ⟨rfl, rfl, rfl, rfl, rfl, conjoined, shifted, ⟨expected, textShifted⟩, negated, emptied,
    asked, _, complemented, rfl, leavesBlank.not.2 (by decide)⟩

end Watch
