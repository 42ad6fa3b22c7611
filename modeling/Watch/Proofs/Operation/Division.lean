import Watch.Proofs.Evaluation.Undivided
import Watch.Proofs.Operation.Operands

/-!
# Division of whole numbers

A division cuts its quotient toward zero, and the remainder is what the quotient leaves: it is
smaller than the divisor and has the sign of the dividend. Both are those of the whole numbers if
the type that the operator works in holds the operands (`BinaryOperation.truncating?`). One quotient
alone the type does not hold, that of its least number by minus one: it is the least number again,
and the remainder is zero all the same.

A divisor of zero is an error (`TypedBinary.DividesByZero`), and only a division has this error.
-/

namespace Watch

namespace TypeTag

theorem Holds.tmod {tag : TypeTag} {divisor : Int} (holds : tag.Holds divisor)
    (nonzero : divisor ≠ 0) (dividend : Int) : tag.Holds (dividend.tmod divisor) := by
  have magnitude := Int.natAbs_tmod dividend divisor
  have smaller : dividend.natAbs % divisor.natAbs < divisor.natAbs :=
    Nat.mod_lt _ (Int.natAbs_pos.2 nonzero)
  rcases holds with ⟨lower, upper⟩
  constructor <;> omega

end TypeTag

namespace Value

variable {value : Value} {number : Int} {tag : TypeTag}

/-- A quotient and a remainder of two whole numbers that are cut toward zero in a type. -/
structure Truncates (quotient remainder : Value) (tag : TypeTag) (dividend divisor : Int) :
    Prop where
  keeps : quotient.Keeps tag (dividend.tdiv divisor)
  tag_eq : remainder.tag = tag
  numbers : ∃ whole left : Int, quotient.integer? = some whole ∧ remainder.integer? = some left ∧
    whole * divisor + left ≡ dividend [ZMOD 2 ^ tag.bits] ∧ left.natAbs < divisor.natAbs ∧
    (left = 0 ∨ left.sign = dividend.sign)

theorem truncates_ofInteger {divisor : Int} (word : tag.IsWord) (holds : tag.Holds divisor)
    (nonzero : divisor ≠ 0) (dividend : Int) :
    (ofInteger (dividend.tdiv divisor) tag).Truncates (ofInteger (dividend.tmod divisor) tag) tag
      dividend divisor where
  keeps := keeps_ofInteger _ word.isIntegral
  tag_eq := tag_ofInteger _ word.isIntegral
  numbers := by
    rcases integer?_ofInteger (dividend.tdiv divisor) word.isIntegral with
      ⟨whole, isWhole, congruent⟩
    have isLeft := integer?_ofInteger_of_holds word (holds.tmod nonzero dividend)
    refine ⟨whole, dividend.tmod divisor, isWhole, isLeft, ?_, ?_, ?_⟩
    · have recombined := (congruent.mul_right divisor).add_right (dividend.tmod divisor)
      rwa [Int.tdiv_mul_add_tmod] at recombined
    · rw [Int.natAbs_tmod]
      exact Nat.mod_lt _ (Int.natAbs_pos.2 nonzero)
    · have sign := Int.sign_tmod dividend divisor
      split at sign
      · exact .inl (Int.sign_eq_zero_iff_zero.1 sign)
      · exact .inr sign

end Value

namespace BinaryOperation

/-- The operators that divide. -/
def isDivision : BinaryOperation → Bool
  | .div | .rem => true
  | _ => false

/-- What the operators that divide do to whole numbers. -/
def truncating? : BinaryOperation → Option (Int → Int → Int)
  | .div => some Int.tdiv
  | .rem => some Int.tmod
  | _ => none

variable {operation : BinaryOperation} {exact : Int → Int → Int} {left right : Int}

theorem onInts_of_truncating? (isExact : operation.truncating? = some exact)
    (leftHolds : TypeTag.int.Holds left) (rightHolds : TypeTag.int.Holds right) :
    operation.onInts (.ofInt left) (.ofInt right) =
      if right = 0 then .error .divisionByZero else .ok (.ofInteger (exact left right) .int) := by
  -- Truncation does not respect congruence, so that both numbers have to be within the range.
  rcases leftHolds with ⟨leftLower, leftUpper⟩
  rcases rightHolds with ⟨rightLower, rightUpper⟩
  have isZero : Int32.ofInt right = 0 ↔ right = 0 := by
    rw [← Int32.toInt_inj, Int32.toInt_ofInt_of_le rightLower rightUpper]
    rfl
  cases operation with
  | div =>
      cases isExact
      simp only [onInts, isZero, Value.ofInteger]
      rw [Int32.ofInt_tdiv leftLower (Int.le_of_lt_add_one leftUpper) rightLower
        (Int.le_of_lt_add_one rightUpper)]
  | rem =>
      cases isExact
      simp only [onInts, isZero, Value.ofInteger]
      rw [Int32.ofInt_tmod leftLower (Int.le_of_lt_add_one leftUpper) rightLower
        (Int.le_of_lt_add_one rightUpper)]
  | _ => cases isExact

theorem onLongs_of_truncating? (isExact : operation.truncating? = some exact)
    (leftHolds : TypeTag.long.Holds left) (rightHolds : TypeTag.long.Holds right) :
    operation.onLongs (.ofInt left) (.ofInt right) =
      if right = 0 then .error .divisionByZero else .ok (.ofInteger (exact left right) .long) := by
  rcases leftHolds with ⟨leftLower, leftUpper⟩
  rcases rightHolds with ⟨rightLower, rightUpper⟩
  have isZero : Int64.ofInt right = 0 ↔ right = 0 := by
    rw [← Int64.toInt_inj, Int64.toInt_ofInt_of_le rightLower rightUpper]
    rfl
  cases operation with
  | div =>
      cases isExact
      simp only [onLongs, isZero, Value.ofInteger]
      rw [Int64.ofInt_tdiv leftLower (Int.le_of_lt_add_one leftUpper) rightLower
        (Int.le_of_lt_add_one rightUpper)]
  | rem =>
      cases isExact
      simp only [onLongs, isZero, Value.ofInteger]
      rw [Int64.ofInt_tmod leftLower (Int.le_of_lt_add_one leftUpper) rightLower
        (Int.le_of_lt_add_one rightUpper)]
  | _ => cases isExact

theorem kind_of_truncating? (isExact : operation.truncating? = some exact) :
    operation.isShift = false ∧ operation.isRelational = false := by
  cases operation <;> first | exact ⟨rfl, rfl⟩ | cases isExact

theorem zero_of_onInts_error {left right : Int32} {error : EvaluationError}
    (failed : operation.onInts left right = .error error) :
    operation.isDivision = true ∧ right = 0 := by
  cases operation with
  | div | rem =>
      by_cases zero : right = 0
      · exact ⟨rfl, zero⟩
      · simp [onInts, zero] at failed
  | _ => cases failed

theorem zero_of_onLongs_error {left right : Int64} {error : EvaluationError}
    (failed : operation.onLongs left right = .error error) :
    operation.isDivision = true ∧ right = 0 := by
  cases operation with
  | div | rem =>
      by_cases zero : right = 0
      · exact ⟨rfl, zero⟩
      · simp [onLongs, zero] at failed
  | _ => cases failed

end BinaryOperation

open Evaluation

namespace TypedBinary

/-- A division of numbers whose divisor is zero in the type of whole numbers that it works in. -/
structure DividesByZero (operator : TypedBinary) (left right : Value) : Prop where
  isDivision : operator.operation.isDivision = true
  word : operator.workType.IsWord
  leftNumeric : left.tag.isNumeric = true
  rightNumeric : right.tag.isNumeric = true
  zero : ∃ zero, right.convertTo operator.workType = .ok zero ∧ zero.integer? = some 0

variable {operator : TypedBinary} {exact : Int → Int → Int} {left right : Value}
  {dividend divisor : Int}

theorem compute_of_truncating? (isExact : operator.operation.truncating? = some exact)
    (word : operator.workType.IsWord) (isDividend : left.integer? = some dividend)
    (isDivisor : right.integer? = some divisor)
    (leftFits : left.tag.bits ≤ operator.workType.bits)
    (rightFits : right.tag.bits ≤ operator.workType.bits) :
    operator.compute left right =
      lift (if divisor = 0 then .error .divisionByZero
        else .ok (.ofInteger (exact dividend divisor) operator.workType)) := by
  have leftHolds := Value.holds_of_integer? isDividend word leftFits
  have rightHolds := Value.holds_of_integer? isDivisor word rightFits
  rcases word with inInt | inLong
  · rw [inInt] at leftHolds rightHolds
    rw [compute_of_int inInt, Value.asInt_of_integer? isDividend,
      Value.asInt_of_integer? isDivisor, inInt]
    exact congrArg lift (BinaryOperation.onInts_of_truncating? isExact leftHolds rightHolds)
  · rw [inLong] at leftHolds rightHolds
    rw [compute_of_long inLong, Value.asLong_of_integer? isDividend,
      Value.asLong_of_integer? isDivisor, inLong]
    exact congrArg lift (BinaryOperation.onLongs_of_truncating? isExact leftHolds rightHolds)

/-- The operator works in its result type, so that nothing is left to convert. -/
theorem valueOf_of_truncating? (isExact : operator.operation.truncating? = some exact)
    (assignsNot : operator.assigns = false) (word : operator.result.IsWord)
    (isDividend : left.integer? = some dividend) (isDivisor : right.integer? = some divisor)
    (leftFits : left.tag.bits ≤ operator.result.bits)
    (rightFits : right.tag.bits ≤ operator.result.bits) :
    operator.valueOf left right =
      lift (if divisor = 0 then .error .divisionByZero
        else .ok (.ofInteger (exact dividend divisor) operator.result)) := by
  rcases BinaryOperation.kind_of_truncating? isExact with ⟨noShift, noComparison⟩
  have worksIn : operator.workType = operator.result := by
    rw [workType, noShift, noComparison, assignsNot]
    rcases word with inInt | inLong
    · rw [inInt]; rfl
    · rw [inLong]; rfl
  have computed := compute_of_truncating? isExact (worksIn ▸ word) isDividend isDivisor
    (worksIn ▸ leftFits) (worksIn ▸ rightFits)
  rw [valueOf, computed, noComparison, worksIn]
  by_cases zero : divisor = 0
  · rw [if_pos zero]
    rfl
  · rw [if_neg zero]
    have alreadyOf := Value.convertTo_ofInteger (exact dividend divisor) word.isIntegral
      word.isIntegral le_rfl
    exact congrArg lift alreadyOf

theorem dividesByZero_of_onInts_error {error : EvaluationError}
    (worksInInt : operator.workType = .int) {leftNumber rightNumber : Int32}
    (isLeft : left.asInt = .ok leftNumber) (isRight : right.asInt = .ok rightNumber)
    (failed : operator.operation.onInts leftNumber rightNumber = .error error) :
    operator.DividesByZero left right where
  isDivision := (BinaryOperation.zero_of_onInts_error failed).1
  word := .inl worksInInt
  leftNumeric := Value.isNumeric_of_asInt isLeft
  rightNumeric := Value.isNumeric_of_asInt isRight
  zero := by
    rcases BinaryOperation.zero_of_onInts_error failed with ⟨-, rfl⟩
    refine ⟨.int 0, ?_, rfl⟩
    rw [worksInInt, Value.convertTo_int, isRight]
    rfl

theorem dividesByZero_of_onLongs_error {error : EvaluationError}
    (worksInLong : operator.workType = .long) {leftNumber rightNumber : Int64}
    (isLeft : left.asLong = .ok leftNumber) (isRight : right.asLong = .ok rightNumber)
    (failed : operator.operation.onLongs leftNumber rightNumber = .error error) :
    operator.DividesByZero left right where
  isDivision := (BinaryOperation.zero_of_onLongs_error failed).1
  word := .inr worksInLong
  leftNumeric := Value.isNumeric_of_asLong isLeft
  rightNumeric := Value.isNumeric_of_asLong isRight
  zero := by
    rcases BinaryOperation.zero_of_onLongs_error failed with ⟨-, rfl⟩
    refine ⟨.long 0, ?_, rfl⟩
    rw [worksInLong, Value.convertTo_long, isRight]
    rfl

end TypedBinary

/-! ## Where a division by zero comes from -/

section Undivided

variable {State : Type} {target : Target State}

theorem BinaryOperation.undivided_onReferences (undivided : target.Undivided)
    (operation : BinaryOperation) (left right : Value) :
    (operation.onReferences left right).Undivided target := by
  unfold onReferences
  split
  · refine (Undivided.ask undivided _).bind fun answer => ?_
    exact (Undivided.converted answer.complains_asBoolean).bind fun truth => .pure _
  · refine (Undivided.ask undivided _).bind fun answer => ?_
    exact (Undivided.converted answer.complains_asBoolean).bind fun truth => .pure _
  · exact .pure _

theorem BinaryOperation.undivided_textOf (undivided : target.Undivided) (value : Value) :
    (textOf value).Undivided target := by
  unfold textOf
  split
  · exact .pure _
  · refine (Undivided.ask undivided _).bind fun answer => ?_
    split
    · exact .pure _
    · exact .pure _
    · exact .converted (Value.complains_coercion _ _)

theorem BinaryOperation.undivided_onTexts (undivided : target.Undivided)
    (operation : BinaryOperation) (left right : Value) :
    (operation.onTexts left right).Undivided target := by
  unfold onTexts
  split
  · refine (undivided_textOf undivided left).bind fun leftText => ?_
    exact (undivided_textOf undivided right).bind fun rightText => .pure _
  · exact undivided_onReferences undivided _ left right
  · exact undivided_onReferences undivided _ left right
  · exact .pure _

namespace TypedBinary

variable {operator : TypedBinary} {left right : Value}

/-- Of an operation on converted operands only the operation itself is left to fail. -/
theorem undivided_both {Operand : Type} {first second : Except EvaluationError Operand}
    {combine : Operand → Operand → Except EvaluationError Value}
    (leftComplains : left.Complains first) (rightComplains : right.Complains second)
    (combined : ∀ leftOperand rightOperand, first = .ok leftOperand → second = .ok rightOperand →
      combine leftOperand rightOperand ≠ .error .divisionByZero) :
    (lift (do combine (← first) (← second))).Undivided target := by
  apply Undivided.lift
  intro failed
  cases first with
  | error error =>
      cases failed
      exact leftComplains.ne_divisionByZero rfl
  | ok leftOperand =>
      cases second with
      | error error =>
          cases failed
          exact rightComplains.ne_divisionByZero rfl
      | ok rightOperand => exact combined leftOperand rightOperand rfl rfl failed

theorem undivided_compute (undivided : target.Undivided)
    (nonzero : ¬operator.DividesByZero left right) :
    (operator.compute left right).Undivided target := by
  have promoted := operator.unaryPromotion_workType
  unfold compute
  cases worksIn : operator.workType with
  | boolean =>
      refine undivided_both left.complains_asBoolean right.complains_asBoolean ?_
      rintro leftTruth rightTruth - - ⟨⟩
  | byte | char | short =>
      rw [worksIn] at promoted
      cases promoted
  | int =>
      refine undivided_both left.complains_asInt right.complains_asInt ?_
      intro leftNumber rightNumber isLeft isRight failed
      exact nonzero (dividesByZero_of_onInts_error worksIn isLeft isRight failed)
  | long =>
      refine undivided_both left.complains_asLong right.complains_asLong ?_
      intro leftNumber rightNumber isLeft isRight failed
      exact nonzero (dividesByZero_of_onLongs_error worksIn isLeft isRight failed)
  | float =>
      refine undivided_both left.complains_asFloat right.complains_asFloat ?_
      rintro leftNumber rightNumber - - ⟨⟩
  | double =>
      refine undivided_both left.complains_asDouble right.complains_asDouble ?_
      rintro leftNumber rightNumber - - ⟨⟩
  | string => exact BinaryOperation.undivided_onTexts undivided _ left right
  | object | array | void => exact BinaryOperation.undivided_onReferences undivided _ left right

theorem undivided_valueOf (undivided : target.Undivided)
    (nonzero : ¬operator.DividesByZero left right) :
    (operator.valueOf left right).Undivided target := by
  refine (undivided_compute undivided nonzero).bind fun computed => ?_
  split
  · exact .pure _
  · exact .convertTo _ _

/-- An operator that fails with a division by zero has had two operands and divides by zero. -/
theorem dividesByZero_of_execute (undivided : target.Undivided) {stack : Stack} {state : State}
    (failed : ((operator.execute stack).perform target state).1.1 = .error .divisionByZero) :
    ∃ left right rest, stack.operands = right :: left :: rest ∧
      operator.DividesByZero left.value right.value := by
  -- With fewer operands the stack runs out, and that is another error.
  rcases stack with ⟨_ | ⟨right, _ | ⟨left, rest⟩⟩, room⟩
  · cases failed
  · cases assigns : operator.assigns <;> simp only [execute, assigns] at failed <;> cases failed
  · refine ⟨left, right, rest, rfl, ?_⟩
    by_contra nonzero
    have noDivision := undivided_valueOf undivided nonzero
    cases assigns : operator.assigns with
    | false =>
        rw [execute_values assigns] at failed
        exact noDivision.bind .pushValue _ _ failed
    | true =>
        cases left with
        | plain value =>
            simp only [execute, assigns] at failed
            cases failed
        | slot location value =>
            rw [execute_slot assigns] at failed
            refine noDivision.bind (fun value => ?_) _ _ failed
            exact (Undivided.ask undivided _).bind fun _ => .pushValue value

end TypedBinary

/-- Only a division by zero fails as one. -/
theorem InstructionKind.dividesByZero_of_execute (undivided : target.Undivided)
    {kind : InstructionKind} {length place : Nat} {stack : Stack} {state : State}
    (failed : ((kind.execute length place stack).perform target state).1.1 =
      .error .divisionByZero) :
    ∃ operator left right rest, kind = .binary operator ∧ stack.operands = right :: left :: rest ∧
      operator.DividesByZero left.value right.value := by
  cases kind with
  | binary operator =>
      have performed := perform_thenNext_eq target state operator.execute stack (place + 1)
      simp only [execute, performed] at failed
      rcases executed : ((operator.execute stack).perform target state).1.1 with error | done
      · rw [executed] at failed
        cases failed
        rcases TypedBinary.dividesByZero_of_execute undivided executed with
          ⟨left, right, rest, operandsEq, dividesByZero⟩
        exact ⟨operator, left, right, rest, rfl, operandsEq, dividesByZero⟩
      · rw [executed] at failed
        cases failed
  | _ =>
      refine absurd failed (undivided_execute undivided ?_ length place stack state)
      rintro operator ⟨⟩

end Undivided

namespace TypedBinary

/--
Division of whole numbers in a type with a sign that holds them, whatever the type tags of the
operands are: by zero it fails with its own error, and else quotient and remainder are what
truncation makes of the numbers. Over a suspended program that does not answer with this error, no
instruction fails with it but a division of numbers, in a type of whole numbers, by what is zero in
that type.
-/
theorem truncates_or_dividesByZero :
    (∀ (result leftTag rightTag : TypeTag) (left right : Operand) (dividend divisor : Int)
        (rest : List Operand) (room : Nat),
      result.IsWord → left.value.integer? = some dividend → right.value.integer? = some divisor →
      left.value.tag.bits ≤ result.bits → right.value.tag.bits ≤ result.bits →
      let divide : TypedBinary := ⟨.div, result, leftTag, rightTag, false⟩
      let reduce : TypedBinary := ⟨.rem, result, leftTag, rightTag, false⟩
      (divisor = 0 →
        divide.execute ⟨right :: left :: rest, room⟩ =
            .done (.error .divisionByZero, ⟨rest, room + 2⟩) ∧
          reduce.execute ⟨right :: left :: rest, room⟩ =
            .done (.error .divisionByZero, ⟨rest, room + 2⟩)) ∧
      (divisor ≠ 0 →
        ∃ quotient remainder : Value,
          divide.execute ⟨right :: left :: rest, room⟩ =
              .done (.ok (), ⟨.plain quotient :: rest, room + 1⟩) ∧
            reduce.execute ⟨right :: left :: rest, room⟩ =
              .done (.ok (), ⟨.plain remainder :: rest, room + 1⟩) ∧
            quotient.Truncates remainder result dividend divisor)) ∧
    ∀ {State : Type} (target : Target State) (kind : InstructionKind) (length place : Nat)
        (stack : Stack) (state : State),
      target.Undivided →
      ((kind.execute length place stack).perform target state).1.1 = .error .divisionByZero →
      ∃ operator left right rest, kind = .binary operator ∧
        stack.operands = right :: left :: rest ∧
        operator.DividesByZero left.value right.value := by
  refine ⟨?_, fun _ _ _ _ _ _ undivided failed =>
    InstructionKind.dividesByZero_of_execute undivided failed⟩
  intro result leftTag rightTag left right dividend divisor rest room word isDividend isDivisor
    leftFits rightFits divide reduce
  have divided : divide.valueOf left.value right.value = _ :=
    valueOf_of_truncating? rfl rfl word isDividend isDivisor leftFits rightFits
  have reduced : reduce.valueOf left.value right.value = _ :=
    valueOf_of_truncating? rfl rfl word isDividend isDivisor leftFits rightFits
  rw [execute_values rfl, execute_values rfl, divided, reduced]
  constructor
  · intro zero
    rw [if_pos zero, if_pos zero]
    exact ⟨rfl, rfl⟩
  · intro nonzero
    rw [if_neg nonzero, if_neg nonzero]
    have holds := Value.holds_of_integer? isDivisor word rightFits
    exact ⟨_, _, rfl, rfl, Value.truncates_ofInteger word holds nonzero dividend⟩

/--
The least `int` divided by minus one, the least `int` divided by zero, and a compound remainder
whose divisor is no zero before it is converted.
-/
theorem truncates_or_dividesByZero_bounds :
    let least : Operand := .plain (.int Int32.minValue)
    let divide : TypedBinary := ⟨.div, .int, .int, .byte, false⟩
    let reduce : TypedBinary := ⟨.rem, .int, .int, .byte, false⟩
    let compounded := compound .rem .int .int
    let seven : Operand := .slot (.local "n") (.int 7)
    let state : Suspended := ⟨Frame.empty, false⟩
    divide.execute ⟨[.plain (.byte (-1)), least], 0⟩ = .done (.ok (), ⟨[least], 1⟩) ∧
      reduce.execute ⟨[.plain (.byte (-1)), least], 0⟩ =
        .done (.ok (), ⟨[.plain (.int 0)], 1⟩) ∧
      least.value.Truncates (.int 0) .int (-2147483648) (-1) ∧
      divide.execute ⟨[.plain (.char 0), least], 0⟩ = .done (.error .divisionByZero, ⟨[], 2⟩) ∧
      (((InstructionKind.binary compounded).execute 1 0
          ⟨[.plain (.long 4294967296), seven], 0⟩).perform Frame.target state).1.1 =
        .error .divisionByZero ∧
      compounded.DividesByZero (.int 7) (.long 4294967296) := by
  intro least divide reduce compounded seven state
  rcases truncates_or_dividesByZero with ⟨truncates, dividesByZero⟩
  have divided : divide.execute ⟨[.plain (.byte (-1)), least], 0⟩ =
      .done (.ok (), ⟨[.plain (.int Int32.minValue)], 1⟩) := rfl
  have reduced : reduce.execute ⟨[.plain (.byte (-1)), least], 0⟩ =
      .done (.ok (), ⟨[.plain (.int 0)], 1⟩) := rfl
  have failed : (((InstructionKind.binary compounded).execute 1 0
      ⟨[.plain (.long 4294967296), seven], 0⟩).perform Frame.target state).1.1 =
        .error .divisionByZero := rfl
  refine ⟨divided, reduced, ?_, ?_, failed, ?_⟩
  · have byMinusOne := truncates .int .int .byte least (.plain (.byte (-1))) (-2147483648) (-1) [] 0
      (.inl rfl) (by decide) (by decide) (by decide) (by decide)
    rcases byMinusOne.2 (by decide) with ⟨quotient, remainder, isQuotient, isRemainder, cut⟩
    cases divided.symm.trans isQuotient
    cases reduced.symm.trans isRemainder
    exact cut
  · have byZero := truncates .int .int .byte least (.plain (.char 0)) (-2147483648) 0 [] 0
      (.inl rfl) (by decide) (by decide) (by decide) (by decide)
    exact (byZero.1 rfl).1
  · rcases dividesByZero Frame.target (.binary compounded) 1 0 _ state Frame.undivided_target failed
      with ⟨operator, left, right, rest, isBinary, operandsEq, divides⟩
    cases isBinary
    cases operandsEq
    exact divides

end TypedBinary

end Watch
