import Watch.Proofs.Operation.Shift

/-!
# Signs and complements of whole numbers

Minus, plus and complement work in the promoted type of their result, whatever their operand is.
What they leave of a whole number is as many low bits of the exact result as the result type has
(`TypedUnary.execute_of_signing?`).

Working in the promoted type of the operand and converting afterwards comes to the same as long as
the exact result stays within that type. It leaves it in one place: minus the least number. A result
type that is no wider cannot tell, so that the two differ for the least `int` as a `long` only
(`TypedUnary.pushed_of_signing?`).
-/

namespace Watch

namespace UnaryOperation

/-- What sign and complement make of a whole number. -/
def signing? : UnaryOperation → Option (Int → Int)
  | .minus => some fun number => -number
  | .plus => some fun number => number
  | .complement => some fun number => -number - 1
  | _ => none

variable {operation : UnaryOperation} {change : Int → Int} {number : Int} {tag : TypeTag}

theorem isUpdate_of_signing? (isSigning : operation.signing? = some change) :
    operation.isUpdate = false := by
  cases operation <;> first | rfl | cases isSigning

/-- The results for a range of numbers go beyond it only with minus its least number. -/
theorem bounds_of_signing? (isSigning : operation.signing? = some change) {bound : Int}
    (lower : -bound ≤ number) (upper : number < bound) :
    -bound ≤ change number ∧ change number ≤ bound ∧
      (change number < bound ↔ ¬(operation = .minus ∧ number = -bound)) := by
  cases operation with
  | minus =>
      cases isSigning
      simp only [true_and]
      omega
  | plus | complement =>
      cases isSigning
      simp only [reduceCtorEq, false_and, not_false_eq_true, iff_true]
      omega
  | _ => cases isSigning

theorem holds_of_signing? (isSigning : operation.signing? = some change)
    (holds : tag.Holds number) :
    tag.Holds (change number) ↔ ¬(operation = .minus ∧ number = -2 ^ (tag.bits - 1)) := by
  rcases bounds_of_signing? isSigning holds.1 holds.2 with ⟨lower, -, below⟩
  rw [← below]
  exact and_iff_right lower

/-- What becomes of an `int` fits into a `long`. -/
theorem holds_long_of_signing? (isSigning : operation.signing? = some change)
    (holds : TypeTag.int.Holds number) : TypeTag.long.Holds (change number) := by
  rcases bounds_of_signing? isSigning holds.1 holds.2 with ⟨lower, upper, -⟩
  simp only [TypeTag.Holds, TypeTag.bits] at *
  omega

end UnaryOperation

namespace TypeTag

variable {tag target : TypeTag} {number : Int}

/-- Only one integral type is wider than a word. -/
theorem bits_lt_iff (word : tag.IsWord) (integral : target.isIntegral = true) :
    tag.bits < target.bits ↔ tag = .int ∧ target = .long := by
  rcases word with rfl | rfl <;> cases target <;> first | contradiction | decide

/-- What a type keeps of the number of a word, and of the number that the word was to keep. -/
theorem bmod_modEq_iff (word : tag.IsWord) (integral : target.isIntegral = true)
    (holds : tag.bits < target.bits → target.Holds number) :
    number.bmod (2 ^ tag.bits) ≡ number [ZMOD 2 ^ target.bits] ↔
      target.bits ≤ tag.bits ∨ tag.Holds number := by
  by_cases narrower : target.bits ≤ tag.bits
  · have divides : (2 : Int) ^ target.bits ∣ 2 ^ tag.bits := pow_dvd_pow 2 narrower
    have congruent : number.bmod (2 ^ tag.bits) ≡ number [ZMOD 2 ^ tag.bits] := by
      have residue := Int.bmod_emod (x := number) (m := 2 ^ tag.bits)
      push_cast at residue
      exact residue
    exact iff_of_true (congruent.of_dvd divides) (.inl narrower)
  · rcases holds (not_le.1 narrower) with ⟨lower, upper⟩
    rcases (bits_lt_iff word integral).1 (not_le.1 narrower) with ⟨rfl, rfl⟩
    rw [or_iff_right narrower, ← bmod_eq_iff word]
    refine ⟨fun congruent => ?_, congrArg (· % 2 ^ TypeTag.long.bits)⟩
    -- Both numbers are in the range of a `long`, where no two are congruent.
    simp only [bits, Int.ModEq, Int.bmod] at *
    omega

end TypeTag

/-- The least `int` is the value of an operand that is promoted to `int` and is the least there. -/
theorem Value.eq_minValue_iff {value : Value} {number : Int}
    (isNumber : value.integer? = some number) :
    value = .int Int32.minValue ↔ value.tag.unaryPromotion = .int ∧ number = -2 ^ 31 := by
  cases value with
  | int own =>
      cases isNumber
      rw [Value.int.injEq, ← Int32.toInt_inj, Int32.toInt_minValue]
      exact (and_iff_right rfl).symm
  | byte own =>
      cases isNumber
      have lower := own.le_toInt
      exact iff_of_false nofun (by omega)
  | short own =>
      cases isNumber
      have lower := own.le_toInt
      exact iff_of_false nofun (by omega)
  | char unit =>
      cases isNumber
      exact iff_of_false nofun (by omega)
  | long own => exact iff_of_false nofun nofun
  | _ => cases isNumber

open Evaluation

namespace TypedUnary

variable {operator : TypedUnary} {change : Int → Int} {number : Int}

theorem compute_of_signing? {operand : Value}
    (isSigning : operator.operation.signing? = some change)
    (integral : operator.result.isIntegral = true) (isNumber : operand.integer? = some number) :
    operator.compute operand =
      .ok (.ofInteger (change number) operator.result.unaryPromotion) := by
  rcases operator with ⟨operation, result, tag⟩
  rcases (TypeTag.isWord_unaryPromotion integral).1 with inInt | inLong
  · rw [compute, inInt, Value.asInt_of_integer? isNumber]
    cases operation with
    | minus | plus | complement =>
        cases isSigning
        simp [Except.map, Value.ofInteger, Int32.ofInt_neg, Int32.ofInt_sub, Int32.not_eq_neg_sub]
    | _ => cases isSigning
  · rw [compute, inLong, Value.asLong_of_integer? isNumber]
    cases operation with
    | minus | plus | complement =>
        cases isSigning
        simp [Except.map, Value.ofInteger, Int64.ofInt_neg, Int64.ofInt_sub, Int64.not_eq_neg_sub]
    | _ => cases isSigning

/-- The low bits of the exact result. -/
theorem execute_of_signing? {operand : Operand}
    (isSigning : operator.operation.signing? = some change)
    (integral : operator.result.isIntegral = true)
    (isNumber : operand.value.integer? = some number) (rest : List Operand) (room : Nat) :
    operator.execute ⟨operand :: rest, room⟩ =
      .done (.ok (), ⟨.plain (.ofInteger (change number) operator.result) :: rest, room⟩) := by
  rcases TypeTag.isWord_unaryPromotion integral with ⟨word, narrower⟩
  have converted := Value.convertTo_ofInteger (change number) word.isIntegral integral narrower
  rw [execute_value (UnaryOperation.isUpdate_of_signing? isSigning),
    compute_of_signing? isSigning integral isNumber]
  exact congrArg (fun outcome => Action.done (concluded rest room outcome)) converted

/--
Minus, plus and complement of a whole number that is tagged as what it is. The value that they leave
keeps the exact result. It is what the operation comes to that wraps in the promoted type of the
operand and is converted then, but for minus the least `int` as a `long`.
-/
theorem pushed_of_signing? (operation : UnaryOperation) (change : Int → Int)
    (isSigning : operation.signing? = some change) (operand : Operand) (number : Int)
    (isNumber : operand.value.integer? = some number) (result : TypeTag)
    (integral : result.isIntegral = true) (rest : List Operand) (room : Nat) :
    let operator : TypedUnary := ⟨operation, result, operand.value.tag⟩
    let word : TypeTag := if operand.value.tag = .long then .long else .int
    ∃ pushed computed expected : Value,
      operator.execute ⟨operand :: rest, room⟩ =
          .done (.ok (), ⟨.plain pushed :: rest, room⟩) ∧
        pushed.Keeps result (change number) ∧
        computed.tag = word ∧
        computed.integer? = some ((change number).bmod (2 ^ word.bits)) ∧
        computed.convertTo result = .ok expected ∧
        (pushed = expected ↔
          ¬(operation = .minus ∧ operand.value = .int Int32.minValue ∧ result = .long)) := by
  intro operator word
  have operandIntegral := Value.isIntegral_of_integer? isNumber
  have promoted : operand.value.tag.unaryPromotion = word :=
    TypeTag.unaryPromotion_of_isIntegral operandIntegral
  rcases TypeTag.isWord_unaryPromotion operandIntegral with ⟨isWord, fits⟩
  have holds := Value.holds_of_integer? isNumber isWord fits
  rw [promoted] at isWord holds
  have computedNumber := Value.integer?_ofInteger_of_isWord isWord (change number)
  refine ⟨_, _, _, execute_of_signing? isSigning integral isNumber rest room,
    Value.keeps_ofInteger _ integral, Value.tag_ofInteger _ isWord.isIntegral, computedNumber,
    Value.convertTo_of_integer? computedNumber integral, ?_⟩
  have wide : word.bits < result.bits → result.Holds (change number) := by
    intro wider
    rcases (TypeTag.bits_lt_iff isWord integral).1 wider with ⟨inInt, rfl⟩
    exact UnaryOperation.holds_long_of_signing? isSigning (inInt ▸ holds)
  rw [eq_comm, Value.ofInteger_eq_iff integral, TypeTag.bmod_modEq_iff isWord integral wide,
    UnaryOperation.holds_of_signing? isSigning holds, ← not_lt,
    TypeTag.bits_lt_iff isWord integral, ← not_and_or]
  -- What is left out on both sides is one operand, since only `int` is narrower than a result.
  rw [Value.eq_minValue_iff isNumber, promoted]
  refine not_congr ⟨?_, ?_⟩
  · rintro ⟨⟨inInt, isLong⟩, isMinus, isLeast⟩
    rw [inInt] at isLeast
    exact ⟨isMinus, ⟨inInt, isLeast⟩, isLong⟩
  · rintro ⟨isMinus, ⟨inInt, isLeast⟩, isLong⟩
    rw [inInt]
    exact ⟨⟨rfl, isLong⟩, isMinus, isLeast⟩

/-- Minus the least `int` is positive as a `long`; in an `int` it is the least again. -/
theorem pushed_of_signing?_least :
    let least : Operand := .plain (.int Int32.minValue)
    let operator : TypedUnary := ⟨.minus, .long, .int⟩
    UnaryOperation.minus.signing? = some (fun number => -number) ∧
      least.value.integer? = some (-2147483648) ∧
      operator.execute ⟨[least], 0⟩ = .done (.ok (), ⟨[.plain (.long 2147483648)], 0⟩) ∧
      ∃ computed expected : Value,
        computed.tag = .int ∧ computed.integer? = some (-2147483648) ∧
          computed.convertTo .long = .ok expected ∧ .long 2147483648 ≠ expected := by
  intro least operator
  have isNumber : least.value.integer? = some (-2147483648) := by decide
  refine ⟨rfl, isNumber, ?_⟩
  rcases pushed_of_signing? .minus _ rfl least _ isNumber .long rfl [] 0 with
    ⟨pushed, computed, expected, executed, keeps, tagEq, stands, converted, agree⟩
  rw [Value.keeps_iff rfl] at keeps
  cases keeps
  have disagree := mt agree.1 (not_not.2 ⟨rfl, rfl, rfl⟩)
  exact ⟨executed, computed, expected, tagEq, stands.trans (by decide), converted, disagree⟩

end TypedUnary

end Watch
