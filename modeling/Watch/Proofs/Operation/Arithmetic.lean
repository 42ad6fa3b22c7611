import Watch.Proofs.Operation.Operands

/-!
# Arithmetic on whole numbers

Some operators on whole numbers respect congruence: sums, differences and products, and the
operators on bits, which take a whole number for an endless row of bits in two's complement
(`BinaryOperation.onIntegers?`). An operator converts its operands to the type it works in, wraps
there, and converts the result once more. Since each of these three steps keeps the residue, it does
not matter which types they go through.

The main statement is `TypedBinary.keeps_of_onIntegers?`: the value of such an operator is the only
one of its type that is congruent to the result on whole numbers.
-/

namespace Watch

namespace Word

variable {width : Nat}

theorem ofInt_land (left right : Int) :
    BitVec.ofInt width (left.land right) =
      BitVec.ofInt width left &&& BitVec.ofInt width right := by
  apply BitVec.eq_of_getLsbD_eq
  intro place inside
  simp only [BitVec.getLsbD_and, getLsbD_ofInt, inside, decide_true, Bool.true_and,
    Int.testBit_land]

theorem ofInt_lor (left right : Int) :
    BitVec.ofInt width (left.lor right) =
      BitVec.ofInt width left ||| BitVec.ofInt width right := by
  apply BitVec.eq_of_getLsbD_eq
  intro place inside
  simp only [BitVec.getLsbD_or, getLsbD_ofInt, inside, decide_true, Bool.true_and, Int.testBit_lor]

theorem ofInt_xor (left right : Int) :
    BitVec.ofInt width (left.xor right) =
      BitVec.ofInt width left ^^^ BitVec.ofInt width right := by
  apply BitVec.eq_of_getLsbD_eq
  intro place inside
  simp only [BitVec.getLsbD_xor, getLsbD_ofInt, inside, decide_true, Bool.true_and,
    Int.testBit_lxor]

end Word

namespace BinaryOperation

/-- What the operators that respect congruence do to whole numbers. -/
def onIntegers? : BinaryOperation → Option (Int → Int → Int)
  | .add => some (· + ·)
  | .sub => some (· - ·)
  | .mul => some (· * ·)
  | .and => some Int.land
  | .or => some Int.lor
  | .xor => some Int.xor
  | _ => none

variable {operation : BinaryOperation} {exact : Int → Int → Int}

theorem onInts_of_onIntegers? (isExact : operation.onIntegers? = some exact) (left right : Int) :
    operation.onInts (.ofInt left) (.ofInt right) =
      .ok (Value.ofInteger (exact left right) .int) := by
  cases operation with
  | add | sub | mul =>
      cases isExact
      simp only [onInts, Value.ofInteger, Int32.ofInt_add, Int32.ofInt_sub, Int32.ofInt_mul]
  | and | or | xor =>
      cases isExact
      simp only [onInts, Value.ofInteger, Except.ok.injEq, Value.int.injEq, ← Int32.toBitVec_inj]
      simp only [Int32.toBitVec_and, Int32.toBitVec_or, Int32.toBitVec_xor, Int32.toBitVec_ofInt,
        Word.ofInt_land, Word.ofInt_lor, Word.ofInt_xor]
  | _ => cases isExact

theorem onLongs_of_onIntegers? (isExact : operation.onIntegers? = some exact) (left right : Int) :
    operation.onLongs (.ofInt left) (.ofInt right) =
      .ok (Value.ofInteger (exact left right) .long) := by
  cases operation with
  | add | sub | mul =>
      cases isExact
      simp only [onLongs, Value.ofInteger, Int64.ofInt_add, Int64.ofInt_sub, Int64.ofInt_mul]
  | and | or | xor =>
      cases isExact
      simp only [onLongs, Value.ofInteger, Except.ok.injEq, Value.long.injEq, ← Int64.toBitVec_inj]
      simp only [Int64.toBitVec_and, Int64.toBitVec_or, Int64.toBitVec_xor, Int64.toBitVec_ofInt,
        Word.ofInt_land, Word.ofInt_lor, Word.ofInt_xor]
  | _ => cases isExact

theorem kind_of_onIntegers? (isExact : operation.onIntegers? = some exact) :
    operation.isShift = false ∧ operation.isRelational = false := by
  cases operation <;> first | exact ⟨rfl, rfl⟩ | cases isExact

end BinaryOperation

open Evaluation

namespace TypedBinary

variable {operator : TypedBinary} {exact : Int → Int → Int} {left right : Value}
  {leftNumber rightNumber : Int}

theorem compute_of_onIntegers? (isExact : operator.operation.onIntegers? = some exact)
    (word : operator.workType.IsWord) (isLeft : left.integer? = some leftNumber)
    (isRight : right.integer? = some rightNumber) :
    operator.compute left right =
      lift (.ok (.ofInteger (exact leftNumber rightNumber) operator.workType)) := by
  rcases word with inInt | inLong
  · rw [compute_of_int inInt, Value.asInt_of_integer? isLeft, Value.asInt_of_integer? isRight,
      inInt]
    exact congrArg lift (BinaryOperation.onInts_of_onIntegers? isExact leftNumber rightNumber)
  · rw [compute_of_long inLong, Value.asLong_of_integer? isLeft, Value.asLong_of_integer? isRight,
      inLong]
    exact congrArg lift (BinaryOperation.onLongs_of_onIntegers? isExact leftNumber rightNumber)

theorem valueOf_of_onIntegers? (isExact : operator.operation.onIntegers? = some exact)
    (word : operator.workType.IsWord) (integral : operator.result.isIntegral = true)
    (narrower : operator.result.bits ≤ operator.workType.bits)
    (isLeft : left.integer? = some leftNumber) (isRight : right.integer? = some rightNumber) :
    operator.valueOf left right =
      lift (.ok (.ofInteger (exact leftNumber rightNumber) operator.result)) := by
  have noComparison := (BinaryOperation.kind_of_onIntegers? isExact).2
  rw [valueOf, compute_of_onIntegers? isExact word isLeft isRight, lift_ok_bind, noComparison]
  exact congrArg lift (Value.convertTo_ofInteger _ word.isIntegral integral narrower)

/--
Sums, differences, products and the operators on bits have the one value of the result type that is
congruent to what they make of the numbers of their operands. A compound assignment whose type tags
are those of its operands stores and has the one value of the type of its left operand with the same
property. Over a frame that has the location, the value is there afterwards, and the rest of the
frame is as before.
-/
theorem keeps_of_onIntegers? (operation : BinaryOperation) (exact : Int → Int → Int)
    (isExact : operation.onIntegers? = some exact) (left right : Operand)
    (leftNumber rightNumber : Int) (isLeft : left.value.integer? = some leftNumber)
    (isRight : right.value.integer? = some rightNumber) (rest : List Operand) (room : Nat) :
    (∀ result leftTag rightTag : TypeTag, result.isIntegral = true →
      ∃ value : Value, value.Keeps result (exact leftNumber rightNumber) ∧
        (∀ other : Value, other.Keeps result (exact leftNumber rightNumber) → other = value) ∧
        (⟨operation, result, leftTag, rightTag, false⟩ : TypedBinary).execute
            ⟨right :: left :: rest, room⟩ =
          .done (.ok (), ⟨.plain value :: rest, room + 1⟩)) ∧
      ∀ location : Location, left = .slot location left.value →
        ∃ value : Value, value.Keeps left.value.tag (exact leftNumber rightNumber) ∧
          (∀ other : Value, other.Keeps left.value.tag (exact leftNumber rightNumber) →
            other = value) ∧
          (compound operation left.value.tag right.value.tag).execute
              ⟨right :: left :: rest, room⟩ =
            storeAndPush location value value ⟨rest, room + 2⟩ ∧
          ∀ (state : Suspended) (old : Value), state.frame.fetch location = .ok old →
            ((compound operation left.value.tag right.value.tag).execute
                ⟨right :: left :: rest, room⟩).perform Frame.target state =
              ((.ok (), ⟨.plain value :: rest, room + 1⟩),
                { state with frame := state.frame.write location value }) := by
  rcases BinaryOperation.kind_of_onIntegers? isExact with ⟨noShift, noComparison⟩
  refine ⟨?_, ?_⟩
  · intro result leftTag rightTag integral
    have worksIn : (⟨operation, result, leftTag, rightTag, false⟩ : TypedBinary).workType =
        result.unaryPromotion := by
      simp [workType, noShift, noComparison]
    rcases TypeTag.isWord_unaryPromotion integral with ⟨word, narrower⟩
    rw [← worksIn] at word narrower
    refine ⟨_, Value.keeps_ofInteger _ integral, fun _ => (Value.keeps_iff integral).1, ?_⟩
    rw [execute_values rfl, valueOf_of_onIntegers? isExact word integral narrower isLeft isRight]
    rfl
  · intro location isSlot
    have integral := Value.isIntegral_of_integer? isLeft
    have worksIn : (compound operation left.value.tag right.value.tag).workType =
        left.value.tag.binaryPromotion right.value.tag := workType_compound noShift _ _
    rcases TypeTag.isWord_binaryPromotion integral
      (Value.isIntegral_of_integer? isRight) with ⟨word, narrower⟩
    rw [← worksIn] at word narrower
    have executed : (compound operation left.value.tag right.value.tag).execute
        ⟨right :: left :: rest, room⟩ =
          storeAndPush location (.ofInteger (exact leftNumber rightNumber) left.value.tag)
            (.ofInteger (exact leftNumber rightNumber) left.value.tag) ⟨rest, room + 2⟩ := by
      rw [isSlot, execute_slot rfl]
      exact congrFun (congrArg (· >>= _)
        (valueOf_of_onIntegers? isExact word integral narrower isLeft isRight)) _
    refine ⟨_, Value.keeps_ofInteger _ integral, fun _ => (Value.keeps_iff integral).1, executed,
      ?_⟩
    intro state old fetched
    rw [executed]
    exact Frame.perform_storeAndPush fetched _ _ _ _

/-- The largest `char` times minus two is two, in a `byte` and back in the local `char`. -/
theorem keeps_of_onIntegers?_product :
    let left : Operand := .slot (.local "c") (.char 65535)
    let right : Operand := .plain (.long (-2))
    let state : Suspended := ⟨Frame.empty.withLocal "c" (.char 65535), false⟩
    BinaryOperation.onIntegers? .mul = some (· * ·) ∧
      left.value.integer? = some 65535 ∧ right.value.integer? = some (-2) ∧
      (⟨.mul, .byte, .char, .long, false⟩ : TypedBinary).execute ⟨[right, left], 0⟩ =
        .done (.ok (), ⟨[.plain (.byte 2)], 1⟩) ∧
      (compound .mul .char .long).execute ⟨[right, left], 0⟩ =
        storeAndPush (.local "c") (.char 2) (.char 2) ⟨[], 2⟩ ∧
      state.frame.fetch (.local "c") = .ok (.char 65535) ∧
      ((compound .mul .char .long).execute ⟨[right, left], 0⟩).perform Frame.target state =
        ((.ok (), ⟨[.plain (.char 2)], 1⟩), ⟨Frame.empty.withLocal "c" (.char 2), false⟩) := by
  intro left right state
  have isLeft : left.value.integer? = some 65535 := by decide
  have isRight : right.value.integer? = some (-2) := by decide
  rcases keeps_of_onIntegers? .mul (· * ·) rfl left right 65535 (-2) isLeft isRight [] 0 with
    ⟨plainly, compoundly⟩
  have fetched : state.frame.fetch (.local "c") = .ok (.char 65535) := rfl
  refine ⟨rfl, isLeft, isRight, ?_, ?_⟩
  · rcases plainly .byte .char .long rfl with ⟨value, -, unique, executed⟩
    cases unique (.byte 2) ⟨rfl, 2, rfl, by decide⟩
    exact executed
  · rcases compoundly (.local "c") rfl with ⟨value, -, unique, executed, performed⟩
    cases unique (.char 2) ⟨rfl, 2, rfl, by decide⟩
    exact ⟨executed, fetched, performed state _ fetched⟩

end TypedBinary

end Watch
