import Watch.Proofs.Operation.Operands

/-!
# Shifts of whole numbers

A shift works in the promoted type of its left operand, which holds the number that is shifted, and
takes its distance modulo the width of that type: whatever the right operand is, and however it was
narrowed, nothing but this residue of it is left. A shift to the left multiplies by a power of two
and wraps. One to the right divides by it and rounds down: either the number itself or, as if there
were no sign, its residue (`BinaryOperation.shifting?`).

The main statement is `TypedBinary.pushed_of_shifting?`.
-/

namespace Watch

namespace Word

variable {width modulus : Nat}

theorem ofInt_shl (number : Int) (distance : Nat) :
    BitVec.ofInt width (number * 2 ^ distance) = BitVec.ofInt width number <<< distance := by
  have power : BitVec.ofInt width (2 ^ distance) = BitVec.twoPow width distance := by
    rw [← BitVec.toNat_inj, BitVec.toNat_twoPow, BitVec.toNat_ofInt]
    norm_cast
  rw [BitVec.shiftLeft_eq_mul_twoPow, BitVec.ofInt_mul, power]

/-- A shift to the right that keeps the sign needs a word that holds the number. -/
theorem ofInt_shr {number : Int} (positive : 0 < width) (lower : -2 ^ (width - 1) ≤ number)
    (upper : number < 2 ^ (width - 1)) (distance : Nat) :
    BitVec.ofInt width (number / 2 ^ distance) =
      (BitVec.ofInt width number).sshiftRight distance := by
  have shifted : ((BitVec.ofInt width number).sshiftRight distance).toInt =
      number / 2 ^ distance := by
    rw [BitVec.toInt_sshiftRight, BitVec.toInt_ofInt_eq_self positive lower upper,
      Int.shiftRight_eq_div_pow]
    push_cast
    rfl
  rw [← shifted, BitVec.ofInt_toInt]

theorem ofInt_ushr (number : Int) (distance : Nat) :
    BitVec.ofInt width (number % 2 ^ width / 2 ^ distance) =
      BitVec.ofInt width number >>> distance := by
  have unsigned : number % 2 ^ width = ((BitVec.ofInt width number).toNat : Int) := by
    have nonneg := Int.emod_nonneg number (pow_ne_zero width (by decide : (2 : Int) ≠ 0))
    rw [BitVec.toNat_ofInt]
    push_cast
    exact (Int.toNat_of_nonneg nonneg).symm
  have shifted : ((BitVec.ofInt width number).toNat : Int) / 2 ^ distance =
      ((BitVec.ofInt width number >>> distance).toNat : Int) := by
    rw [BitVec.toNat_ushiftRight, Nat.shiftRight_eq_div_pow]
    push_cast
    rfl
  rw [unsigned, shifted, BitVec.ofInt_natCast, BitVec.ofNat_toNat, BitVec.setWidth_eq]

/-- A word has the residues of its number, as long as the modulus divides the range of the word. -/
theorem toNat_smod_ofInt (positive : 0 < modulus) (small : 2 * modulus < 2 ^ width)
    (divides : modulus ∣ 2 ^ width) (number : Int) :
    ((BitVec.ofInt width number).smod (.ofNat width modulus)).toNat =
      (number % modulus).toNat := by
  have divisor : (BitVec.ofNat width modulus).toNat = modulus := by
    rw [BitVec.toNat_ofNat, Nat.mod_eq_of_lt (by omega)]
  have residue : ((BitVec.ofInt width number).smod (.ofNat width modulus)).toInt =
      number % modulus := by
    rw [BitVec.toInt_smod, BitVec.toInt_ofInt, BitVec.toInt_eq_toNat_of_lt (by rwa [divisor]),
      divisor, Int.fmod_eq_emod_of_nonneg _ (Int.natCast_nonneg modulus),
      ← Int.emod_emod_of_dvd _ (Int.natCast_dvd_natCast.2 divides), Int.bmod_emod,
      Int.emod_emod_of_dvd _ (Int.natCast_dvd_natCast.2 divides)]
  have nonneg := Int.emod_nonneg number (Int.natCast_ne_zero.2 positive.ne')
  rw [BitVec.toInt_eq_toNat_of_lt (BitVec.toInt_pos_iff.1 (residue ▸ nonneg))] at residue
  omega

theorem toNat_umod_ofInt (small : modulus < 2 ^ width) (divides : modulus ∣ 2 ^ width)
    (number : Int) :
    (BitVec.ofInt width number % .ofNat width modulus).toNat = (number % modulus).toNat := by
  have nonneg := Int.emod_nonneg number (Int.natCast_ne_zero.2 (Nat.two_pow_pos width).ne')
  have residue := Int.emod_emod_of_dvd number (Int.natCast_dvd_natCast.2 divides)
  rw [BitVec.toNat_umod, BitVec.toNat_ofInt, BitVec.toNat_ofNat, Nat.mod_eq_of_lt small,
    ← residue, Int.toNat_emod nonneg (Int.natCast_nonneg modulus), Int.toNat_natCast]

end Word

theorem TypeTag.unaryPromotion_of_isIntegral {tag : TypeTag} (integral : tag.isIntegral = true) :
    tag.unaryPromotion = if tag = .long then .long else .int := by
  cases tag <;> first | rfl | contradiction

namespace BinaryOperation

/-- What the shifts make of a whole number in a word of some width, by a distance within it. -/
def shifting? (width : Nat) : BinaryOperation → Option (Int → Nat → Int)
  | .shl => some fun number distance => number * 2 ^ distance
  | .shr => some fun number distance => number / 2 ^ distance
  | .ushr => some fun number distance => number % 2 ^ width / 2 ^ distance
  | _ => none

variable {operation : BinaryOperation} {width : Nat} {shift : Int → Nat → Int} {number : Int}

theorem kind_of_shifting? (isShift : operation.shifting? width = some shift) :
    operation.isShift = true ∧ operation.isRelational = false := by
  cases operation <;> first | exact ⟨rfl, rfl⟩ | cases isShift

theorem onInts_of_shifting? (isShift : operation.shifting? 32 = some shift)
    (holds : TypeTag.int.Holds number) (distance : Int) :
    operation.onInts (.ofInt number) (.ofInt distance) =
      .ok (.ofInteger (shift number (distance % 32).toNat) .int) := by
  have signed : ((BitVec.ofInt 32 distance).smod 32).toNat = (distance % 32).toNat :=
    Word.toNat_smod_ofInt (by decide) (by decide) (by decide) distance
  have unsigned : (BitVec.ofInt 32 distance % 32).toNat = (distance % 32).toNat :=
    Word.toNat_umod_ofInt (by decide) (by decide) distance
  rcases holds with ⟨lower, upper⟩
  cases operation with
  | shl =>
      cases isShift
      simp only [onInts, Value.ofInteger, Except.ok.injEq, Value.int.injEq, ← Int32.toBitVec_inj]
      simp only [Int32.toBitVec_shiftLeft, Int32.toBitVec_ofInt, BitVec.shiftLeft_eq', signed,
        Word.ofInt_shl]
  | shr =>
      cases isShift
      have shifted : BitVec.ofInt 32 (number / 2 ^ (distance % 32).toNat) =
          (BitVec.ofInt 32 number).sshiftRight (distance % 32).toNat :=
        Word.ofInt_shr (by decide) lower upper _
      simp only [onInts, Value.ofInteger, Except.ok.injEq, Value.int.injEq, ← Int32.toBitVec_inj]
      simp only [Int32.toBitVec_shiftRight, Int32.toBitVec_ofInt, BitVec.sshiftRight_eq', signed,
        shifted]
  | ushr =>
      cases isShift
      have shifted : BitVec.ofInt 32 (number % 2 ^ 32 / 2 ^ (distance % 32).toNat) =
          BitVec.ofInt 32 number >>> (distance % 32).toNat :=
        Word.ofInt_ushr number _
      simp only [onInts, Value.ofInteger, Except.ok.injEq, Value.int.injEq, ← Int32.toBitVec_inj]
      rw [Int32.toBitVec_ofInt, shifted, ← unsigned]
      rfl
  | _ => cases isShift

theorem onLongs_of_shifting? (isShift : operation.shifting? 64 = some shift)
    (holds : TypeTag.long.Holds number) (distance : Int) :
    operation.onLongs (.ofInt number) (.ofInt distance) =
      .ok (.ofInteger (shift number (distance % 64).toNat) .long) := by
  have signed : ((BitVec.ofInt 64 distance).smod 64).toNat = (distance % 64).toNat :=
    Word.toNat_smod_ofInt (by decide) (by decide) (by decide) distance
  have unsigned : (BitVec.ofInt 64 distance % 64).toNat = (distance % 64).toNat :=
    Word.toNat_umod_ofInt (by decide) (by decide) distance
  rcases holds with ⟨lower, upper⟩
  cases operation with
  | shl =>
      cases isShift
      simp only [onLongs, Value.ofInteger, Except.ok.injEq, Value.long.injEq, ← Int64.toBitVec_inj]
      simp only [Int64.toBitVec_shiftLeft, Int64.toBitVec_ofInt, BitVec.shiftLeft_eq', signed,
        Word.ofInt_shl]
  | shr =>
      cases isShift
      have shifted : BitVec.ofInt 64 (number / 2 ^ (distance % 64).toNat) =
          (BitVec.ofInt 64 number).sshiftRight (distance % 64).toNat :=
        Word.ofInt_shr (by decide) lower upper _
      simp only [onLongs, Value.ofInteger, Except.ok.injEq, Value.long.injEq, ← Int64.toBitVec_inj]
      simp only [Int64.toBitVec_shiftRight, Int64.toBitVec_ofInt, BitVec.sshiftRight_eq', signed,
        shifted]
  | ushr =>
      cases isShift
      have shifted : BitVec.ofInt 64 (number % 2 ^ 64 / 2 ^ (distance % 64).toNat) =
          BitVec.ofInt 64 number >>> (distance % 64).toNat :=
        Word.ofInt_ushr number _
      simp only [onLongs, Value.ofInteger, Except.ok.injEq, Value.long.injEq, ← Int64.toBitVec_inj]
      rw [Int64.toBitVec_ofInt, shifted, ← unsigned]
      rfl
  | _ => cases isShift

end BinaryOperation

open Evaluation

namespace TypedBinary

variable {operator : TypedBinary} {shift : Int → Nat → Int} {left right : Value}
  {number distance : Int}

theorem compute_of_shifting?
    (isShift : operator.operation.shifting? operator.workType.bits = some shift)
    (word : operator.workType.IsWord) (isNumber : left.integer? = some number)
    (fits : left.tag.bits ≤ operator.workType.bits) (isDistance : right.integer? = some distance) :
    operator.compute left right =
      lift (.ok (.ofInteger (shift number (distance % operator.workType.bits).toNat)
        operator.workType)) := by
  have holds := Value.holds_of_integer? isNumber word fits
  rcases word with inInt | inLong
  · rw [inInt] at isShift holds
    rw [compute_of_int inInt, Value.asInt_of_integer? isNumber, Value.asInt_of_integer? isDistance,
      inInt]
    exact congrArg lift (BinaryOperation.onInts_of_shifting? isShift holds distance)
  · rw [inLong] at isShift holds
    rw [compute_of_long inLong, Value.asLong_of_integer? isNumber,
      Value.asLong_of_integer? isDistance, inLong]
    exact congrArg lift (BinaryOperation.onLongs_of_shifting? isShift holds distance)

/--
A shift of a whole number that is tagged as what it is, by any whole number however it is tagged.
What it computes stands, in 64 bits for a `long` and in 32 bits else, for the number shifted by the
residue of the distance modulo that width, and what it leaves is this number in the result type.
-/
theorem pushed_of_shifting? (operation : BinaryOperation) (shift : Int → Nat → Int)
    (left right : Operand) (number distance : Int) (isNumber : left.value.integer? = some number)
    (isDistance : right.value.integer? = some distance) (rightTag result : TypeTag)
    (integral : result.isIntegral = true) (rest : List Operand) (room : Nat) :
    let width := if left.value.tag = .long then 64 else 32
    let word : TypeTag := if left.value.tag = .long then .long else .int
    let operator : TypedBinary := ⟨operation, result, left.value.tag, rightTag, false⟩
    operation.shifting? width = some shift →
      ∃ shifted computed pushed,
        shifted = (shift number (distance % width).toNat).bmod (2 ^ width) ∧
          operator.compute left.value right.value = lift (.ok computed) ∧
          computed.tag = word ∧ computed.integer? = some shifted ∧
          computed.convertTo result = .ok pushed ∧ pushed.Keeps result shifted ∧
          operator.execute ⟨right :: left :: rest, room⟩ =
            .done (.ok (), ⟨.plain pushed :: rest, room + 1⟩) := by
  intro width word operator isShift
  rcases BinaryOperation.kind_of_shifting? isShift with ⟨shifts, noComparison⟩
  have leftIntegral := Value.isIntegral_of_integer? isNumber
  have worksIn : operator.workType = left.value.tag.unaryPromotion := workType_of_isShift shifts
  have isWord := TypeTag.isWord_unaryPromotion leftIntegral
  rw [← worksIn] at isWord
  rw [TypeTag.unaryPromotion_of_isIntegral leftIntegral] at worksIn
  have widthEq : operator.workType.bits = width := by
    rw [worksIn]
    exact apply_ite TypeTag.bits _ _ _
  have computed := compute_of_shifting? (widthEq ▸ isShift) isWord.1 isNumber isWord.2 isDistance
  have stands := Value.integer?_ofInteger_of_isWord isWord.1
    (shift number (distance % operator.workType.bits).toNat)
  rw [widthEq] at computed stands
  have tagEq := Value.tag_ofInteger (shift number (distance % width).toNat) isWord.1.isIntegral
  have converted := Value.convertTo_of_integer? stands integral
  refine ⟨_, _, _, rfl, computed, tagEq.trans worksIn, stands, converted,
    Value.keeps_ofInteger _ integral, ?_⟩
  rw [execute_of_compute computed rfl, noComparison, if_neg Bool.false_ne_true, converted]
  rfl

/-- The least `int` by minus one, which is as far as by 31: its sign becomes the last bit. -/
theorem pushed_of_shifting?_least :
    let shift : Int → Nat → Int := fun number distance => number % 2 ^ 32 / 2 ^ distance
    let least : Operand := .plain (.int Int32.minValue)
    let distance : Operand := .plain (.long (-1))
    let operator : TypedBinary := ⟨.ushr, .short, .int, .boolean, false⟩
    BinaryOperation.shifting? 32 .ushr = some shift ∧
      least.value.integer? = some (-2147483648) ∧ distance.value.integer? = some (-1) ∧
      operator.execute ⟨[distance, least], 0⟩ = .done (.ok (), ⟨[.plain (.short 1)], 1⟩) := by
  intro shift least distance operator
  have isNumber : least.value.integer? = some (-2147483648) := by decide
  have isDistance : distance.value.integer? = some (-1) := by decide
  refine ⟨rfl, isNumber, isDistance, ?_⟩
  rcases pushed_of_shifting? .ushr shift least distance _ _ isNumber isDistance .boolean .short rfl
    [] 0 rfl with ⟨shifted, computed, pushed, shiftedEq, -, -, -, -, keeps, executed⟩
  have isOne : shifted = 1 := shiftedEq.trans (by decide)
  rw [isOne, Value.keeps_iff rfl] at keeps
  rwa [keeps] at executed

end TypedBinary

end Watch
