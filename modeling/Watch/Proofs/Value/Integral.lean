import Mathlib.Data.Int.Bitwise
import Mathlib.Data.Int.ModEq
import Watch.Value.Conversion

/-!
# Values of the integral types

A value of an integral type stands for a whole number (`Value.integer?`), and an integral type keeps
of a whole number its low bits (`Value.ofInteger`). The value that is kept is the only one of the
type that stands for a number congruent to the whole number (`Value.keeps_iff`), so that exactness
modulo the width of a type and equality of values are the same.

Conversions among the integral types are this reduction (`Value.convertTo_of_integer?`): what a type
keeps of a value depends on the number of the value alone, whether the type is wider or narrower,
signed or not.
-/

namespace Watch

namespace Word

variable {width : Nat}

/-- A word keeps the residue of a number and nothing else. -/
theorem ofInt_eq_ofInt_iff {left right : Int} :
    BitVec.ofInt width left = BitVec.ofInt width right ↔ left ≡ right [ZMOD 2 ^ width] := by
  have positive : (0 : Int) < ((2 ^ width : Nat) : Int) :=
    Int.natCast_pos.2 (Nat.two_pow_pos width)
  have leftNonneg := Int.emod_nonneg left positive.ne'
  have rightNonneg := Int.emod_nonneg right positive.ne'
  rw [← BitVec.toNat_inj, BitVec.toNat_ofInt, BitVec.toNat_ofInt, Int.ModEq]
  push_cast at leftNonneg rightNonneg ⊢
  omega

theorem getLsbD_ofInt (number : Int) (place : Nat) :
    (BitVec.ofInt width number).getLsbD place =
      (decide (place < width) && number.testBit place) := by
  cases number with
  | ofNat natural => exact BitVec.getLsbD_ofNat width natural place
  | negSucc natural =>
      rw [BitVec.ofInt_negSucc_eq_not_ofNat, BitVec.getLsbD_not, BitVec.getLsbD_ofNat]
      by_cases inside : place < width <;> simp [inside, Int.testBit]

theorem setWidth_ofInt (number : Int) {narrow : Nat} (narrower : narrow ≤ width) :
    (BitVec.ofInt width number).setWidth narrow = BitVec.ofInt narrow number := by
  apply BitVec.eq_of_getLsbD_eq
  intro place inside
  have insideToo : place < width := Nat.lt_of_lt_of_le inside narrower
  simp only [BitVec.getLsbD_setWidth, getLsbD_ofInt, inside, insideToo, decide_true, Bool.true_and]

end Word

namespace TypeTag

/-- The types of whole numbers; a `char` counts as one. -/
def isIntegral : TypeTag → Bool
  | .byte | .char | .short | .int | .long => true
  | _ => false

/-- The width of an integral type. -/
def bits : TypeTag → Nat
  | .byte => 8
  | .char | .short => 16
  | .int => 32
  | .long => 64
  | _ => 0

theorem isNumeric_of_isIntegral {tag : TypeTag} (integral : tag.isIntegral = true) :
    tag.isNumeric = true := by
  cases tag <;> first | rfl | contradiction

end TypeTag

namespace Value

/-- The whole number that a value of an integral type stands for. -/
def integer? : Value → Option Int
  | .byte number => some number.toInt
  | .char unit => some unit.toNat
  | .short number => some number.toInt
  | .int number => some number.toInt
  | .long number => some number.toInt
  | _ => none

/-- What an integral type keeps of a whole number: its low bits. -/
def ofInteger (number : Int) : TypeTag → Value
  | .byte => .byte (.ofInt number)
  | .char => .char (.ofBitVec (.ofInt 16 number))
  | .short => .short (.ofInt number)
  | .int => .int (.ofInt number)
  | .long => .long (.ofInt number)
  | _ => .null

/-- A value of an integral type that stands for a whole number up to multiples of the range. -/
def Keeps (value : Value) (tag : TypeTag) (number : Int) : Prop :=
  value.tag = tag ∧ ∃ own, value.integer? = some own ∧ own ≡ number [ZMOD 2 ^ tag.bits]

variable {value : Value} {number other : Int} {tag target : TypeTag}

theorem tag_ofInteger (number : Int) (integral : tag.isIntegral = true) :
    (ofInteger number tag).tag = tag := by
  cases tag with
  | byte | char | short | int | long => rfl
  | _ => contradiction

theorem integer?_ofInteger (number : Int) (integral : tag.isIntegral = true) :
    ∃ own, (ofInteger number tag).integer? = some own ∧ own ≡ number [ZMOD 2 ^ tag.bits] := by
  cases tag with
  | byte | short | int | long =>
      refine ⟨_, rfl, ?_⟩
      simp only [Int8.toInt_ofInt, Int16.toInt_ofInt, Int32.toInt_ofInt, Int64.toInt_ofInt]
      exact Int.bmod_emod
  | char =>
      refine ⟨_, rfl, ?_⟩
      simp only [UInt16.toNat_ofBitVec, BitVec.toNat_ofInt, TypeTag.bits, Int.ModEq]
      omega
  | _ => contradiction

theorem keeps_ofInteger (number : Int) (integral : tag.isIntegral = true) :
    (ofInteger number tag).Keeps tag number :=
  ⟨tag_ofInteger number integral, integer?_ofInteger number integral⟩

theorem ofInteger_eq_iff (integral : tag.isIntegral = true) :
    ofInteger number tag = ofInteger other tag ↔ number ≡ other [ZMOD 2 ^ tag.bits] := by
  rw [← Word.ofInt_eq_ofInt_iff]
  cases tag with
  | byte | short | int | long | char =>
      simp [ofInteger, TypeTag.bits, ← Int8.toBitVec_inj, ← Int16.toBitVec_inj,
        ← Int32.toBitVec_inj, ← Int64.toBitVec_inj, ← UInt16.toBitVec_inj]
  | _ => contradiction

theorem isIntegral_of_integer? (isInteger : value.integer? = some number) :
    value.tag.isIntegral = true := by
  cases value with
  | byte own | char own | short own | int own | long own => rfl
  | _ => cases isInteger

theorem exists_integer? (integral : value.tag.isIntegral = true) :
    ∃ number, value.integer? = some number := by
  cases value with
  | byte own | char own | short own | int own | long own => exact ⟨_, rfl⟩
  | _ => contradiction

/-- A type keeps its own values as they are. -/
theorem eq_ofInteger_of_integer? (isInteger : value.integer? = some number) :
    value = ofInteger number value.tag := by
  cases value with
  | byte own | char own | short own | int own | long own =>
      cases isInteger
      simp [tag, ofInteger]
  | _ => cases isInteger

/-- The value that is kept is the only one of its type that stands for the number. -/
theorem keeps_iff (integral : tag.isIntegral = true) :
    value.Keeps tag number ↔ value = ofInteger number tag := by
  constructor
  · rintro ⟨rfl, own, isInteger, congruent⟩
    exact (eq_ofInteger_of_integer? isInteger).trans ((ofInteger_eq_iff integral).2 congruent)
  · rintro rfl
    exact keeps_ofInteger number integral

/-! ## Conversions -/

theorem asInt_of_integer? (isInteger : value.integer? = some number) :
    value.asInt = .ok (.ofInt number) := by
  cases value with
  | byte own | short own | int own | long own =>
      cases isInteger
      simp [asInt]
  | char unit =>
      cases isInteger
      exact congrArg Except.ok (Int32.toBitVec_inj.1 (by simp [← BitVec.toNat_inj]))
  | _ => cases isInteger

theorem asLong_of_integer? (isInteger : value.integer? = some number) :
    value.asLong = .ok (.ofInt number) := by
  cases value with
  | byte own | short own | int own | long own =>
      cases isInteger
      simp [asLong]
  | char unit =>
      cases isInteger
      exact congrArg Except.ok (Int64.toBitVec_inj.1 (by simp [← BitVec.toNat_inj]))
  | _ => cases isInteger

theorem asChar_of_integer? (isInteger : value.integer? = some number) :
    value.asChar = .ok (.ofBitVec (.ofInt 16 number)) := by
  have lowBits : (BitVec.ofInt 32 number).setWidth 16 = .ofInt 16 number :=
    Word.setWidth_ofInt number (by decide)
  have narrowed : (Int32.ofInt number).toUInt32.toUInt16 = .ofBitVec (.ofInt 16 number) :=
    UInt16.toBitVec_inj.1 lowBits
  cases value with
  | byte own | short own | int own | long own =>
      simp only [asChar, asInt_of_integer? isInteger, Except.map, narrowed]
  | char unit =>
      cases isInteger
      exact congrArg Except.ok (by simp)
  | _ => cases isInteger

/-- An integral type keeps of an integral value what it keeps of its number. -/
theorem convertTo_of_integer? (isInteger : value.integer? = some number)
    (integral : target.isIntegral = true) :
    value.convertTo target = .ok (ofInteger number target) := by
  unfold convertTo
  split
  · next same =>
    subst same
    exact congrArg Except.ok (eq_ofInteger_of_integer? isInteger)
  · cases target with
    | byte | short | int =>
        simp only [asInt_of_integer? isInteger, Except.map, ofInteger, Int32.toInt8_ofInt,
          Int32.toInt16_ofInt]
    | char => simp only [asChar_of_integer? isInteger, Except.map, ofInteger]
    | long => simp only [asLong_of_integer? isInteger, Except.map, ofInteger]
    | _ => contradiction

/-- A type keeps of what a wider one keeps of a number what it keeps of the number itself. -/
theorem convertTo_ofInteger (number : Int) (integral : tag.isIntegral = true)
    (integralToo : target.isIntegral = true) (narrower : target.bits ≤ tag.bits) :
    (ofInteger number tag).convertTo target = .ok (ofInteger number target) := by
  rcases integer?_ofInteger number integral with ⟨own, isInteger, congruent⟩
  rw [convertTo_of_integer? isInteger integralToo]
  have divides : (2 : Int) ^ target.bits ∣ 2 ^ tag.bits := pow_dvd_pow 2 narrower
  exact congrArg Except.ok ((ofInteger_eq_iff integralToo).2 (congruent.of_dvd divides))

end Value

end Watch
