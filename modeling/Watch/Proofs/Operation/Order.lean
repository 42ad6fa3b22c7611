import Watch.Proofs.Operation.Operands

/-!
# The order of whole numbers

Values of the integral types are compared as the whole numbers that they stand for. Both operands
are converted to the wider of their promoted types, and that type holds the numbers of both: nothing
is cut off, and no sign is lost or made up (`Value.convertTo_binaryPromotion`). So the comparisons
of values of different types fit together to one total order (`Value.Ordered`).

The main statement is `TypedBinary.pushed_of_comparing?`.
-/

namespace Watch

open Evaluation

namespace BinaryOperation

/-- What the comparisons say of two whole numbers. -/
def comparing? : BinaryOperation → Option (Int → Int → Bool)
  | .lt => some fun left right => left < right
  | .le => some fun left right => left ≤ right
  | .gt => some fun left right => left > right
  | .ge => some fun left right => left ≥ right
  | .eq => some fun left right => left = right
  | .ne => some fun left right => left ≠ right
  | _ => none

variable {operation : BinaryOperation} {verdict : Int → Int → Bool} {left right : Int}

theorem isRelational_of_comparing? (isComparison : operation.comparing? = some verdict) :
    operation.isRelational = true := by
  cases operation <;> first | rfl | cases isComparison

theorem onInts_of_comparing? (isComparison : operation.comparing? = some verdict)
    (leftHolds : TypeTag.int.Holds left) (rightHolds : TypeTag.int.Holds right) :
    operation.onInts (.ofInt left) (.ofInt right) = .ok (.boolean (verdict left right)) := by
  have leftEq : (Int32.ofInt left).toInt = left :=
    Int32.toInt_ofInt_of_le leftHolds.1 leftHolds.2
  have rightEq : (Int32.ofInt right).toInt = right :=
    Int32.toInt_ofInt_of_le rightHolds.1 rightHolds.2
  cases operation with
  | lt | gt =>
      cases isComparison
      simp only [onInts, Int32.lt_iff_toInt_lt, gt_iff_lt, leftEq, rightEq]
  | le | ge =>
      cases isComparison
      simp only [onInts, Int32.le_iff_toInt_le, ge_iff_le, leftEq, rightEq]
  | eq | ne =>
      cases isComparison
      have same : (Int32.ofInt left == Int32.ofInt right) = decide (left = right) := by
        rw [Bool.eq_iff_iff, beq_iff_eq, decide_eq_true_iff, ← Int32.toInt_inj, leftEq, rightEq]
      simp only [onInts, bne, same, ne_eq, decide_not]
  | _ => cases isComparison

theorem onLongs_of_comparing? (isComparison : operation.comparing? = some verdict)
    (leftHolds : TypeTag.long.Holds left) (rightHolds : TypeTag.long.Holds right) :
    operation.onLongs (.ofInt left) (.ofInt right) = .ok (.boolean (verdict left right)) := by
  have leftEq : (Int64.ofInt left).toInt = left :=
    Int64.toInt_ofInt_of_le leftHolds.1 leftHolds.2
  have rightEq : (Int64.ofInt right).toInt = right :=
    Int64.toInt_ofInt_of_le rightHolds.1 rightHolds.2
  cases operation with
  | lt | gt =>
      cases isComparison
      simp only [onLongs, Int64.lt_iff_toInt_lt, gt_iff_lt, leftEq, rightEq]
  | le | ge =>
      cases isComparison
      simp only [onLongs, Int64.le_iff_toInt_le, ge_iff_le, leftEq, rightEq]
  | eq | ne =>
      cases isComparison
      have same : (Int64.ofInt left == Int64.ofInt right) = decide (left = right) := by
        rw [Bool.eq_iff_iff, beq_iff_eq, decide_eq_true_iff, ← Int64.toInt_inj, leftEq, rightEq]
      simp only [onLongs, bne, same, ne_eq, decide_not]
  | _ => cases isComparison

end BinaryOperation

namespace Value

variable {left right : Value} {number other : Int}

/-- The type in which two values of integral types are compared holds the numbers of both. -/
theorem holds_binaryPromotion (isNumber : left.integer? = some number)
    (isOther : right.integer? = some other) :
    (left.tag.binaryPromotion right.tag).IsWord ∧
      left.tag.bits ≤ (left.tag.binaryPromotion right.tag).bits ∧
      right.tag.bits ≤ (left.tag.binaryPromotion right.tag).bits := by
  have leftIntegral := isIntegral_of_integer? isNumber
  have rightIntegral := isIntegral_of_integer? isOther
  rcases TypeTag.isWord_binaryPromotion leftIntegral rightIntegral with ⟨word, leftFits⟩
  rcases TypeTag.isWord_binaryPromotion rightIntegral leftIntegral with ⟨-, rightFits⟩
  rw [TypeTag.binaryPromotion_comm] at rightFits
  exact ⟨word, leftFits, rightFits⟩

/-- A type that holds the number of a value keeps it. -/
theorem convertTo_of_fits {tag : TypeTag} (word : tag.IsWord)
    (isNumber : left.integer? = some number) (fits : left.tag.bits ≤ tag.bits) :
    ∃ converted, left.convertTo tag = .ok converted ∧ converted.integer? = some number :=
  ⟨_, convertTo_of_integer? isNumber word.isIntegral,
    integer?_ofInteger_of_holds word (holds_of_integer? isNumber word fits)⟩

/-- Promotion neither loses nor changes a number. -/
theorem convertTo_binaryPromotion (isNumber : left.integer? = some number)
    (isOther : right.integer? = some other) :
    ∃ leftWord rightWord,
      left.convertTo (left.tag.binaryPromotion right.tag) = .ok leftWord ∧
        leftWord.integer? = some number ∧
        right.convertTo (left.tag.binaryPromotion right.tag) = .ok rightWord ∧
        rightWord.integer? = some other := by
  rcases holds_binaryPromotion isNumber isOther with ⟨word, leftFits, rightFits⟩
  rcases convertTo_of_fits word isNumber leftFits with ⟨leftWord, leftConverted, leftKept⟩
  rcases convertTo_of_fits word isOther rightFits with ⟨rightWord, rightConverted, rightKept⟩
  exact ⟨leftWord, rightWord, leftConverted, leftKept, rightConverted, rightKept⟩

end Value

namespace TypedBinary

variable {operator : TypedBinary} {verdict : Int → Int → Bool} {left right : Value}
  {number other : Int}

theorem compute_of_comparing? (isComparison : operator.operation.comparing? = some verdict)
    (word : operator.workType.IsWord) (isNumber : left.integer? = some number)
    (isOther : right.integer? = some other) (leftFits : left.tag.bits ≤ operator.workType.bits)
    (rightFits : right.tag.bits ≤ operator.workType.bits) :
    operator.compute left right = lift (.ok (.boolean (verdict number other))) := by
  have leftHolds := Value.holds_of_integer? isNumber word leftFits
  have rightHolds := Value.holds_of_integer? isOther word rightFits
  rcases word with inInt | inLong
  · rw [inInt] at leftHolds rightHolds
    rw [compute_of_int inInt, Value.asInt_of_integer? isNumber, Value.asInt_of_integer? isOther]
    exact congrArg lift (BinaryOperation.onInts_of_comparing? isComparison leftHolds rightHolds)
  · rw [inLong] at leftHolds rightHolds
    rw [compute_of_long inLong, Value.asLong_of_integer? isNumber, Value.asLong_of_integer? isOther]
    exact congrArg lift (BinaryOperation.onLongs_of_comparing? isComparison leftHolds rightHolds)

/-- A comparison of two values, tagged as what they are. -/
def comparison (operation : BinaryOperation) (left right : Value) (result : TypeTag)
    (assigns : Bool) : TypedBinary :=
  ⟨operation, result, left.tag, right.tag, assigns⟩

variable {operation : BinaryOperation}

theorem valueOf_of_comparing? (isComparison : operation.comparing? = some verdict)
    (isNumber : left.integer? = some number) (isOther : right.integer? = some other)
    (result : TypeTag) (assigns : Bool) :
    (comparison operation left right result assigns).valueOf left right =
      lift (.ok (.boolean (verdict number other))) := by
  have relational := BinaryOperation.isRelational_of_comparing? isComparison
  have worksIn : (comparison operation left right result assigns).workType =
      left.tag.binaryPromotion right.tag := workType_of_isRelational relational
  have fits := Value.holds_binaryPromotion isNumber isOther
  rw [← worksIn] at fits
  rw [valueOf, compute_of_comparing? isComparison fits.1 isNumber isOther fits.2.1 fits.2.2,
    lift_ok_bind]
  exact if_pos relational

end TypedBinary

namespace Value

/-- That a comparison of two values, tagged as what they are, yields true. -/
def Compares (operation : BinaryOperation) (left right : Value) : Prop :=
  (TypedBinary.comparison operation left right .boolean false).valueOf left right =
    lift (.ok (.boolean true))

theorem compares_iff {operation : BinaryOperation} {verdict : Int → Int → Bool}
    {left right : Value} {number other : Int}
    (isComparison : operation.comparing? = some verdict) (isNumber : left.integer? = some number)
    (isOther : right.integer? = some other) :
    left.Compares operation right ↔ verdict number other = true := by
  have valued := TypedBinary.valueOf_of_comparing? isComparison isNumber isOther .boolean false
  rw [Compares, valued]
  constructor
  · intro same
    injection congrFun same (.empty 0) with outcome
    injection congrArg Prod.fst outcome with answer
    exact Value.boolean.inj answer
  · intro holds
    rw [holds]

/-- The laws of a total order, and of the comparisons that come with it, for three values. -/
structure Ordered (first second third : Value) : Prop where
  le_refl : first.Compares .le first
  le_total : first.Compares .le second ∨ second.Compares .le first
  le_trans : first.Compares .le second → second.Compares .le third → first.Compares .le third
  eq_iff : first.Compares .eq second ↔ first.Compares .le second ∧ second.Compares .le first
  lt_iff : first.Compares .lt second ↔ ¬second.Compares .le first
  gt_iff : first.Compares .gt second ↔ second.Compares .lt first
  ge_iff : first.Compares .ge second ↔ second.Compares .le first
  ne_iff : first.Compares .ne second ↔ ¬first.Compares .eq second

theorem ordered_of_integer? {first second third : Value} {one two three : Int}
    (isOne : first.integer? = some one) (isTwo : second.integer? = some two)
    (isThree : third.integer? = some three) : first.Ordered second third := by
  have le {left right : Value} {number other : Int} (isNumber : left.integer? = some number)
      (isOther : right.integer? = some other) : left.Compares .le right ↔ number ≤ other :=
    Iff.trans (compares_iff rfl isNumber isOther) decide_eq_true_iff
  have lt {left right : Value} {number other : Int} (isNumber : left.integer? = some number)
      (isOther : right.integer? = some other) : left.Compares .lt right ↔ number < other :=
    Iff.trans (compares_iff rfl isNumber isOther) decide_eq_true_iff
  have eq : first.Compares .eq second ↔ one = two :=
    Iff.trans (compares_iff rfl isOne isTwo) decide_eq_true_iff
  have gt : first.Compares .gt second ↔ one > two :=
    Iff.trans (compares_iff rfl isOne isTwo) decide_eq_true_iff
  have ge : first.Compares .ge second ↔ one ≥ two :=
    Iff.trans (compares_iff rfl isOne isTwo) decide_eq_true_iff
  have ne : first.Compares .ne second ↔ one ≠ two :=
    Iff.trans (compares_iff rfl isOne isTwo) decide_eq_true_iff
  constructor <;>
    simp only [le isOne isOne, le isOne isTwo, le isTwo isOne, le isTwo isThree, le isOne isThree,
      lt isOne isTwo, lt isTwo isOne, eq, gt, ge, ne] <;>
    omega

end Value

namespace TypedBinary

/--
Comparisons of values of integral types that are tagged as what they are. Whatever the result type
is, they leave what is true of the numbers, and a compound assignment also stores it. Neither number
is lost or changed by the promotion, and so the comparisons of all types are those of one order.
-/
theorem pushed_of_comparing? (operation : BinaryOperation) (verdict : Int → Int → Bool)
    (isComparison : operation.comparing? = some verdict) (left right : Operand)
    (number other : Int) (isNumber : left.value.integer? = some number)
    (isOther : right.value.integer? = some other) :
    (∀ (result : TypeTag) (rest : List Operand) (room : Nat),
      (comparison operation left.value right.value result false).execute
          ⟨right :: left :: rest, room⟩ =
        .done (.ok (), ⟨.plain (.boolean (verdict number other)) :: rest, room + 1⟩)) ∧
    (∀ (location : Location) (result : TypeTag) (rest : List Operand) (room : Nat),
      left = .slot location left.value →
      (comparison operation left.value right.value result true).execute
          ⟨right :: left :: rest, room⟩ =
        storeAndPush location (.boolean (verdict number other))
          (.boolean (verdict number other)) ⟨rest, room + 2⟩) ∧
    (∃ leftWord rightWord,
      left.value.convertTo (left.value.tag.binaryPromotion right.value.tag) = .ok leftWord ∧
        leftWord.integer? = some number ∧
        right.value.convertTo (left.value.tag.binaryPromotion right.value.tag) = .ok rightWord ∧
        rightWord.integer? = some other) ∧
    ∀ third : Value, third.tag.isIntegral = true → left.value.Ordered right.value third := by
  refine ⟨?_, ?_, Value.convertTo_binaryPromotion isNumber isOther, ?_⟩
  · intro result rest room
    rw [execute_values rfl, valueOf_of_comparing? isComparison isNumber isOther]
    rfl
  · intro location result rest room isSlot
    have valued := valueOf_of_comparing? isComparison isNumber isOther result true
    rw [isSlot, execute_slot rfl]
    exact congrFun (congrArg (· >>= _) valued) _
  · intro third integral
    rcases Value.exists_integer? integral with ⟨three, isThree⟩
    exact Value.ordered_of_integer? isNumber isOther isThree

/-- A `short` and a `char` of the same bits: minus one is less than the largest unit. -/
theorem pushed_of_comparing?_bits :
    let less : Int → Int → Bool := fun left right => left < right
    let left : Operand := .slot (.local "s") (.short (-1))
    let right : Operand := .plain (.char 65535)
    BinaryOperation.comparing? .lt = some less ∧ left.value.integer? = some (-1) ∧
      right.value.integer? = some 65535 ∧
      (comparison .lt left.value right.value .string false).execute ⟨[right, left], 0⟩ =
        .done (.ok (), ⟨[.plain (.boolean true)], 1⟩) ∧
      (comparison .lt left.value right.value .string true).execute ⟨[right, left], 0⟩ =
        storeAndPush (.local "s") (.boolean true) (.boolean true) ⟨[], 2⟩ ∧
      left.value.Ordered right.value (.byte (-1)) := by
  intro less left right
  have isNumber : left.value.integer? = some (-1) := by decide
  have isOther : right.value.integer? = some 65535 := by decide
  rcases pushed_of_comparing? .lt less rfl left right _ _ isNumber isOther with
    ⟨pushes, stores, -, ordered⟩
  exact ⟨rfl, isNumber, isOther, pushes .string [] 0, stores (.local "s") .string [] 0 rfl,
    ordered (.byte (-1)) rfl⟩

end TypedBinary

end Watch
