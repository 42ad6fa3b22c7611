import Watch.Proofs.Operation.Shift

/-!
# Elements and lengths of arrays

An element is read at an index of the array, and every other number is refused
(`InstructionKind.readElement_eq`). The instruction takes an `int` for this. An index of a narrower
type is itself, and a `long` is its low 32 bits: one that is too large may be taken for another
index, and one that is an index may be refused (`InstructionKind.executes_pushElement_iff`).

A handle gives a length of 32 bits without a sign, of which the instructions make two numbers. The
bounds of an index are taken from it as it is, while the length that is shown is an `int` and less
than zero from 2³¹ on. Up to there the two agree (`InstructionKind.letsPass_iff_lt_length`).
-/

namespace Watch

open Evaluation

namespace Word

theorem toNat_toUInt32 {word : Int32} (nonneg : 0 ≤ word.toInt) :
    word.toUInt32.toNat = word.toInt.toNat := by
  rw [Int32.toNat_toUInt32_of_le (Int32.le_iff_toInt_le.2 nonneg), Int32.toNat_toInt]

theorem toInt_toInt32 {word : UInt32} (small : word.toNat < 2 ^ 31) :
    word.toInt32.toInt = word.toNat :=
  BitVec.toInt_eq_toNat_of_lt (show 2 * word.toNat < 2 ^ 32 by omega)

theorem toInt_toInt32_neg {word : UInt32} (large : 2 ^ 31 ≤ word.toNat) :
    word.toInt32.toInt < 0 :=
  BitVec.toInt_neg_iff.2 (show 2 ^ 32 ≤ 2 * word.toNat by omega)

end Word

/-- A whole number that is no `long` fits into an `int`. -/
theorem Value.bmod_eq_of_integer? {value : Value} {number : Int}
    (isNumber : value.integer? = some number) (noLong : value.tag ≠ .long) :
    number.bmod (2 ^ 32) = number := by
  have integral := isIntegral_of_integer? isNumber
  rcases TypeTag.isWord_unaryPromotion integral with ⟨-, fits⟩
  rw [TypeTag.unaryPromotion_of_isIntegral integral, if_neg noLong] at fits
  exact (TypeTag.bmod_eq_iff (.inl rfl)).2 (holds_of_integer? isNumber (.inl rfl) fits)

namespace InstructionKind

/-- The whole numbers that are an index of an array of some length. -/
def IsIndex (length : UInt32) (number : Int) : Prop :=
  0 ≤ number ∧ number < length.toNat

instance (length : UInt32) (number : Int) : Decidable (IsIndex length number) :=
  inferInstanceAs (Decidable (_ ∧ _))

variable {index handle : Operand} {own : Int32} {id : UInt64} {element : TypeTag}
  {length : UInt32} {number : Int}

theorem inBounds_iff : inBounds own length = true ↔ IsIndex length own.toInt := by
  rw [inBounds, Bool.and_eq_true, decide_eq_true_iff, decide_eq_true_iff, Int32.le_iff_toInt_le,
    Int32.toInt_zero]
  refine and_congr_right fun nonneg => ?_
  rw [UInt32.lt_iff_toNat_lt, Word.toNat_toUInt32 nonneg]
  omega

/-- The check of the bounds, with both operands taken. -/
theorem readElement_eq (isInt : index.value.asInt = .ok own)
    (isHandle : handle.value = .array id element length) (rest : List Operand) (room : Nat) :
    readElement ⟨index :: handle :: rest, room⟩ =
      (if inBounds own length then pushSlot (.element id own.toUInt32)
        else fail (.indexOutOfBounds own.toInt64 length)) ⟨rest, room + 2⟩ := by
  change (lift index.value.asInt >>= _) ⟨handle :: rest, room + 1⟩ = _
  rw [isInt, lift_ok_bind]
  cases handle with
  | plain value | slot location value =>
      cases isHandle
      rfl

theorem execute_pushElement (isInt : index.value.asInt = .ok own)
    (isHandle : handle.value = .array id element length) (size place : Nat) (rest : List Operand)
    (room : Nat) :
    (IsIndex length own.toInt →
      pushElement.execute size place ⟨index :: handle :: rest, room⟩ =
        thenNext (place + 1) (pushSlot (.element id (.ofNat own.toInt.toNat)))
          ⟨rest, room + 2⟩) ∧
      (¬IsIndex length own.toInt →
        pushElement.execute size place ⟨index :: handle :: rest, room⟩ =
          .done (.error (.indexOutOfBounds (.ofInt own.toInt) length), ⟨rest, room + 2⟩)) := by
  have executed : pushElement.execute size place ⟨index :: handle :: rest, room⟩ =
      thenNext (place + 1) (if inBounds own length then pushSlot (.element id own.toUInt32)
        else fail (.indexOutOfBounds own.toInt64 length)) ⟨rest, room + 2⟩ :=
    congrArg (fun action : Action _ => action.bind _) (readElement_eq isInt isHandle rest room)
  rw [executed, ← inBounds_iff]
  constructor
  · intro inside
    rw [if_pos inside, ← Word.toNat_toUInt32 (inBounds_iff.1 inside).1, UInt32.ofNat_toNat]
  · intro outside
    rw [if_neg outside, Int64.ofInt_int32ToInt]
    rfl

/-- No two indices of an array have the same low bits. -/
theorem bmod_eq_of_isIndex (isIndex : IsIndex length number)
    (isIndexToo : IsIndex length (number.bmod (2 ^ 32))) : number.bmod (2 ^ 32) = number := by
  have residue : number.bmod (2 ^ 32) % (2 ^ 32 : Nat) = number % (2 ^ 32 : Nat) := Int.bmod_emod
  rcases isIndex with ⟨lower, upper⟩
  rcases isIndexToo with ⟨lowerToo, upperToo⟩
  have bound := length.toNat_lt
  omega

/-- What reads an element asks the suspended program for it. -/
theorem thenNext_pushSlot_ne_done (location : Location) (place : Nat) (stack : Stack)
    (outcome : Except EvaluationError Nat × Stack) :
    thenNext place (pushSlot location) stack ≠ .done outcome := by
  nofun

/--
What reading an element makes of an index of an integral type. The low 32 bits of the index, as an
`int`, are taken for it: the element there is read, or the index is refused. What is promised is to
read the element at the index itself if it is one, and to refuse it else. That is kept if nothing
was cut off, as it is for every index but a `long`, or if neither of the two numbers is an index.
-/
theorem executes_pushElement_iff (index handle : Operand) (number : Int)
    (isNumber : index.value.integer? = some number) (id : UInt64) (element : TypeTag)
    (length : UInt32) (isHandle : handle.value = .array id element length) (size place : Nat)
    (rest : List Operand) (room : Nat) :
    let low := number.bmod (2 ^ 32)
    let executed := pushElement.execute size place ⟨index :: handle :: rest, room⟩
    let reads (number : Int) :=
      executed = thenNext (place + 1) (pushSlot (.element id (.ofNat number.toNat)))
        ⟨rest, room + 2⟩
    let refuses (shown : Int64) :=
      executed = .done (.error (.indexOutOfBounds shown length), ⟨rest, room + 2⟩)
    (IsIndex length low → reads low) ∧ (¬IsIndex length low → refuses (.ofInt low)) ∧
      (index.value.tag ≠ .long → low = number) ∧
      ((IsIndex length number → reads number) ∧
          (¬IsIndex length number → ∃ shown, refuses shown) ↔
        low = number ∨ ¬IsIndex length number ∧ ¬IsIndex length low) := by
  intro low executed reads refuses
  have isLow : (Int32.ofInt number).toInt = low := Int32.toInt_ofInt
  have isInt := Value.asInt_of_integer? isNumber
  have outcome := execute_pushElement isInt isHandle size place rest room
  rw [isLow] at outcome
  rcases outcome with ⟨readsLow, refusesLow⟩
  refine ⟨readsLow, refusesLow, Value.bmod_eq_of_integer? isNumber, ?_, ?_⟩
  · rintro ⟨readsNumber, refusesNumber⟩
    by_cases isIndex : IsIndex length number
    · left
      by_contra differs
      have outside : ¬IsIndex length low := mt (bmod_eq_of_isIndex isIndex) differs
      exact thenNext_pushSlot_ne_done _ _ _ _
        ((readsNumber isIndex).symm.trans (refusesLow outside))
    · right
      refine ⟨isIndex, fun inside => ?_⟩
      rcases refusesNumber isIndex with ⟨shown, refused⟩
      exact thenNext_pushSlot_ne_done _ _ _ _ ((readsLow inside).symm.trans refused)
  · rintro (same | ⟨noIndex, outside⟩)
    · rw [← same]
      exact ⟨readsLow, fun outside => ⟨_, refusesLow outside⟩⟩
    · exact ⟨fun isIndex => absurd isIndex noIndex, fun _ => ⟨_, refusesLow outside⟩⟩

/-- The index 2³² is taken for zero, and 2³¹ is refused in an array that is longer. -/
theorem executes_pushElement_iff_beyond :
    let state : Suspended := ⟨Frame.empty.withArray 2 ⟨.int, #[.int 7, .int 8]⟩, false⟩
    let index (number : Int64) : Operand := .plain (.long number)
    let handle (length : UInt32) : Operand := .plain (.array 2 .int length)
    (index 4294967296).value.integer? = some 4294967296 ∧ ¬IsIndex 2 4294967296 ∧
      (pushElement.execute 3 2 ⟨[index 4294967296, handle 2], 0⟩).perform Frame.target state =
        ((.ok 3, ⟨[.slot (.element 2 0) (.int 7)], 1⟩), state) ∧
      (index 2147483648).value.integer? = some 2147483648 ∧ IsIndex 4294967295 2147483648 ∧
      pushElement.execute 3 2 ⟨[index 2147483648, handle 4294967295], 0⟩ =
        .done (.error (.indexOutOfBounds (-2147483648) 4294967295), ⟨[], 2⟩) := by
  intro state index handle
  have isNumber : (index 4294967296).value.integer? = some 4294967296 := by decide
  have isOther : (index 2147483648).value.integer? = some 2147483648 := by decide
  rcases executes_pushElement_iff (index 4294967296) (handle 2) _ isNumber 2 .int 2 rfl 3 2 [] 0
    with ⟨reads, -⟩
  rcases executes_pushElement_iff (index 2147483648) (handle 4294967295) _ isOther 2 .int _ rfl 3 2
    [] 0 with ⟨-, refuses, -⟩
  refine ⟨isNumber, ?_, ?_, isOther, ?_, ?_⟩
  · decide
  · rw [reads (by decide)]
    rfl
  · decide
  · exact refuses (by decide)

/-! ## Lengths -/

/-- The bounds of an array let an index pass, whatever becomes of it then. -/
def LetsPass (handle index : Operand) : Prop :=
  ∃ location, ∀ (size place : Nat) (rest : List Operand) (room : Nat),
    pushElement.execute size place ⟨index :: handle :: rest, room⟩ =
      thenNext (place + 1) (pushSlot location) ⟨rest, room + 2⟩

theorem letsPass_iff (isInt : index.value.asInt = .ok own)
    (isHandle : handle.value = .array id element length) :
    LetsPass handle index ↔ IsIndex length own.toInt := by
  constructor
  · rintro ⟨location, passes⟩
    by_contra outside
    have refuses := (execute_pushElement isInt isHandle 0 0 [] 0).2 outside
    exact thenNext_pushSlot_ne_done _ _ _ _ ((passes 0 0 [] 0).symm.trans refuses)
  · intro inside
    refine ⟨.element id (.ofNat own.toInt.toNat), fun size place rest room => ?_⟩
    exact (execute_pushElement isInt isHandle size place rest room).1 inside

theorem execute_arrayLength (isHandle : handle.value = .array id element length)
    (size place : Nat) (rest : List Operand) (room : Nat) :
    arrayLength.execute size place ⟨handle :: rest, room⟩ =
      .done (.ok (place + 1), ⟨.plain (.int length.toInt32) :: rest, room⟩) := by
  cases handle with
  | plain value | slot location value =>
      cases isHandle
      rfl

/--
What the length that is shown of an array says about its bounds. It is the length in 32 bits with a
sign, while an index passes if it is below the length itself. So the indices that pass are those
from zero to the length that is shown as long as this length is less than 2³¹. From there on it is
negative, and every `int` that is not passes.
-/
theorem letsPass_iff_lt_length (handle : Operand) (id : UInt64) (element : TypeTag)
    (length : UInt32) (isHandle : handle.value = .array id element length) :
    ∃ shown : Int32,
      (∀ (size place : Nat) (rest : List Operand) (room : Nat),
        arrayLength.execute size place ⟨handle :: rest, room⟩ =
          .done (.ok (place + 1), ⟨.plain (.int shown) :: rest, room⟩)) ∧
      ((∀ (index : Operand) (number : Int32), index.value = .int number →
          (LetsPass handle index ↔ 0 ≤ number ∧ number < shown)) ↔ length.toNat < 2 ^ 31) ∧
      (2 ^ 31 ≤ length.toNat → shown < 0 ∧
        ∀ (index : Operand) (number : Int32), index.value = .int number →
          (LetsPass handle index ↔ 0 ≤ number)) := by
  have passes : ∀ (index : Operand) (number : Int32), index.value = .int number →
      (LetsPass handle index ↔ 0 ≤ number.toInt ∧ number.toInt < length.toNat) := by
    intro index number isInt
    exact letsPass_iff (by rw [isInt, Value.asInt]) isHandle
  refine ⟨length.toInt32, execute_arrayLength isHandle, ⟨fun agree => ?_, fun small => ?_⟩, ?_⟩
  · by_contra large
    -- In a longer array the index zero passes, but is not below what is shown.
    have zero := (passes (.plain (.int 0)) 0 rfl).symm.trans (agree (.plain (.int 0)) 0 rfl)
    have negative := Word.toInt_toInt32_neg (not_lt.1 large)
    rw [Int32.le_iff_toInt_le, Int32.lt_iff_toInt_lt, Int32.toInt_zero] at zero
    omega
  · intro index number isInt
    rw [passes index number isInt, Int32.le_iff_toInt_le, Int32.lt_iff_toInt_lt,
      Word.toInt_toInt32 small, Int32.toInt_zero]
  · intro large
    refine ⟨Int32.lt_iff_toInt_lt.2 (Word.toInt_toInt32_neg large), fun index number isInt => ?_⟩
    have bound := number.toInt_lt
    rw [passes index number isInt, Int32.le_iff_toInt_le, Int32.toInt_zero]
    omega

/-- An array of 2³¹ elements lets the index zero pass, and is shown with a length less than zero. -/
theorem letsPass_iff_lt_length_large :
    let handle : Operand := .plain (.array 2 .int 2147483648)
    handle.value = .array 2 .int 2147483648 ∧ LetsPass handle (.plain (.int 0)) ∧
      ∃ shown : Int32, shown < 0 ∧
        arrayLength.execute 2 1 ⟨[handle], 0⟩ = .done (.ok 2, ⟨[.plain (.int shown)], 0⟩) := by
  intro handle
  rcases letsPass_iff_lt_length handle 2 .int 2147483648 rfl with ⟨shown, executed, -, large⟩
  rcases large (by decide) with ⟨negative, passes⟩
  exact ⟨rfl, (passes (.plain (.int 0)) 0 rfl).2 (by decide), shown, negative, executed 2 1 [] 0⟩

end InstructionKind

end Watch
