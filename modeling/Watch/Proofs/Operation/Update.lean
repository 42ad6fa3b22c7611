import Watch.Proofs.Evaluation.Atomicity
import Watch.Proofs.Frame.Cells
import Watch.Proofs.Operation.Operands
import Watch.Proofs.Value.Coercion

/-!
# Updates of whole numbers

An update of a location of an integral type (`TypedUnary.inPlace`) and the compound assignment of
one (`UnaryOperation.compounded`) are computed apart, but they are the same. The form of an update
decides what it leaves on the stack and nothing else. Since stepping up and down are inverse modulo
the range of the type, two updates in opposite directions leave the location as it was, at the
bounds as well.
-/

namespace Watch

open Evaluation

namespace UnaryOperation

/-- What an update adds to its operand. -/
def step (operation : UnaryOperation) : Int :=
  if operation.isIncrement then 1 else -1

/-- The operator of the compound assignment of one that does the same as an update. -/
def compounded (operation : UnaryOperation) : BinaryOperation :=
  if operation.isIncrement then .add else .sub

theorem onInts_compounded (operation : UnaryOperation) (number : Int32) :
    operation.compounded.onInts number 1 =
      .ok (.int (number + if operation.isIncrement then 1 else -1)) := by
  cases up : operation.isIncrement with
  | true => simp only [compounded, up, if_true, BinaryOperation.onInts]
  | false =>
      simp only [compounded, up, Bool.false_eq_true, if_false, BinaryOperation.onInts,
        Int32.sub_eq_add_neg]

theorem onLongs_compounded (operation : UnaryOperation) (number : Int64) :
    operation.compounded.onLongs number 1 =
      .ok (.long (number + if operation.isIncrement then 1 else -1)) := by
  cases up : operation.isIncrement with
  | true => simp only [compounded, up, if_true, BinaryOperation.onLongs]
  | false =>
      simp only [compounded, up, Bool.false_eq_true, if_false, BinaryOperation.onLongs,
        Int64.sub_eq_add_neg]

theorem ofInt_step (operation : UnaryOperation) :
    Int32.ofInt operation.step = (if operation.isIncrement then 1 else -1) ∧
      Int64.ofInt operation.step = if operation.isIncrement then 1 else -1 := by
  unfold step
  split <;> decide

theorem kind_compounded (operation : UnaryOperation) :
    operation.compounded.isShift = false ∧ operation.compounded.isRelational = false := by
  unfold compounded
  split <;> exact ⟨rfl, rfl⟩

end UnaryOperation

namespace TypedUnary

/-- An update whose operand and value have one type. -/
def inPlace (operation : UnaryOperation) (tag : TypeTag) : TypedUnary :=
  ⟨operation, tag, tag⟩

variable {operation : UnaryOperation} {tag : TypeTag} {old new : Value}

theorem neighbour_of_int (inInt : tag.unaryPromotion = .int) (old : Value) :
    (inPlace operation tag).neighbour old =
      old.asInt.map fun number => .int (number + if operation.isIncrement then 1 else -1) := by
  rw [neighbour, inPlace, inInt]

theorem neighbour_of_long (inLong : tag.unaryPromotion = .long) (old : Value) :
    (inPlace operation tag).neighbour old =
      old.asLong.map fun number => .long (number + if operation.isIncrement then 1 else -1) := by
  rw [neighbour, inPlace, inLong]

theorem compute_compounded (operation : UnaryOperation) (integral : tag.isIntegral = true)
    (old : Value) :
    (TypedBinary.compound operation.compounded tag .int).compute old (.int 1) =
      lift ((inPlace operation tag).neighbour old) := by
  have worksIn : (TypedBinary.compound operation.compounded tag .int).workType =
      tag.unaryPromotion := by
    rw [TypedBinary.workType_compound operation.kind_compounded.1]
    cases tag <;> first | rfl | contradiction
  rcases (TypeTag.isWord_unaryPromotion integral).1 with inInt | inLong
  · rw [TypedBinary.compute_of_int (worksIn.trans inInt), neighbour_of_int inInt]
    cases old.asInt with
    | error error => rfl
    | ok number => exact congrArg lift (operation.onInts_compounded number)
  · rw [TypedBinary.compute_of_long (worksIn.trans inLong), neighbour_of_long inLong]
    cases old.asLong with
    | error error => rfl
    | ok number => exact congrArg lift (operation.onLongs_compounded number)

/-- An update computes what the compound assignment of one computes. -/
theorem valueOf_compounded (operation : UnaryOperation) (integral : tag.isIntegral = true)
    (old : Value) :
    (TypedBinary.compound operation.compounded tag .int).valueOf old (.int 1) =
      lift ((inPlace operation tag).updated old) := by
  rw [TypedBinary.valueOf, compute_compounded operation integral, updated]
  simp only [TypedBinary.compound, operation.kind_compounded.2]
  cases (inPlace operation tag).neighbour old <;> rfl

theorem isNumeric_of_neighbour (integral : tag.isIntegral = true) {stepped : Value}
    (isStepped : (inPlace operation tag).neighbour old = .ok stepped) :
    old.tag.isNumeric = true := by
  rcases (TypeTag.isWord_unaryPromotion integral).1 with inInt | inLong
  · rw [neighbour_of_int inInt] at isStepped
    cases isNumber : old.asInt with
    | error error =>
        rw [isNumber] at isStepped
        cases isStepped
    | ok number => exact Value.isNumeric_of_asInt isNumber
  · rw [neighbour_of_long inLong] at isStepped
    cases isNumber : old.asLong with
    | error error =>
        rw [isNumber] at isStepped
        cases isStepped
    | ok number => exact Value.isNumeric_of_asLong isNumber

/-- A location that is updated has held a number, and holds one of its type then. -/
theorem ok_of_updated (integral : tag.isIntegral = true)
    (isUpdated : (inPlace operation tag).updated old = .ok new) :
    old.tag.isNumeric = true ∧ new.tag = tag := by
  unfold updated at isUpdated
  cases isStepped : (inPlace operation tag).neighbour old with
  | error error =>
      rw [isStepped] at isUpdated
      cases isUpdated
  | ok stepped =>
      rw [isStepped] at isUpdated
      have primitive : tag.isPrimitive = true := by
        rw [TypeTag.isPrimitive, TypeTag.isNumeric_of_isIntegral integral, Bool.true_or]
      exact ⟨isNumeric_of_neighbour integral isStepped,
        Value.tag_of_convertTo primitive isUpdated⟩

theorem updated_of_integer? {number : Int} (operation : UnaryOperation)
    (isInteger : old.integer? = some number) :
    (inPlace operation old.tag).updated old =
      .ok (.ofInteger (number + operation.step) old.tag) := by
  have integral := Value.isIntegral_of_integer? isInteger
  rcases TypeTag.isWord_unaryPromotion integral with ⟨word, narrower⟩
  have stepped : (inPlace operation old.tag).neighbour old =
      .ok (.ofInteger (number + operation.step) old.tag.unaryPromotion) := by
    rcases word with inInt | inLong
    · rw [neighbour_of_int inInt, Value.asInt_of_integer? isInteger, inInt, Value.ofInteger,
        Int32.ofInt_add, operation.ofInt_step.1]
      rfl
    · rw [neighbour_of_long inLong, Value.asLong_of_integer? isInteger, inLong, Value.ofInteger,
        Int64.ofInt_add, operation.ofInt_step.2]
      rfl
  rw [updated, stepped]
  exact Value.convertTo_ofInteger _ word.isIntegral integral narrower

/-- The direction of an update decides what it stores, not its form. -/
theorem updated_congr {other : UnaryOperation} (same : operation.isIncrement = other.isIncrement)
    (tag : TypeTag) (old : Value) :
    (inPlace operation tag).updated old = (inPlace other tag).updated old := by
  simp only [updated, neighbour, inPlace, same]
  rfl

theorem execute_inPlace_of_error (updates : operation.isUpdate = true) {error : EvaluationError}
    (failed : (inPlace operation tag).updated old = .error error) (location : Location)
    (rest : List Operand) (room : Nat) :
    (inPlace operation tag).execute ⟨.slot location old :: rest, room⟩ =
      .done (.error error, ⟨rest, room + 1⟩) := by
  rw [execute, inPlace, updates]
  rw [if_pos rfl, executeUpdate_slot, ← inPlace, failed]

theorem execute_inPlace (updates : operation.isUpdate = true) {shown : Value}
    (isUpdated : (inPlace operation tag).updated old = .ok new)
    (isShown : (inPlace operation tag).shown old new = .ok shown) (location : Location)
    (rest : List Operand) (room : Nat) :
    (inPlace operation tag).execute ⟨.slot location old :: rest, room⟩ =
      storeAndPush location new shown ⟨rest, room + 1⟩ := by
  rw [execute, inPlace, updates]
  rw [if_pos rfl, executeUpdate_slot, ← inPlace, isUpdated]
  refine congrArg (Action.ask (.store location new)) (funext fun answer => ?_)
  cases answer with
  | error error => rfl
  | ok done =>
      simp only [isShown]
      rfl

/-- The compound assignment of one, of a slot that is below it on the stack. -/
theorem execute_compounded (operation : UnaryOperation) (integral : tag.isIntegral = true)
    (location : Location) (old : Value) (rest : List Operand) (room : Nat) :
    (TypedBinary.compound operation.compounded tag .int).execute
        ⟨.plain (.int 1) :: .slot location old :: rest, room⟩ =
      (lift ((inPlace operation tag).updated old) >>= fun new => storeAndPush location new new)
        ⟨rest, room + 2⟩ := by
  rw [TypedBinary.execute_slot rfl, ← valueOf_compounded operation integral]
  rfl

variable {before after : UnaryOperation}

/--
The forms of an update and the compound assignment store the same. The postfix form leaves the old
value, converted, where the others leave the new one.
-/
theorem execute_inPlace_forms (isPrefix : before.isPrefixForm = true)
    (updates : after.isUpdate = true) (isPostfix : after.isPrefixForm = false)
    (sameWay : before.isIncrement = after.isIncrement) (integral : tag.isIntegral = true)
    (location : Location) (old : Value) (rest : List Operand) (room spare : Nat) :
    let slot : Operand := .slot location old
    let compounded := TypedBinary.compound before.compounded tag .int
    (∃ error,
      (inPlace before tag).execute ⟨slot :: rest, room⟩ =
          .done (.error error, ⟨rest, room + 1⟩) ∧
        compounded.execute ⟨.plain (.int 1) :: slot :: rest, spare⟩ =
          .done (.error error, ⟨rest, spare + 2⟩) ∧
        (inPlace after tag).execute ⟨slot :: rest, room⟩ =
          .done (.error error, ⟨rest, room + 1⟩)) ∨
      ∃ new shown, old.convertTo tag = .ok shown ∧
        (inPlace before tag).execute ⟨slot :: rest, room⟩ =
          storeAndPush location new new ⟨rest, room + 1⟩ ∧
        compounded.execute ⟨.plain (.int 1) :: slot :: rest, spare⟩ =
          storeAndPush location new new ⟨rest, spare + 2⟩ ∧
        (inPlace after tag).execute ⟨slot :: rest, room⟩ =
          storeAndPush location new shown ⟨rest, room + 1⟩ := by
  intro slot compounded
  have updatesToo : before.isUpdate = true := by
    cases before <;> first | rfl | contradiction
  have executed := execute_compounded before integral location old rest spare
  cases isUpdated : (inPlace before tag).updated old with
  | error error =>
      have isUpdatedToo := (updated_congr sameWay tag old).symm.trans isUpdated
      rw [isUpdated] at executed
      exact .inl ⟨error, execute_inPlace_of_error updatesToo isUpdated location rest room, executed,
        execute_inPlace_of_error updates isUpdatedToo location rest room⟩
  | ok new =>
      have isUpdatedToo := (updated_congr sameWay tag old).symm.trans isUpdated
      rw [isUpdated] at executed
      rcases ok_of_updated integral isUpdated with ⟨numeric, tagEq⟩
      rcases Value.exists_convertTo numeric (TypeTag.isNumeric_of_isIntegral integral) with
        ⟨converted, isConverted⟩
      have showsNew : (inPlace before tag).shown old new = .ok new := by
        rw [shown, inPlace, isPrefix]
        exact Value.convertTo_of_tag_eq tagEq
      have showsOld : (inPlace after tag).shown old new = .ok converted := by
        rw [shown, inPlace, isPostfix]
        exact isConverted
      exact .inr ⟨new, converted, isConverted,
        execute_inPlace updatesToo isUpdated showsNew location rest room, executed,
        execute_inPlace updates isUpdatedToo showsOld location rest room⟩

/-- An update of a location of a frame that holds a whole number of the type. -/
theorem perform_inPlace (updates : operation.isUpdate = true) {location : Location}
    {state : Suspended} {number : Int} (fetched : state.frame.fetch location = .ok old)
    (isInteger : old.integer? = some number) :
    ∃ shown, ∀ (rest : List Operand) (room : Nat),
      ((pushSlot location >>= fun _ => (inPlace operation old.tag).execute)
          ⟨rest, room + 1⟩).perform Frame.target state =
        ((.ok (), ⟨.plain shown :: rest, room⟩),
          { state with frame :=
              state.frame.write location (.ofInteger (number + operation.step) old.tag) }) := by
  have isUpdated := updated_of_integer? operation isInteger
  have integral := Value.isIntegral_of_integer? isInteger
  -- Both values that may be shown are of the type already.
  have isShown : ∃ shown, (inPlace operation old.tag).shown old
      (.ofInteger (number + operation.step) old.tag) = .ok shown := by
    refine ⟨_, Value.convertTo_of_tag_eq ?_⟩
    split
    · exact Value.tag_ofInteger _ integral
    · rfl
  rcases isShown with ⟨shown, isShown⟩
  refine ⟨shown, fun rest room => ?_⟩
  rw [Frame.perform_pushSlot fetched, execute_inPlace updates isUpdated isShown,
    Frame.perform_storeAndPush fetched]

theorem step_add_step {first second : UnaryOperation}
    (opposite : first.isIncrement ≠ second.isIncrement) : first.step + second.step = 0 := by
  revert opposite
  unfold UnaryOperation.step
  cases first.isIncrement <;> cases second.isIncrement <;> decide

/-- Two updates in opposite directions leave the frame as it was. -/
theorem perform_inPlace_twice {first second : UnaryOperation} (updates : first.isUpdate = true)
    (updatesToo : second.isUpdate = true) (opposite : first.isIncrement ≠ second.isIncrement)
    {location : Location} {state : Suspended} (fetched : state.frame.fetch location = .ok old)
    (integral : old.tag.isIntegral = true) :
    ∃ changed shown again, ∀ (rest : List Operand) (room : Nat),
      ((pushSlot location >>= fun _ => (inPlace first old.tag).execute)
          ⟨rest, room + 1⟩).perform Frame.target state =
        ((.ok (), ⟨.plain shown :: rest, room⟩), changed) ∧
      ((pushSlot location >>= fun _ => (inPlace second old.tag).execute)
          ⟨rest, room + 1⟩).perform Frame.target changed =
        ((.ok (), ⟨.plain again :: rest, room⟩), state) := by
  rcases Value.exists_integer? integral with ⟨number, isInteger⟩
  rcases perform_inPlace updates fetched isInteger with ⟨shown, performed⟩
  rcases Value.integer?_ofInteger (number + first.step) integral with ⟨own, isOwn, congruent⟩
  have tagEq := Value.tag_ofInteger (number + first.step) integral
  let changed : Suspended :=
    { state with frame :=
        state.frame.write location (.ofInteger (number + first.step) old.tag) }
  have fetchedNew : changed.frame.fetch location =
      .ok (.ofInteger (number + first.step) old.tag) := by
    rw [Frame.fetch_write_of_eq _ _ rfl, fetched]
    rfl
  rcases perform_inPlace updatesToo fetchedNew isOwn with ⟨again, performedToo⟩
  -- The number in between may have wrapped, but it is the old one and a step modulo the range.
  have back : own + second.step ≡ number [ZMOD 2 ^ old.tag.bits] := by
    have steps := congruent.add_right second.step
    rwa [Int.add_assoc, step_add_step opposite, Int.add_zero] at steps
  have restored : Value.ofInteger (own + second.step) old.tag = old :=
    ((Value.ofInteger_eq_iff integral).2 back).trans (Value.eq_ofInteger_of_integer? isInteger).symm
  have restoredFrame : changed.frame.write location old = state.frame := by
    rw [Frame.write_write, Frame.write_of_fetch fetched]
  rw [tagEq, restored, restoredFrame] at performedToo
  exact ⟨changed, shown, again, fun rest room => ⟨performed rest room, performedToo rest room⟩⟩

/--
Updates of a location of an integral type, whatever it holds, over every suspended program: the
prefix form and the compound assignment of one fail alike, or store and leave the same; the postfix
form stores the same and leaves the old value, converted to the type. Where a frame has a value of
the type, an update in each direction, in any form, leaves the frame as it was.
-/
theorem inPlace_updates (tag : TypeTag) (integral : tag.isIntegral = true) (location : Location) :
    (∀ (before after : UnaryOperation) (old : Value) (rest : List Operand) (room spare : Nat),
      before.isPrefixForm = true → after.isUpdate = true → after.isPrefixForm = false →
      before.isIncrement = after.isIncrement →
      let slot : Operand := .slot location old
      let compounded := TypedBinary.compound before.compounded tag .int
      (∃ error,
        (inPlace before tag).execute ⟨slot :: rest, room⟩ =
            .done (.error error, ⟨rest, room + 1⟩) ∧
          compounded.execute ⟨.plain (.int 1) :: slot :: rest, spare⟩ =
            .done (.error error, ⟨rest, spare + 2⟩) ∧
          (inPlace after tag).execute ⟨slot :: rest, room⟩ =
            .done (.error error, ⟨rest, room + 1⟩)) ∨
        ∃ new shown, old.convertTo tag = .ok shown ∧
          (inPlace before tag).execute ⟨slot :: rest, room⟩ =
            storeAndPush location new new ⟨rest, room + 1⟩ ∧
          compounded.execute ⟨.plain (.int 1) :: slot :: rest, spare⟩ =
            storeAndPush location new new ⟨rest, spare + 2⟩ ∧
          (inPlace after tag).execute ⟨slot :: rest, room⟩ =
            storeAndPush location new shown ⟨rest, room + 1⟩) ∧
    ∀ (first second : UnaryOperation) (state : Suspended) (old : Value),
      first.isUpdate = true → second.isUpdate = true → first.isIncrement ≠ second.isIncrement →
      state.frame.fetch location = .ok old → old.tag = tag →
      ∃ changed shown again, ∀ (rest : List Operand) (room : Nat),
        ((pushSlot location >>= fun _ => (inPlace first tag).execute)
            ⟨rest, room + 1⟩).perform Frame.target state =
          ((.ok (), ⟨.plain shown :: rest, room⟩), changed) ∧
        ((pushSlot location >>= fun _ => (inPlace second tag).execute)
            ⟨rest, room + 1⟩).perform Frame.target changed =
          ((.ok (), ⟨.plain again :: rest, room⟩), state) := by
  refine ⟨?_, ?_⟩
  · intro before after old rest room spare isPrefix updates isPostfix sameWay
    exact execute_inPlace_forms isPrefix updates isPostfix sameWay integral location old rest room
      spare
  · intro first second state old updates updatesToo opposite fetched tagEq
    subst tagEq
    exact perform_inPlace_twice updates updatesToo opposite fetched integral

/-- The largest `byte`, once up and once down. -/
theorem inPlace_updates_byte :
    let location : Location := .local "b"
    let slot : Operand := .slot location (.byte 127)
    let state : Suspended := ⟨Frame.empty.withLocal "b" (.byte 127), false⟩
    let wrapped : Suspended := ⟨Frame.empty.withLocal "b" (.byte (-128)), false⟩
    TypeTag.byte.isIntegral = true ∧
      (∃ new shown, (Value.byte 127).convertTo .byte = .ok shown ∧
        (inPlace .preIncrement .byte).execute ⟨[slot], 0⟩ =
          storeAndPush location new new ⟨[], 1⟩ ∧
        (TypedBinary.compound .add .byte .int).execute ⟨[.plain (.int 1), slot], 0⟩ =
          storeAndPush location new new ⟨[], 2⟩ ∧
        (inPlace .postIncrement .byte).execute ⟨[slot], 0⟩ =
          storeAndPush location new shown ⟨[], 1⟩) ∧
      state.frame.fetch location = .ok (.byte 127) ∧
      ((pushSlot location >>= fun _ => (inPlace .postIncrement .byte).execute)
          ⟨[], 1⟩).perform Frame.target state = ((.ok (), ⟨[.plain (.byte 127)], 0⟩), wrapped) ∧
      ∃ again, ((pushSlot location >>= fun _ => (inPlace .preDecrement .byte).execute)
          ⟨[], 1⟩).perform Frame.target wrapped = ((.ok (), ⟨[.plain again], 0⟩), state) := by
  intro location slot state wrapped
  rcases inPlace_updates .byte rfl location with ⟨forms, twice⟩
  have fetched : state.frame.fetch location = .ok (.byte 127) := rfl
  have up : ((pushSlot location >>= fun _ => (inPlace .postIncrement .byte).execute)
      ⟨[], 1⟩).perform Frame.target state = ((.ok (), ⟨[.plain (.byte 127)], 0⟩), wrapped) := rfl
  refine ⟨rfl, ?_, fetched, up, ?_⟩
  · rcases forms .preIncrement .postIncrement (.byte 127) [] 0 0 rfl rfl rfl rfl with
      ⟨error, failed, -⟩ | updated
    · cases failed
    · exact updated
  · rcases twice .postIncrement .preDecrement state (.byte 127) rfl rfl (by decide) fetched rfl with
      ⟨changed, shown, again, both⟩
    rcases both [] 0 with ⟨performed, performedToo⟩
    cases up.symm.trans performed
    exact ⟨again, performedToo⟩

end TypedUnary

end Watch
