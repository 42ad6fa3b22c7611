import Watch.Proofs.Instruction.Cast
import Watch.Proofs.Text.Utf16

/-!
# Concatenation over a frame

A sum that works on texts joins the texts of its operands, whatever their values and type tags are.
A value has a text of its own, or else, if it is an object or an array, the one that the frame
renders it as (`Value.HasText`).

What is left is a string again, so that sums can be nested either way and give the same string. The
methods `length` and `hashCode` of a frame measure it: its length is the sum of the lengths of the
two texts, and its hash is made of theirs and of the length of the second one.
-/

namespace Watch

open Evaluation

/-- A text of a value over a frame: its own, or, where it has none, the one of the frame. -/
def Value.HasText (value : Value) (state : Suspended) (text : String) : Prop :=
  value.plainText = some text ∨
    value.plainText = none ∧
      (state.frame.answer (.invoke .text [value])).1 = .ok (.string text)

section Texts

variable {state : Suspended} {value left right : Value} {text leftText rightText : String}

theorem Value.exists_hasText (value : Value) (state : Suspended) :
    ∃ text, value.HasText state text := by
  cases own : value.plainText with
  | none => exact ⟨value.renderedText, .inr ⟨own, rfl⟩⟩
  | some text => exact ⟨text, .inl own⟩

theorem Value.HasText.unique {other : String} (hasText : value.HasText state text)
    (hasOther : value.HasText state other) : text = other := by
  rcases hasText with own | ⟨noText, rendered⟩ <;>
    rcases hasOther with ownToo | ⟨noTextToo, renderedToo⟩
  · exact Option.some.inj (own.symm.trans ownToo)
  · cases noTextToo.symm.trans own
  · cases noText.symm.trans ownToo
  · cases rendered
    cases renderedToo
    rfl

theorem Value.HasText.perform_textOf (hasText : value.HasText state text) (stack : Stack) :
    (BinaryOperation.textOf value stack).perform Frame.target state =
      ((.ok text, stack), state) := by
  unfold BinaryOperation.textOf
  rcases hasText with own | ⟨noText, rendered⟩
  · rw [own]
    rfl
  · rw [noText]
    cases rendered
    rfl

theorem Value.HasText.perform_onTexts (hasLeft : left.HasText state leftText)
    (hasRight : right.HasText state rightText) (stack : Stack) :
    (BinaryOperation.onTexts .add left right stack).perform Frame.target state =
      ((.ok (.string (leftText ++ rightText)), stack), state) := by
  unfold BinaryOperation.onTexts
  rw [perform_bind_of_ok (hasLeft.perform_textOf stack),
    perform_bind_of_ok (hasRight.perform_textOf stack)]
  rfl

end Texts

namespace Frame

/-- What the methods `length` and `hashCode` of a text answer over a frame. -/
def Measures (state : Suspended) (text : String) (length hash : Int32) : Prop :=
  ∀ operand rest room, operand.value = .string text →
    (InstructionKind.callMethod "length" 0 none ⟨operand :: rest, room⟩).perform target state =
        kept state rest room (.ok (.int length)) ∧
      (InstructionKind.callMethod "hashCode" 0 none ⟨operand :: rest, room⟩).perform target state =
        kept state rest room (.ok (.int hash))

theorem measures (state : Suspended) (text : String) :
    Measures state text (Utf16.length text) (Utf16.hash text) := by
  intro operand rest room isText
  have lengthOf : operand.value.callMethod "length" [] = .ok (.int (Utf16.length text)) := by
    rw [isText]
    rfl
  have hashOf : operand.value.callMethod "hashCode" [] = .ok (.int (Utf16.hash text)) := by
    rw [isText]
    rfl
  rw [← lengthOf, ← hashOf]
  exact ⟨InstructionKind.perform_callMethod "length" operand [] rfl state rest room,
    InstructionKind.perform_callMethod "hashCode" operand [] rfl state rest room⟩

theorem measures_append (state : Suspended) (left right : String) :
    Measures state (left ++ right) (Utf16.length left + Utf16.length right)
      (Utf16.hash left * 31 ^ (Utf16.units right).length + Utf16.hash right) := by
  rw [← Utf16.length_append, ← Utf16.hash_append]
  exact measures state (left ++ right)

end Frame

namespace TypedBinary

/-- Sums that work on texts. -/
def Concatenates (operator : TypedBinary) : Prop :=
  operator.operation = .add ∧ operator.workType = .string

variable {operator : TypedBinary} {state : Suspended}

theorem Concatenates.result_eq (concatenates : operator.Concatenates)
    (assignsNot : operator.assigns = false) : operator.result = .string := by
  rcases operator with ⟨operation, result, leftTag, rightTag, assigns⟩
  rcases concatenates with ⟨rfl, inTexts⟩
  cases assignsNot
  cases result <;> first | rfl | cases inTexts

theorem Concatenates.perform_valueOf (concatenates : operator.Concatenates)
    (reference : operator.result.isReference = true) {left right : Value}
    {leftText rightText : String} (hasLeft : left.HasText state leftText)
    (hasRight : right.HasText state rightText) (stack : Stack) :
    (operator.valueOf left right stack).perform Frame.target state =
      ((.ok (.string (leftText ++ rightText)), stack), state) := by
  rcases concatenates with ⟨isSum, inTexts⟩
  have computed : ∀ stack, (operator.compute left right stack).perform Frame.target state =
      ((.ok (.string (leftText ++ rightText)), stack), state) := by
    intro stack
    unfold compute
    rw [inTexts, isSum]
    exact hasLeft.perform_onTexts hasRight stack
  have noComparison : operator.operation.isRelational = false := by
    rw [isSum]
    rfl
  have converted : (Value.string (leftText ++ rightText)).convertTo operator.result =
      .ok (.string (leftText ++ rightText)) :=
    Value.convertTo_of_isReference rfl reference
  rw [TypedBinary.perform_valueOf operator noComparison computed stack]
  exact congrArg (fun outcome => ((outcome, stack), state)) converted

theorem Concatenates.leaves (concatenates : operator.Concatenates)
    (assignsNot : operator.assigns = false) {left right : Operand} {leftText rightText : String}
    (hasLeft : left.value.HasText state leftText)
    (hasRight : right.value.HasText state rightText) :
    operator.Leaves state left right (.ok (.string (leftText ++ rightText))) := by
  have reference : operator.result.isReference = true := by
    rw [concatenates.result_eq assignsNot]
    rfl
  intro rest room
  rw [execute_values assignsNot]
  exact Frame.perform_kept (concatenates.perform_valueOf reference hasLeft hasRight _)

/-- A nested sum that begins on the left, as in `(x + y) + z`. -/
def groupedLeft (inner outer : TypedBinary) (left middle right : Operand) : Evaluation Unit := do
  push left
  push middle
  inner.execute
  push right
  outer.execute

/-- A nested sum that begins on the right, as in `x + (y + z)`. -/
def groupedRight (inner outer : TypedBinary) (left middle right : Operand) : Evaluation Unit := do
  push left
  push middle
  push right
  inner.execute
  outer.execute

section Nested

variable {inner outer : TypedBinary} {left middle right : Operand}
  {between final : Value} (rest : List Operand) (room : Nat)

theorem perform_groupedLeft
    (innerLeaves : inner.Leaves state left middle (.ok between))
    (outerLeaves : outer.Leaves state (.plain between) right (.ok final)) :
    (groupedLeft inner outer left middle right ⟨rest, room + 3⟩).perform Frame.target state =
      Frame.kept state rest (room + 2) (.ok final) := by
  have grouped : groupedLeft inner outer left middle right ⟨rest, room + 3⟩ =
      (inner.execute >>= fun _ => push right >>= fun _ => outer.execute)
        ⟨middle :: left :: rest, room + 1⟩ :=
    rfl
  rw [grouped, perform_bind_of_ok (innerLeaves rest (room + 1))]
  exact outerLeaves rest (room + 1)

theorem perform_groupedRight
    (innerLeaves : inner.Leaves state middle right (.ok between))
    (outerLeaves : outer.Leaves state left (.plain between) (.ok final)) :
    (groupedRight inner outer left middle right ⟨rest, room + 3⟩).perform Frame.target state =
      Frame.kept state rest (room + 2) (.ok final) := by
  have grouped : groupedRight inner outer left middle right ⟨rest, room + 3⟩ =
      (inner.execute >>= fun _ => outer.execute) ⟨right :: middle :: left :: rest, room⟩ :=
    rfl
  rw [grouped, perform_bind_of_ok (innerLeaves (left :: rest) room)]
  exact outerLeaves rest (room + 1)

end Nested

/--
Sums over a frame that work on texts. Whatever the operands are, the string that a sum leaves is the
text of the left one and behind it the text of the right one, and a compound assignment whose result
is a reference also stores it. As words that wrap, its length is the sum of the two lengths, and its
hash is that of the left text, moved up by as many places as the right text is long, plus that of
the right text. A character counts as one unit, also if it is half of a pair. Thus three operands
give the same string, with the same length and hash, on whichever side the sum begins.
-/
theorem concatenation_laws (state : Suspended) (left middle right : Operand) :
    ∃ leftText middleText rightText : String,
      (left.value.HasText state leftText ∧ middle.value.HasText state middleText ∧
        right.value.HasText state rightText) ∧
      (∀ operator : TypedBinary, operator.Concatenates → operator.assigns = false →
        operator.Leaves state left right (.ok (.string (leftText ++ rightText)))) ∧
      (∀ (operator : TypedBinary) (location : Location) (old : Value) (rest : List Operand)
        (room : Nat), operator.Concatenates → operator.assigns = true →
        operator.result.isReference = true → left = .slot location left.value →
        state.frame.fetch location = .ok old →
        (operator.execute ⟨right :: left :: rest, room⟩).perform Frame.target state =
          assigned state location rest (room + 1) (.ok (.string (leftText ++ rightText)))) ∧
      (∃ leftLength leftHash rightLength rightHash,
        Frame.Measures state leftText leftLength leftHash ∧
        Frame.Measures state rightText rightLength rightHash ∧
        Frame.Measures state (leftText ++ rightText) (leftLength + rightLength)
          (leftHash * 31 ^ rightLength.toUInt32.toNat + rightHash) ∧
        (31 : Int32) ^ rightLength.toUInt32.toNat = 31 ^ (Utf16.units rightText).length) ∧
      (∀ unit, left.value = .char unit → Utf16.units leftText =
        [if Utf16.isHighHalf unit || Utf16.isLowHalf unit then 0xFFFD else unit]) ∧
      ∀ inner outer innerToo outerToo : TypedBinary,
        (∀ operator ∈ [inner, outer, innerToo, outerToo],
          operator.Concatenates ∧ operator.assigns = false) →
        ∃ text length hash, text = leftText ++ middleText ++ rightText ∧
          Frame.Measures state text length hash ∧ ∀ rest room,
            (groupedLeft inner outer left middle right ⟨rest, room + 3⟩).perform Frame.target
                state = Frame.kept state rest (room + 2) (.ok (.string text)) ∧
              (groupedRight innerToo outerToo left middle right ⟨rest, room + 3⟩).perform
                Frame.target state = Frame.kept state rest (room + 2) (.ok (.string text)) := by
  rcases left.value.exists_hasText state with ⟨leftText, hasLeft⟩
  rcases middle.value.exists_hasText state with ⟨middleText, hasMiddle⟩
  rcases right.value.exists_hasText state with ⟨rightText, hasRight⟩
  refine ⟨leftText, middleText, rightText, ⟨hasLeft, hasMiddle, hasRight⟩, ?_, ?_, ?_, ?_, ?_⟩
  · intro operator concatenates assignsNot
    exact concatenates.leaves assignsNot hasLeft hasRight
  · intro operator location old rest room concatenates assigns reference isSlot fetched
    rw [isSlot, execute_slot assigns]
    exact perform_assigned fetched _ (concatenates.perform_valueOf reference hasLeft hasRight _)
  · have joined := Frame.measures_append state leftText rightText
    rw [← Utf16.pow_length] at joined
    exact ⟨_, _, _, _, Frame.measures state leftText, Frame.measures state rightText, joined,
      Utf16.pow_length rightText⟩
  · intro unit isChar
    have own : some (String.singleton (Utf16.charOfUnit unit)) = some leftText := by
      rcases hasLeft with own | ⟨noText, -⟩
      · rwa [isChar] at own
      · rw [isChar] at noText
        cases noText
    cases own
    exact Utf16.units_singleton_charOfUnit unit
  · intro inner outer innerToo outerToo concatenate
    simp only [List.forall_mem_cons, List.not_mem_nil, false_imp_iff, implies_true, and_true]
      at concatenate
    rcases concatenate with ⟨isInner, isOuter, isInnerToo, isOuterToo⟩
    have text (text : String) : (Value.string text).HasText state text := .inl rfl
    refine ⟨_, _, _, rfl, Frame.measures state _, fun rest room => ⟨?_, ?_⟩⟩
    · exact perform_groupedLeft rest room (isInner.1.leaves isInner.2 hasLeft hasMiddle)
        (isOuter.1.leaves isOuter.2 (text _) hasRight)
    · rw [String.append_assoc]
      exact perform_groupedRight rest room (isInnerToo.1.leaves isInnerToo.2 hasMiddle hasRight)
        (isOuterToo.1.leaves isOuterToo.2 hasLeft (text _))

/-- The two halves of a pair do not come together, neither with each other nor with an object. -/
theorem concatenation_laws_halves :
    let state : Suspended := ⟨Frame.empty.withLocal "c" (.char 0xD83D), false⟩
    let left : Operand := .slot (.local "c") (.char 0xD83D)
    let middle : Operand := .plain (.char 0xDE00)
    let right : Operand := .plain (.object 31 "Point")
    let sum (leftTag rightTag : TypeTag) : TypedBinary := ⟨.add, .string, leftTag, rightTag, false⟩
    let compound : TypedBinary := ⟨.add, .object, .char, .string, true⟩
    (∀ leftTag rightTag, (sum leftTag rightTag).Concatenates) ∧ compound.Concatenates ∧
      state.frame.fetch (.local "c") = .ok (.char 0xD83D) ∧
      (sum .char .object).Leaves state left right (.ok (.string "\ufffdPoint@1f")) ∧
      (compound.execute ⟨[right, left], 0⟩).perform Frame.target state =
        assigned state (.local "c") [] 1 (.ok (.string "\ufffdPoint@1f")) ∧
      (groupedLeft (sum .char .char) (sum .string .object) left middle right ⟨[], 3⟩).perform
        Frame.target state = Frame.kept state [] 2 (.ok (.string "\ufffd\ufffdPoint@1f")) ∧
      (groupedRight (sum .char .object) (sum .char .string) left middle right ⟨[], 3⟩).perform
        Frame.target state = Frame.kept state [] 2 (.ok (.string "\ufffd\ufffdPoint@1f")) := by
  intro state left middle right sum compound
  have sums (leftTag rightTag : TypeTag) : (sum leftTag rightTag).Concatenates := ⟨rfl, rfl⟩
  have compounds : compound.Concatenates := ⟨rfl, rfl⟩
  have fetched : state.frame.fetch (.local "c") = .ok (.char 0xD83D) := rfl
  have isLeft : left.value.HasText state "\ufffd" := .inl rfl
  have isMiddle : middle.value.HasText state "\ufffd" := .inl rfl
  have isRight : right.value.HasText state "Point@1f" := .inr ⟨rfl, rfl⟩
  rcases concatenation_laws state left middle right with ⟨leftText, middleText, rightText,
    ⟨hasLeft, hasMiddle, hasRight⟩, leaves, assigns, -, -, nested⟩
  cases hasLeft.unique isLeft
  cases hasMiddle.unique isMiddle
  cases hasRight.unique isRight
  rcases nested (sum .char .char) (sum .string .object) (sum .char .object) (sum .char .string)
    (by simp [sums, sum]) with ⟨text, -, -, rfl, -, grouped⟩
  exact ⟨sums, compounds, fetched, leaves _ (sums .char .object) rfl,
    assigns _ _ _ [] 0 compounds rfl rfl rfl fetched, grouped [] 0⟩

end TypedBinary

end Watch
