import Watch.Proofs.Instruction.Cast

/-!
# What a conversion makes of a value

A type takes the values that suit it as they are (`Value.convertTo_of_suits`): its own values, and
references where it is a reference type. Whatever a conversion yields suits its target
(`Value.suits_of_convertTo`), so that converting once more changes nothing.

Whether a conversion succeeds depends on the type of the value alone (`TypeTag.convertsTo`), and one
that fails names this type. The main statement is `Value.convertTo_laws`.
-/

namespace Watch

/-- Whether values of a type convert to another type. -/
def TypeTag.convertsTo (source target : TypeTag) : Bool :=
  match target with
  | .boolean | .void => source == target
  | .byte | .char | .short | .int | .long | .float | .double => source.isNumeric
  | .object | .array => source.isReference
  | .string => source != .array

namespace Value

variable {Result Other : Type} {value converted : Value} {target : TypeTag}

/-! ## Values that are taken as they are -/

/--
A value that a type takes as it is: one of its own, or a reference for a reference type. No array is
a `string`.
-/
def Suits (value : Value) (target : TypeTag) : Prop :=
  value.tag = target ∨
    value.isReference = true ∧ target.isReference = true ∧ ¬(value.tag = .array ∧ target = .string)

theorem isReference_of_tag (reference : value.tag.isReference = true) :
    value.isReference = true := by
  cases value with
  | string text | null | object id typeName | array id element length => rfl
  | _ => contradiction

theorem Suits.tag_eq (suits : value.Suits target)
    (noReference : target.isPrimitive = true ∨ target = .void) : value.tag = target := by
  rcases suits with same | ⟨-, referenceToo, -⟩
  · exact same
  · cases target with
    | object | array | string => rcases noReference with primitive | isVoid <;> contradiction
    | _ => contradiction

theorem Suits.isReference (suits : value.Suits target) (reference : target.isReference = true) :
    value.isReference = true := by
  rcases suits with rfl | ⟨isReference, -, -⟩
  · exact isReference_of_tag reference
  · exact isReference

theorem convertTo_of_suits (suits : value.Suits target) : value.convertTo target = .ok value := by
  rcases suits with same | ⟨reference, referenceToo, noArray⟩
  · exact convertTo_of_tag_eq same
  · rw [convertTo_of_isReference reference referenceToo, if_neg noArray]

theorem suits_of_asString (isString : value.asString = .ok converted) :
    converted.Suits .string := by
  cases value with
  | null =>
      cases isString
      exact .inr ⟨rfl, rfl, by decide⟩
  | object id typeName =>
      cases isString
      exact .inr ⟨rfl, rfl, fun isArray => by cases isArray.1⟩
  | array id element length => cases isString
  | _ =>
      -- Every other value has a text.
      cases isString
      exact .inl rfl

theorem suits_of_asReference (reference : target = .object ∨ target = .array)
    (isConverted : value.asReference target = .ok converted) : converted.Suits target := by
  have noString : target.isReference = true ∧ target ≠ .string := by
    rcases reference with rfl | rfl <;> decide
  cases value with
  | string text | null | object id typeName | array id element length =>
      cases isConverted
      exact .inr ⟨rfl, noString.1, fun both => noString.2 both.2⟩
  | _ => cases isConverted

/-- What a conversion yields suits its target. -/
theorem suits_of_convertTo (isConverted : value.convertTo target = .ok converted) :
    converted.Suits target := by
  by_cases primitive : target.isPrimitive = true
  · exact .inl (tag_of_convertTo primitive isConverted)
  · unfold convertTo at isConverted
    split at isConverted
    · next same =>
      cases isConverted
      exact .inl same
    · cases target with
      | object => exact suits_of_asReference (.inl rfl) isConverted
      | array => exact suits_of_asReference (.inr rfl) isConverted
      | string => exact suits_of_asString isConverted
      | void => cases isConverted
      | _ => exact absurd rfl primitive

/-! ## Values that are converted at all -/

theorem isOk_map (result : Except EvaluationError Result) (change : Result → Other) :
    (result.map change).isOk = result.isOk := by
  cases result <;> rfl

theorem exists_ok_iff {outcome : Except EvaluationError Result} :
    (∃ result, outcome = .ok result) ↔ outcome.isOk = true := by
  cases outcome with
  | error error => simp [Except.isOk, Except.toBool]
  | ok result => simp [Except.isOk, Except.toBool]

theorem exists_error_iff {outcome : Except EvaluationError Result} :
    (∃ error, outcome = .error error) ↔ outcome.isOk = false := by
  cases outcome with
  | error error => simp [Except.isOk, Except.toBool]
  | ok result => simp [Except.isOk, Except.toBool]

theorem isOk_asInt (value : Value) : value.asInt.isOk = value.tag.isNumeric := by
  cases value <;> rfl

theorem isOk_asLong (value : Value) : value.asLong.isOk = value.tag.isNumeric := by
  cases value <;> rfl

theorem isOk_asFloat (value : Value) : value.asFloat.isOk = value.tag.isNumeric := by
  cases value <;> rfl

theorem isOk_asDouble (value : Value) : value.asDouble.isOk = value.tag.isNumeric := by
  cases value <;> rfl

theorem isOk_asChar (value : Value) : value.asChar.isOk = value.tag.isNumeric := by
  cases value <;> rfl

theorem isOk_asBoolean (value : Value) : value.asBoolean.isOk = (value.tag == .boolean) := by
  cases value <;> rfl

theorem isOk_asString (value : Value) : value.asString.isOk = (value.tag != .array) := by
  cases value <;> rfl

theorem isOk_asReference (value : Value) (target : TypeTag) :
    (value.asReference target).isOk = value.tag.isReference := by
  cases value <;> rfl

theorem convertsTo_self (tag : TypeTag) : tag.convertsTo tag = true := by
  cases tag <;> rfl

/-- Which values are converted depends on their types alone. -/
theorem isOk_convertTo (value : Value) (target : TypeTag) :
    (value.convertTo target).isOk = value.tag.convertsTo target := by
  unfold convertTo
  split
  · next same =>
    subst same
    exact (convertsTo_self _).symm
  · next different =>
    cases target with
    | boolean => exact (isOk_map _ _).trans (isOk_asBoolean value)
    | byte | short | int => exact (isOk_map _ _).trans (isOk_asInt value)
    | char => exact (isOk_map _ _).trans (isOk_asChar value)
    | long => exact (isOk_map _ _).trans (isOk_asLong value)
    | float => exact (isOk_map _ _).trans (isOk_asFloat value)
    | double => exact (isOk_map _ _).trans (isOk_asDouble value)
    | string => exact isOk_asString value
    | object | array => exact isOk_asReference value _
    | void => exact (beq_eq_false_iff_ne.2 different).symm

/--
What a conversion makes of a value. If it succeeds, the result is of the target type, where that is
primitive or `void`, and a reference, where it is a reference type; the result converts to the same
type as itself. If it fails, the error is a coercion that names the type of the value. It succeeds
exactly for the types that convert to the target, and so never from a truth to a number or back.
-/
theorem convertTo_laws (value : Value) (target : TypeTag) :
    (∀ converted, value.convertTo target = .ok converted →
      (target.isPrimitive = true ∨ target = .void → converted.tag = target) ∧
        (target.isReference = true → converted.isReference = true) ∧
        converted.convertTo target = .ok converted) ∧
      (∀ error, value.convertTo target = .error error →
        error.kind = .coercion ∧
          ∃ expected : TypeTag, error = .coercion expected.name value.tag.name) ∧
      ((∃ converted, value.convertTo target = .ok converted) ↔
        value.tag.convertsTo target = true) ∧
      (value.tag = .boolean ∧ target.isNumeric = true ∨
          value.tag.isNumeric = true ∧ target = .boolean →
        ∃ error, value.convertTo target = .error error) := by
  have isOk := isOk_convertTo value target
  refine ⟨?_, ?_, ?_, ?_⟩
  · intro converted isConverted
    have suits := suits_of_convertTo isConverted
    exact ⟨suits.tag_eq, suits.isReference, convertTo_of_suits suits⟩
  · intro error failed
    rcases complains_convertTo value target error failed with ⟨expected, rfl⟩
    exact ⟨rfl, expected, rfl⟩
  · rw [← isOk]
    exact exists_ok_iff
  · intro crossing
    have refused : value.tag.convertsTo target = false := by
      rcases crossing with ⟨isBoolean, numeric⟩ | ⟨numeric, rfl⟩
      · rw [isBoolean]
        cases target <;> first | rfl | contradiction
      · generalize value.tag = source at numeric
        cases source <;> first | rfl | contradiction
    exact exists_error_iff.2 (isOk.trans refused)

end Value

end Watch
