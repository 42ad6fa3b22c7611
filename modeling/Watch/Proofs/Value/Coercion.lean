import Watch.Value.Conversion

/-!
# Conversions that fail

A conversion has one thing to complain about: the type of the value that was to be converted
(`Value.complains_convertTo`), even where it goes through another type on its way. Which values are
taken for numbers is the same for all numeric types, namely those whose type is numeric.
-/

namespace Watch

namespace Value

variable {Result Other : Type}

/-- Conversions of a value that say, if they fail, what the type of the value is. -/
def Complains (value : Value) (converted : Except EvaluationError Result) : Prop :=
  ∀ error, converted = .error error → ∃ expected : TypeTag, error = value.coercion expected

theorem Complains.map {value : Value} {converted : Except EvaluationError Result}
    (complains : value.Complains converted) (change : Result → Other) :
    value.Complains (converted.map change) := by
  intro error failed
  cases converted with
  | error own =>
      cases failed
      exact complains error rfl
  | ok result => cases failed

theorem complains_ok (value : Value) (result : Result) : value.Complains (.ok result) := by
  rintro error ⟨⟩

theorem complains_coercion (value : Value) (expected : TypeTag) :
    value.Complains (.error (value.coercion expected) : Except EvaluationError Result) := by
  rintro error ⟨⟩
  exact ⟨expected, rfl⟩

theorem complains_asBoolean (value : Value) : value.Complains value.asBoolean := by
  unfold asBoolean
  split
  · exact complains_ok _ _
  · exact complains_coercion _ _

theorem complains_asInt (value : Value) : value.Complains value.asInt := by
  unfold asInt
  split
  case h_8 => exact complains_coercion _ _
  all_goals exact complains_ok _ _

theorem complains_asLong (value : Value) : value.Complains value.asLong := by
  unfold asLong
  split
  case h_8 => exact complains_coercion _ _
  all_goals exact complains_ok _ _

theorem complains_asFloat (value : Value) : value.Complains value.asFloat := by
  unfold asFloat
  split
  case h_8 => exact complains_coercion _ _
  all_goals exact complains_ok _ _

theorem complains_asDouble (value : Value) : value.Complains value.asDouble := by
  unfold asDouble
  split
  case h_8 => exact complains_coercion _ _
  all_goals exact complains_ok _ _

theorem complains_asChar (value : Value) : value.Complains value.asChar := by
  unfold asChar
  split
  · exact complains_ok _ _
  · exact complains_coercion _ _
  · exact (complains_asInt value).map _

theorem complains_asString (value : Value) : value.Complains value.asString := by
  unfold asString
  split
  · exact complains_ok _ _
  · exact complains_ok _ _
  · split
    · exact complains_ok _ _
    · exact complains_coercion _ _

theorem complains_asReference (value : Value) (target : TypeTag) :
    value.Complains (value.asReference target) := by
  unfold asReference
  split
  · exact complains_coercion _ _
  · exact complains_ok _ _

theorem complains_convertTo (value : Value) (target : TypeTag) :
    value.Complains (value.convertTo target) := by
  unfold convertTo
  split
  · exact complains_ok _ _
  · cases target with
    | boolean => exact (complains_asBoolean value).map _
    | byte | short | int => exact (complains_asInt value).map _
    | char => exact (complains_asChar value).map _
    | long => exact (complains_asLong value).map _
    | float => exact (complains_asFloat value).map _
    | double => exact (complains_asDouble value).map _
    | string => exact complains_asString value
    | object | array => exact complains_asReference value _
    | void => exact complains_coercion _ _

/-! ## Conversions that succeed -/

variable {value converted : Value} {target : TypeTag}

theorem convertTo_of_tag_eq (same : value.tag = target) : value.convertTo target = .ok value :=
  if_pos same

/-- Where a value was made of what a conversion yields, the conversion has succeeded. -/
theorem ok_of_map {number : Except EvaluationError Result} {make : Result → Value}
    (mapped : number.map make = .ok converted) :
    ∃ result, number = .ok result ∧ make result = converted := by
  cases number with
  | error error => cases mapped
  | ok result =>
      cases mapped
      exact ⟨result, rfl, rfl⟩

theorem tag_of_convertTo (primitive : target.isPrimitive = true)
    (isConverted : value.convertTo target = .ok converted) : converted.tag = target := by
  have mapped : ∀ {Result : Type} {number : Except EvaluationError Result} {make : Result → Value},
      (∀ result, (make result).tag = target) → number.map make = .ok converted →
        converted.tag = target := by
    intro Result number make tagged made
    rcases ok_of_map made with ⟨result, -, rfl⟩
    exact tagged result
  unfold convertTo at isConverted
  split at isConverted
  · next same =>
    cases isConverted
    exact same
  · cases target with
    | boolean | byte | char | short | int | long | float | double =>
        exact mapped (fun _ => rfl) isConverted
    | _ => contradiction

theorem exists_convertTo (numeric : value.tag.isNumeric = true)
    (numericToo : target.isNumeric = true) :
    ∃ converted, value.convertTo target = .ok converted := by
  cases value with
  | byte own | char own | short own | int own | long own | float own | double own =>
      cases target with
      | byte | char | short | int | long | float | double => exact ⟨_, rfl⟩
      | _ => contradiction
  | _ => contradiction

theorem isNumeric_of_asInt {number : Int32} (isNumber : value.asInt = .ok number) :
    value.tag.isNumeric = true := by
  cases value with
  | byte own | char own | short own | int own | long own | float own | double own => rfl
  | _ => cases isNumber

theorem isNumeric_of_asLong {number : Int64} (isNumber : value.asLong = .ok number) :
    value.tag.isNumeric = true := by
  cases value with
  | byte own | char own | short own | int own | long own | float own | double own => rfl
  | _ => cases isNumber

theorem exists_ok_of_map {number : Except EvaluationError Result} {make : Result → Value}
    (isMapped : ∃ converted, number.map make = .ok converted) :
    ∃ result, number = .ok result := by
  rcases isMapped with ⟨converted, mapped⟩
  rcases ok_of_map mapped with ⟨result, isOk, -⟩
  exact ⟨result, isOk⟩

theorem convertTo_boolean (value : Value) :
    value.convertTo .boolean = value.asBoolean.map .boolean := by
  cases value <;> rfl

theorem convertTo_int (value : Value) : value.convertTo .int = value.asInt.map .int := by
  cases value <;> rfl

theorem convertTo_long (value : Value) : value.convertTo .long = value.asLong.map .long := by
  cases value <;> rfl

theorem convertTo_float (value : Value) : value.convertTo .float = value.asFloat.map .float := by
  cases value <;> rfl

theorem convertTo_double (value : Value) :
    value.convertTo .double = value.asDouble.map .double := by
  cases value <;> rfl

end Value

end Watch
