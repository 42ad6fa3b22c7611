import Watch.Wire.Value
import Watch.Proofs.Wire.Reading

/-!
# Values that come back

A value on the wire is read as the value, whether or not it was set aside. Whether a floating-point
number is read as itself is a matter of its numeral alone (`Value.ReadsBack`); one without a numeral
never is.
-/

namespace Watch

namespace TypeTag

@[simp]
theorem ofJson?_toJson (reading : Reading) (tag : TypeTag) :
    ofJson? reading tag.toJson = some tag := by
  apply Json.named?_ofText
  · cases tag <;> decide
  · cases tag <;> decide

theorem tidy_toJson (tag : TypeTag) (depth : Nat) : tag.toJson.Tidy depth :=
  Json.Tidy.ofText tag.name

end TypeTag

theorem Numeral.ofUnpacked?_eq_none {number : Float.Model.UnpackedFloat}
    (infinite : number.isFinite = false) (format : Float.Model.Format) (layout : Decimal.Layout) :
    Numeral.ofUnpacked? format layout number = none := by
  cases number with
  | infinity sign => rfl
  | notANumber => rfl
  | zero sign => contradiction
  | finite sign mantissa exponent positive => contradiction

namespace Json

theorem ofFloat_eq_null {number : Float32} (infinite : number.isFinite = false) :
    ofFloat number = .null := by
  rw [ofFloat, Numeral.ofUnpacked?_eq_none infinite]
  rfl

theorem ofDouble_eq_null {number : Float} (infinite : number.isFinite = false) :
    ofDouble number = .null := by
  rw [ofDouble, Numeral.ofUnpacked?_eq_none infinite]
  rfl

end Json

namespace Value

/-- Whether the numeral of a floating-point number is read as the number. -/
def ReadsBack : Value → Prop
  | .float number => (Json.ofFloat number).float? = some number
  | .double number => (Json.ofDouble number).double? = some number
  | _ => True

/-- Whether a value is no infinity and not not-a-number. -/
def isFinite : Value → Bool
  | .float number => number.isFinite
  | .double number => number.isFinite
  | _ => true

/-- A number without a numeral is never read as itself. -/
theorem isFinite_of_readsBack {value : Value} (readsBack : value.ReadsBack) :
    value.isFinite = true := by
  cases value with
  | float number =>
      have found : (Json.ofFloat number).float? = some number := readsBack
      cases finite : number.isFinite with
      | true => exact finite
      | false =>
          rw [Json.ofFloat_eq_null finite] at found
          contradiction
  | double number =>
      have found : (Json.ofDouble number).double? = some number := readsBack
      cases finite : number.isFinite with
      | true => exact finite
      | false =>
          rw [Json.ofDouble_eq_null finite] at found
          contradiction
  | _ => rfl

theorem toJson_ne_null (value : Value) : value.toJson ≠ .null := by
  cases value <;> simp [toJson, Json.tagged, Json.ofMembers, Json.ofText]

theorem ofJson?_tagged (reading : Reading) {name : String} (content : Json)
    (notNull : name ≠ "null") (notVoid : name ≠ "void") :
    ofJson? reading (.tagged name content) = ofContent? reading name content := by
  simp [ofJson?]

/-- A value on the wire is read as the value. -/
theorem ofJson?_toJson (reading : Reading) {value : Value} (readsBack : value.ReadsBack) :
    ofJson? reading value.toJson = some value := by
  cases value with
  | boolean truth =>
      rw [toJson, ofJson?_tagged reading _ (by decide) (by decide)]
      exact congrArg (Option.map boolean) (Json.truth?_boolean truth)
  | byte number =>
      rw [toJson, ofJson?_tagged reading _ (by decide) (by decide)]
      change ((Json.ofInt _).integer? Int8.minValue.toInt Int8.maxValue.toInt).map _ = _
      rw [Json.integer?_int8]
      simp
  | char unit =>
      rw [toJson, ofJson?_tagged reading _ (by decide) (by decide)]
      exact congrArg (Option.map char) (Json.word16?_ofInt unit)
  | short number =>
      rw [toJson, ofJson?_tagged reading _ (by decide) (by decide)]
      change ((Json.ofInt _).integer? Int16.minValue.toInt Int16.maxValue.toInt).map _ = _
      rw [Json.integer?_int16]
      simp
  | int number =>
      rw [toJson, ofJson?_tagged reading _ (by decide) (by decide)]
      change ((Json.ofInt _).integer? Int32.minValue.toInt Int32.maxValue.toInt).map _ = _
      rw [Json.integer?_int32]
      simp
  | long number =>
      rw [toJson, ofJson?_tagged reading _ (by decide) (by decide)]
      change ((Json.ofInt _).integer? Int64.minValue.toInt Int64.maxValue.toInt).map _ = _
      rw [Json.integer?_int64]
      simp
  | float number =>
      have found : (Json.ofFloat number).float? = some number := readsBack
      rw [toJson, ofJson?_tagged reading _ (by decide) (by decide)]
      exact congrArg (Option.map float) found
  | double number =>
      have found : (Json.ofDouble number).double? = some number := readsBack
      rw [toJson, ofJson?_tagged reading _ (by decide) (by decide)]
      exact congrArg (Option.map double) found
  | string text =>
      rw [toJson, ofJson?_tagged reading _ (by decide) (by decide)]
      exact congrArg (Option.map string) (Json.text?_ofText text)
  | null => simp [toJson, ofJson?, Reading.isNothing]
  | void => simp [toJson, ofJson?, Reading.isNothing]
  | object id typeName =>
      rw [toJson, ofJson?_tagged reading _ (by decide) (by decide)]
      change ((Json.ofMembers _).record? _ _).bind _ = _
      simp [Json.record?_ofMembers]
  | array id element length =>
      rw [toJson, ofJson?_tagged reading _ (by decide) (by decide)]
      change ((Json.ofMembers _).record? _ _).bind _ = _
      simp [Json.record?_ofMembers]

/-- A value that is read as itself has numerals that are. -/
theorem readsBack_of_ofJson? {reading : Reading} {value : Value}
    (found : ofJson? reading value.toJson = some value) : value.ReadsBack := by
  cases value with
  | float number =>
      rw [toJson, ofJson?_tagged reading _ (by decide) (by decide)] at found
      have content : (Json.ofFloat number).float?.map float = some (float number) := found
      rcases Option.map_eq_some_iff.1 content with ⟨other, read, same⟩
      cases same
      exact read
  | double number =>
      rw [toJson, ofJson?_tagged reading _ (by decide) (by decide)] at found
      have content : (Json.ofDouble number).double?.map double = some (double number) := found
      rcases Option.map_eq_some_iff.1 content with ⟨other, read, same⟩
      cases same
      exact read
  | _ => trivial

/-- The text of a value gives back what was written, whether or not that can be read. -/
theorem normal_toJson (value : Value) : value.toJson.normal = value.toJson := by
  cases value with
  | boolean truth => exact Json.normal_tagged rfl
  | float number => exact Json.normal_tagged (Json.normal_ofOption fun _ => rfl)
  | double number => exact Json.normal_tagged (Json.normal_ofOption fun _ => rfl)
  | string text => exact Json.normal_tagged (Json.normal_ofText text)
  | null => exact Json.normal_ofText "null"
  | void => exact Json.normal_ofText "void"
  | object id typeName =>
      refine Json.normal_tagged (Json.normal_ofMembers ?_)
      simp [Json.normal_ofText, Json.normal_ofInt]
  | array id element length =>
      refine Json.normal_tagged (Json.normal_ofMembers ?_)
      simp [TypeTag.toJson, Json.normal_ofText, Json.normal_ofInt]
  | _ => exact Json.normal_tagged (Json.normal_ofInt _)

/-- A value takes up at most two levels of nesting. -/
theorem tidy_toJson {value : Value} (readsBack : value.ReadsBack) : value.toJson.Tidy 2 := by
  cases value with
  | boolean truth => exact .tagged (.boolean truth)
  | byte number => exact .tagged (.of_integer? (Json.integer?_int8 number))
  | char unit => exact .tagged (.of_integer? (Json.integer?_word16 unit))
  | short number => exact .tagged (.of_integer? (Json.integer?_int16 number))
  | int number => exact .tagged (.of_integer? (Json.integer?_int32 number))
  | long number => exact .tagged (.of_integer? (Json.integer?_int64 number))
  | float number =>
      have found : (Json.ofFloat number).float? = some number := readsBack
      exact .tagged (.of_float? found)
  | double number =>
      have found : (Json.ofDouble number).double? = some number := readsBack
      exact .tagged (.of_double? found)
  | string text => exact .tagged (.ofText text)
  | null => exact .ofText "null"
  | void => exact .ofText "void"
  | object id typeName =>
      refine .tagged (.ofMembers ?_)
      simp [Json.Tidy.ofWord, Json.Tidy.ofText]
  | array id element length =>
      have counted : (Json.ofInt length.toNat).Tidy 0 := .of_integer? (Json.integer?_word32 length)
      refine .tagged (.ofMembers ?_)
      simp [Json.Tidy.ofWord, TypeTag.tidy_toJson, counted]

end Value

end Watch
