import Watch.Wire.Instruction
import Watch.Proofs.Wire.Value

/-!
# Instructions and calls that come back

Operators, instructions, programs, locations and operations of the suspended program are read as
what was written. The only values among them are the constants of a program.
-/

namespace Watch

/-! ## Operators -/

namespace BinaryOperation

@[simp]
theorem ofJson?_toJson (reading : Reading) (operation : BinaryOperation) :
    ofJson? reading operation.toJson = some operation := by
  apply Json.named?_ofText
  · cases operation <;> decide
  · cases operation <;> decide

theorem tidy_toJson (operation : BinaryOperation) (depth : Nat) : operation.toJson.Tidy depth :=
  Json.Tidy.ofText operation.wireName

end BinaryOperation

namespace UnaryOperation

@[simp]
theorem ofJson?_toJson (reading : Reading) (operation : UnaryOperation) :
    ofJson? reading operation.toJson = some operation := by
  apply Json.named?_ofText
  · cases operation <;> decide
  · cases operation <;> decide

theorem tidy_toJson (operation : UnaryOperation) (depth : Nat) : operation.toJson.Tidy depth :=
  Json.Tidy.ofText operation.wireName

end UnaryOperation

namespace Connective

@[simp]
theorem ofJson?_toJson (reading : Reading) (connective : Connective) :
    ofJson? reading connective.toJson = some connective := by
  apply Json.named?_ofText
  · cases connective <;> decide
  · cases connective <;> decide

theorem tidy_toJson (connective : Connective) (depth : Nat) : connective.toJson.Tidy depth :=
  Json.Tidy.ofText connective.wireName

end Connective

namespace TypedBinary

@[simp]
theorem ofJson?_toJson (reading : Reading) (operator : TypedBinary) :
    ofJson? reading operator.toJson = some operator := by
  simp [toJson, ofJson?, Json.record?_ofMembers]

theorem tidy_toJson (operator : TypedBinary) : operator.toJson.Tidy 1 := by
  apply Json.Tidy.ofMembers
  simp [BinaryOperation.tidy_toJson, TypeTag.tidy_toJson, Json.Tidy.boolean]

end TypedBinary

namespace TypedUnary

@[simp]
theorem ofJson?_toJson (reading : Reading) (operator : TypedUnary) :
    ofJson? reading operator.toJson = some operator := by
  simp [toJson, ofJson?, Json.record?_ofMembers]

theorem tidy_toJson (operator : TypedUnary) : operator.toJson.Tidy 1 := by
  apply Json.Tidy.ofMembers
  simp [UnaryOperation.tidy_toJson, TypeTag.tidy_toJson]

end TypedUnary

/-! ## Instructions -/

namespace InstructionKind

/-- The constant of an instruction. -/
def values : InstructionKind → List Value
  | .pushLiteral value => [value]
  | _ => []

theorem ofJson?_tagged (reading : Reading) {name : String} (content : Json)
    (hasContent : bare? name = none) :
    ofJson? reading (.tagged name content) = ofContent? reading name content := by
  simp [ofJson?, hasContent]

theorem ofJson?_ofText (reading : Reading) {name : String} {kind : InstructionKind}
    (found : bare? name = some kind) : ofJson? reading (.ofText name) = some kind := by
  simp [ofJson?, found, Reading.isNothing]

theorem ofJson?_toJson (reading : Reading) {kind : InstructionKind}
    (readsBack : ∀ value ∈ kind.values, value.ReadsBack) :
    ofJson? reading kind.toJson = some kind := by
  cases kind with
  | pushLiteral value =>
      have found := Value.ofJson?_toJson reading (readsBack value List.mem_cons_self)
      rw [toJson, ofJson?_tagged reading _ rfl]
      exact congrArg (Option.map pushLiteral) found
  | pushLocal name =>
      rw [toJson, ofJson?_tagged reading _ rfl]
      exact congrArg (Option.map pushLocal) (Json.text?_ofText name)
  | pushThis => exact ofJson?_ofText reading rfl
  | pushField name =>
      rw [toJson, ofJson?_tagged reading _ rfl]
      exact congrArg (Option.map pushField) (Json.text?_ofText name)
  | pushStaticField typeName name =>
      rw [toJson, ofJson?_tagged reading _ rfl]
      change ((Json.ofMembers _).record? _ _).bind _ = _
      simp [Json.record?_ofMembers]
  | pushElement => exact ofJson?_ofText reading rfl
  | arrayLength => exact ofJson?_ofText reading rfl
  | binary operator =>
      rw [toJson, ofJson?_tagged reading _ rfl]
      exact congrArg (Option.map binary) (operator.ofJson?_toJson reading)
  | unary operator =>
      rw [toJson, ofJson?_tagged reading _ rfl]
      exact congrArg (Option.map unary) (operator.ofJson?_toJson reading)
  | assign result =>
      rw [toJson, ofJson?_tagged reading _ rfl]
      change ((Json.ofMembers _).record? _ _).bind _ = _
      simp [Json.record?_ofMembers]
  | cast target =>
      rw [toJson, ofJson?_tagged reading _ rfl]
      change ((Json.ofMembers _).record? _ _).bind _ = _
      simp [Json.record?_ofMembers]
  | invoke method argumentCount staticType =>
      rw [toJson, ofJson?_tagged reading _ rfl]
      change ((Json.ofMembers _).record? _ _).bind _ = _
      simp [Json.record?_ofMembers]
  | jump target =>
      rw [toJson, ofJson?_tagged reading _ rfl]
      change ((Json.ofMembers _).record? _ _).bind _ = _
      simp [Json.record?_ofMembers]
  | jumpIf truth target =>
      rw [toJson, ofJson?_tagged reading _ rfl]
      change ((Json.ofMembers _).record? _ _).bind _ = _
      simp [Json.record?_ofMembers]
  | shortCircuit connective target =>
      rw [toJson, ofJson?_tagged reading _ rfl]
      change ((Json.ofMembers _).record? _ _).bind _ = _
      simp [Json.record?_ofMembers]
  | pop => exact ofJson?_ofText reading rfl
  | noop => exact ofJson?_ofText reading rfl

/-- The kind of an instruction takes up at most three levels of nesting. -/
theorem tidy_toJson {kind : InstructionKind}
    (readsBack : ∀ value ∈ kind.values, value.ReadsBack) : kind.toJson.Tidy 3 := by
  cases kind with
  | pushLiteral value => exact .tagged (Value.tidy_toJson (readsBack value List.mem_cons_self))
  | pushLocal name => exact .tagged (.ofText name)
  | pushField name => exact .tagged (.ofText name)
  | pushThis => exact .ofText _
  | pushElement => exact .ofText _
  | arrayLength => exact .ofText _
  | pop => exact .ofText _
  | noop => exact .ofText _
  | binary operator => exact .tagged (operator.tidy_toJson.mono (by decide))
  | unary operator => exact .tagged (operator.tidy_toJson.mono (by decide))
  | invoke method argumentCount staticType =>
      have optional : (Json.ofOption .ofText staticType).Tidy 1 :=
        .ofOption fun name _ => .ofText name
      refine .tagged (.ofMembers ?_)
      simp [Json.Tidy.ofText, Json.Tidy.ofWord, optional]
  | _ =>
      refine .tagged (.ofMembers ?_)
      simp [Json.Tidy.ofText, Json.Tidy.ofWord, Json.Tidy.boolean, TypeTag.tidy_toJson,
        Connective.tidy_toJson]

end InstructionKind

namespace Instruction

theorem ofJson?_toJson (reading : Reading) {instruction : Instruction}
    (readsBack : ∀ value ∈ instruction.kind.values, value.ReadsBack) :
    ofJson? reading instruction.toJson = some instruction := by
  have kind := InstructionKind.ofJson?_toJson reading readsBack
  simp [toJson, ofJson?, Json.record?_ofMembers, kind]

theorem tidy_toJson {instruction : Instruction}
    (readsBack : ∀ value ∈ instruction.kind.values, value.ReadsBack) :
    instruction.toJson.Tidy 4 := by
  apply Json.Tidy.ofMembers
  simp [InstructionKind.tidy_toJson readsBack, Json.Tidy.ofWord]

end Instruction

namespace Program

/-- The constants of a program. -/
def values (program : Program) : List Value :=
  program.toList.flatMap fun instruction => instruction.kind.values

theorem ofJson?_toJson (reading : Reading) {program : Program}
    (readsBack : ∀ value ∈ program.values, value.ReadsBack) :
    ofJson? reading program.toJson = some program := by
  have found : (Json.array (program.toList.map Instruction.toJson)).list?
      (Instruction.ofJson? reading) = some program.toList := by
    apply Json.list?_array
    intro instruction listed
    apply Instruction.ofJson?_toJson
    intro value member
    exact readsBack value (List.mem_flatMap_of_mem listed member)
  simp [toJson, ofJson?, found]

theorem tidy_toJson {program : Program}
    (readsBack : ∀ value ∈ program.values, value.ReadsBack) : program.toJson.Tidy 5 := by
  apply Json.Tidy.array
  intro json listed
  rcases List.mem_map.1 listed with ⟨instruction, member, rfl⟩
  apply Instruction.tidy_toJson
  intro value constant
  exact readsBack value (List.mem_flatMap_of_mem member constant)

end Program

/-! ## Calls -/

namespace Location

theorem ofJson?_tagged (reading : Reading) {name : String} (content : Json)
    (hasContent : name ≠ "this") :
    ofJson? reading (.tagged name content) = ofContent? name content := by
  simp [ofJson?]

theorem ofJson?_toJson (reading : Reading) (location : Location) :
    ofJson? reading location.toJson = some location := by
  cases location with
  | «local» name =>
      rw [toJson, ofJson?_tagged reading _ (by decide)]
      exact congrArg (Option.map Location.local) (Json.text?_ofText name)
  | this => simp [toJson, ofJson?, Reading.isNothing]
  | field object name =>
      rw [toJson, ofJson?_tagged reading _ (by decide)]
      change ((Json.ofMembers _).record? _ _).bind _ = _
      simp [Json.record?_ofMembers]
  | staticField typeName name =>
      rw [toJson, ofJson?_tagged reading _ (by decide)]
      change ((Json.ofMembers _).record? _ _).bind _ = _
      simp [Json.record?_ofMembers]
  | element array index =>
      rw [toJson, ofJson?_tagged reading _ (by decide)]
      change ((Json.ofMembers _).record? _ _).bind _ = _
      simp [Json.record?_ofMembers]

theorem tidy_toJson (location : Location) : location.toJson.Tidy 2 := by
  cases location with
  | «local» name => exact .tagged (.ofText name)
  | this => exact .ofText "this"
  | field object name =>
      refine .tagged (.ofMembers ?_)
      simp [Json.Tidy.ofWord, Json.Tidy.ofText]
  | staticField typeName name =>
      refine .tagged (.ofMembers ?_)
      simp [Json.Tidy.ofText]
  | element array index =>
      have counted : (Json.ofInt index.toNat).Tidy 0 := .of_integer? (Json.integer?_word32 index)
      refine .tagged (.ofMembers ?_)
      simp [Json.Tidy.ofWord, counted]

end Location

namespace TargetOperation

theorem ofJson?_toJson (reading : Reading) (operation : TargetOperation) :
    ofJson? reading operation.toJson = some operation := by
  cases operation with
  | binary operation => simp [toJson, ofJson?]
  | text => simp [toJson, ofJson?, Reading.isNothing]
  | call method staticType => simp [toJson, ofJson?, Json.record?_ofMembers]

theorem tidy_toJson (operation : TargetOperation) : operation.toJson.Tidy 2 := by
  cases operation with
  | binary operation => exact .tagged (operation.tidy_toJson 1)
  | text => exact .ofText "to_string"
  | call method staticType =>
      have optional : (Json.ofOption .ofText staticType).Tidy 0 :=
        .ofOption fun name _ => .ofText name
      refine .tagged (.ofMembers ?_)
      simp [Json.Tidy.ofText, optional]

end TargetOperation

end Watch
