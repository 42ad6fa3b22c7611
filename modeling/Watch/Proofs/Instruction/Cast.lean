import Watch.Proofs.Operation.Equality

/-!
# References under casts and assignments

A cast and an assignment do the same to the value on top: they convert it
(`InstructionKind.execute_cast`, `InstructionKind.execute_assign`). A reference that is converted to
a reference type is the same reference afterwards. There is one pair for which this does not hold,
an array that is to be a string: other references pass for one as they are, null and objects
included, but an array is refused (`Value.convertTo_of_isReference`).

The main statement is `InstructionKind.passes_unless_array`.
-/

namespace Watch

open Evaluation

/-- The types whose values are references. -/
def TypeTag.isReference : TypeTag → Bool
  | .object | .array | .string => true
  | _ => false

/-- References pass from each reference type to each other, but for arrays as strings. -/
theorem Value.convertTo_of_isReference {value : Value} {target : TypeTag}
    (reference : value.isReference = true) (referenceToo : target.isReference = true) :
    value.convertTo target =
      if value.tag = .array ∧ target = .string then .error (.coercion "string" "array")
      else .ok value := by
  cases value with
  | null | string text | object id typeName | array id element length =>
      cases target with
      | object | array | string => rfl
      | _ => contradiction
  | _ => contradiction

namespace InstructionKind

theorem execute_cast (operand : Operand) (target : TypeTag) (size place : Nat)
    (rest : List Operand) (room : Nat) :
    (cast target).execute size place ⟨operand :: rest, room⟩ =
      thenNext (place + 1) (lift (operand.value.convertTo target) >>= pushValue)
        ⟨rest, room + 1⟩ :=
  rfl

theorem execute_assign (operand : Operand) (target : TypeTag) (location : Location) (old : Value)
    (size place : Nat) (rest : List Operand) (room : Nat) :
    (assign target).execute size place ⟨operand :: .slot location old :: rest, room⟩ =
      thenNext (place + 1) (lift (operand.value.convertTo target) >>= fun value =>
        storeAndPush location value value) ⟨rest, room + 2⟩ :=
  rfl

/--
What becomes of a reference that is cast or assigned to a reference type. Unless it is an array and
the type is `string`, it is converted to itself, the cast leaves it on the stack, and the assignment
stores it and leaves it there. An array does not become a string: the conversion fails, and with it
the cast and the assignment, without a call.
-/
theorem passes_unless_array (operand : Operand) (target : TypeTag)
    (reference : operand.value.isReference = true) (referenceToo : target.isReference = true)
    (location : Location) (old : Value) (size place : Nat) (rest : List Operand) (room : Nat) :
    let value := operand.value
    let casted := (cast target).execute size place ⟨operand :: rest, room⟩
    let assigned :=
      (assign target).execute size place ⟨operand :: .slot location old :: rest, room⟩
    let refusal : EvaluationError := .coercion "string" "array"
    (¬(value.tag = .array ∧ target = .string) →
      value.convertTo target = .ok value ∧
        casted = .done (.ok (place + 1), ⟨.plain value :: rest, room⟩) ∧
        assigned = thenNext (place + 1) (storeAndPush location value value) ⟨rest, room + 2⟩) ∧
      (value.tag = .array ∧ target = .string →
        value.convertTo target = .error refusal ∧
          casted = .done (.error refusal, ⟨rest, room + 1⟩) ∧
          assigned = .done (.error refusal, ⟨rest, room + 2⟩)) := by
  intro value casted assigned refusal
  have converted := Value.convertTo_of_isReference reference referenceToo
  have castedEq := execute_cast operand target size place rest room
  have assignedEq := execute_assign operand target location old size place rest room
  constructor
  · intro passes
    rw [if_neg passes] at converted
    rw [converted] at castedEq assignedEq
    exact ⟨converted, castedEq, assignedEq⟩
  · intro refused
    rw [if_pos refused] at converted
    rw [converted] at castedEq assignedEq
    exact ⟨converted, castedEq, assignedEq⟩

/-- A cast of an array to a string fails, where a cast of an object leaves the object. -/
theorem passes_unless_array_string :
    let array : Operand := .plain (.array 2 .int 3)
    let object : Operand := .plain (.object 1 "Point")
    array.value.isReference = true ∧ object.value.isReference = true ∧
      TypeTag.string.isReference = true ∧
      (cast .string).execute 2 1 ⟨[array], 0⟩ =
        .done (.error (.coercion "string" "array"), ⟨[], 1⟩) ∧
      (cast .string).execute 2 1 ⟨[object], 0⟩ = .done (.ok 2, ⟨[object], 0⟩) := by
  intro array object
  rcases passes_unless_array array .string rfl rfl .this .null 2 1 [] 0 with ⟨-, refuses⟩
  rcases passes_unless_array object .string rfl rfl .this .null 2 1 [] 0 with ⟨passes, -⟩
  exact ⟨rfl, rfl, rfl, (refuses ⟨rfl, rfl⟩).2.1, (passes (by decide)).2.1⟩

end InstructionKind

end Watch
