import Watch.Proofs.Evaluation.Exchanges

/-!
# What an instruction that fails has stored

A store that was carried out is not taken back, so what an instruction that fails leaves behind
depends on what can fail after its store. An assignment converts its value before the store and only
puts it on the stack behind it, and the operands that it has taken left room for that
(`Evaluation.Frees`): it fails before it stores, or not at all (`Evaluation.Atomic`). This holds of
every instruction but the updates (`InstructionKind.atomic_execute`).

An update stores the new number and converts the value that it shows only then. If the type of its
result does not take that value, it fails with the new number in place
(`TypedUnary.executeUpdate_slot`).
-/

namespace Watch

/-- Whether an exchange is a store that was carried out. -/
def Exchange.isCommit (exchange : Exchange) : Bool :=
  exchange.call.isStore && exchange.answer.isOk

theorem Exchange.isCommit_eq_false {exchange : Exchange}
    (noStore : exchange.call.isStore = false) : exchange.isCommit = false := by
  simp [isCommit, noStore]

namespace Evaluation

variable {Result Next : Type} {evaluation : Evaluation Result} {next : Result → Evaluation Next}

/-! ## Room -/

/-- Evaluations that store nothing and, if they succeed, leave room for some more operands. -/
structure Frees (count : Nat) (evaluation : Evaluation Result) : Prop where
  storeless : evaluation.Storeless
  room_le : ∀ {stack after : Stack} {exchanges : List Exchange} {result : Result},
    (evaluation stack).Reaches exchanges (.ok result, after) → stack.room + count ≤ after.room

theorem Frees.bind {count more : Nat} (first : evaluation.Frees count)
    (rest : ∀ result, (next result).Frees more) : (evaluation >>= next).Frees (count + more) where
  storeless := .bind first.storeless fun result => (rest result).storeless
  room_le := by
    intro stack after exchanges result reaches
    rcases reaches_bind reaches with ⟨error, ⟨⟩, _⟩ | ⟨found, middle, earlier, later, before,
      behind, rfl⟩
    have roomBefore := first.room_le before
    have roomBehind := (rest found).room_le behind
    omega

theorem frees_lift (result : Except EvaluationError Result) : (lift result).Frees 0 where
  storeless := .lift result
  room_le := by
    intro stack after exchanges result reaches
    simp [(reaches_lift reaches).2.2]

theorem frees_invoke (operation : TargetOperation) (operands : List Value) :
    (invoke operation operands).Frees 0 where
  storeless := .ask rfl
  room_le := by
    intro stack after exchanges result reaches
    simp [(reaches_ask reaches).2]

theorem Steady.frees (steady : evaluation.Steady) : evaluation.Frees 0 := by
  induction steady with
  | lift result => exact frees_lift result
  | invoke operation operands => exact frees_invoke operation operands
  | bind first rest ihFirst ihRest => exact ihFirst.bind ihRest

theorem frees_pop : pop.Frees 1 where
  storeless := .pop
  room_le := by
    intro stack after exchanges operand reaches
    rcases stack with ⟨_ | ⟨top, operands⟩, room⟩
    · cases reaches
    · cases reaches
      exact Nat.le_refl _

theorem frees_popValue : popValue.Frees 1 :=
  frees_pop.bind fun operand => (Steady.pure operand.value).frees

theorem frees_popSlot : popSlot.Frees 1 := by
  have freed : popSlot.Frees (1 + 0) := by
    refine frees_pop.bind fun operand => ?_
    cases operand with
    | plain value => exact frees_lift _
    | slot location value => exact frees_lift _
  exact freed

/-! ## Failing before the store -/

/-- Evaluations that, given room for some operands, have stored nothing when they fail. -/
def Atomic (room : Nat) (evaluation : Evaluation Result) : Prop :=
  ∀ {stack after : Stack} {exchanges : List Exchange} {error : EvaluationError},
    room ≤ stack.room → (evaluation stack).Reaches exchanges (.error error, after) →
      ∀ exchange ∈ exchanges, exchange.isCommit = false

theorem Storeless.atomic {room : Nat} (storeless : evaluation.Storeless) :
    evaluation.Atomic room := by
  intro stack after exchanges error _ reaches exchange member
  exact Exchange.isCommit_eq_false (storeless.allowed_of_reaches reaches exchange member)

/-- What is freed first is there for what follows. -/
theorem Frees.atomic_bind {count room : Nat} (frees : evaluation.Frees count)
    (rest : ∀ result, (next result).Atomic (room + count)) : (evaluation >>= next).Atomic room := by
  intro stack after exchanges error enough reaches exchange member
  rcases reaches_bind reaches with ⟨error, ⟨⟩, failed⟩ | ⟨result, middle, earlier, later, before,
    behind, rfl⟩
  · exact frees.storeless.atomic enough failed exchange member
  · have freed := frees.room_le before
    rcases List.mem_append.1 member with inLater | inEarlier
    · exact rest result (by omega) behind exchange inLater
    · have noStore := frees.storeless.allowed_of_reaches before exchange inEarlier
      exact Exchange.isCommit_eq_false noStore

/-- With room for one operand, putting the value on the stack after the store does not fail. -/
theorem atomic_store {room : Nat} (positive : 0 < room) (location : Location) (value : Value) :
    (store location value >>= fun _ => pushValue value).Atomic room := by
  intro stack after exchanges error enough reaches exchange member
  rcases reaches_bind reaches with ⟨error, ⟨⟩, failed⟩ | ⟨done, middle, earlier, later, before,
    behind, rfl⟩
  · rcases reaches_ask failed with ⟨rfl, rfl⟩
    rcases List.mem_singleton.1 member with rfl
    rfl
  · rcases reaches_ask before with ⟨rfl, rfl⟩
    rcases middle with ⟨operands, _ | room⟩
    · simp at enough
      omega
    · cases behind

end Evaluation

open Evaluation

theorem TypedBinary.atomic_execute (operator : TypedBinary) : operator.execute.Atomic 0 := by
  cases assigns : operator.assigns with
  | true =>
      rw [execute]
      simp only [assigns, if_true]
      refine frees_popValue.atomic_bind fun right => frees_popSlot.atomic_bind fun slot => ?_
      refine (operator.steady_valueOf slot.2 right).frees.atomic_bind fun value => ?_
      exact atomic_store (by decide) slot.1 value
  | false => exact (inert_execute assigns).storeless.atomic

namespace TypedUnary

/-- What an update stores over an old number. -/
def updated (operator : TypedUnary) (old : Value) : Except EvaluationError Value :=
  (operator.neighbour old).bind fun stepped => stepped.convertTo operator.operand

/-- What an update from one number to another has for its value. -/
def shown (operator : TypedUnary) (old new : Value) : Except EvaluationError Value :=
  (if operator.operation.isPrefixForm then new else old).convertTo operator.result

/-- An update of the slot on top: nothing but the store stands between its two conversions. -/
theorem executeUpdate_slot (operator : TypedUnary) (location : Location) (old : Value)
    (rest : List Operand) (room : Nat) :
    operator.executeUpdate ⟨.slot location old :: rest, room⟩ =
      match operator.updated old with
      | .error error => .done (.error error, ⟨rest, room + 1⟩)
      | .ok new => .ask (.store location new) fun
        | .error error => .done (.error error, ⟨rest, room + 1⟩)
        | .ok () =>
          match operator.shown old new with
          | .error error => .done (.error error, ⟨rest, room + 1⟩)
          | .ok value => .done (.ok (), ⟨.plain value :: rest, room⟩) := by
  -- The slot has been taken; what is left is decided one conversion after the other.
  rw [updated]
  change (lift (operator.neighbour old) >>= fun stepped => _) _ = _
  cases operator.neighbour old with
  | error error => rfl
  | ok stepped =>
      change (lift (stepped.convertTo operator.operand) >>= fun new => _) _ =
        match stepped.convertTo operator.operand with | .error error => _ | .ok new => _
      cases stepped.convertTo operator.operand with
      | error error => rfl
      | ok new =>
          refine congrArg (Action.ask (.store location new)) (funext fun answer => ?_)
          cases answer with
          | error error => rfl
          | ok done =>
              change (lift (operator.shown old new) >>= fun value => pushValue value) _ =
                match operator.shown old new with | .error error => _ | .ok value => _
              cases operator.shown old new <;> rfl

end TypedUnary

namespace InstructionKind

theorem atomic_thenNext {room : Nat} {evaluation : Evaluation Unit}
    (atomic : evaluation.Atomic room) (next : Nat) : (thenNext next evaluation).Atomic room := by
  intro stack after exchanges error enough reaches
  rcases reaches_bind reaches with ⟨error, ⟨⟩, failed⟩ | ⟨done, middle, earlier, later, before,
    behind, rfl⟩
  · exact atomic enough failed
  · cases behind

theorem atomic_assignTo (result : TypeTag) : (assignTo result).Atomic 0 := by
  refine frees_popValue.atomic_bind fun operand => frees_popSlot.atomic_bind fun slot => ?_
  refine (frees_lift _).atomic_bind fun value => ?_
  exact atomic_store (by decide) slot.1 value

/-- Whether an instruction is an update. -/
def isUpdate : InstructionKind → Bool
  | .unary operator => operator.operation.isUpdate
  | _ => false

/-- An instruction that fails has stored nothing, unless it is an update. -/
theorem atomic_execute {kind : InstructionKind} (updatesNot : kind.isUpdate = false)
    (length place : Nat) : (kind.execute length place).Atomic 0 := by
  cases kind.form length place with
  | look isLook looks executeEq =>
      rw [executeEq]
      exact atomic_thenNext looks.storeless.atomic _
  | change isChange changes executeEq =>
      cases kind with
      | binary operator => exact atomic_thenNext operator.atomic_execute _
      | assign result => exact atomic_thenNext (atomic_assignTo result) _
      | unary operator => exact Bool.noConfusion (isChange.symm.trans updatesNot)
      | _ => contradiction
  | other isNoLook inert => exact inert.storeless.atomic

end InstructionKind

end Watch
