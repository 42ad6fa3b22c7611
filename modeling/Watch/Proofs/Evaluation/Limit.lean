import Watch.Proofs.Evaluation.Performance

/-!
# The depth limit of the operand stack

An evaluation is a tree with one result for every way in which the suspended program may answer its
calls. `Action.Always` says that a property holds of all of these results, and `Evaluation.Yields`
that an evaluation keeps the limit of the stack, wherever it ends, and that the results it reaches
without an error satisfy a predicate.

The limit of the stack is kept by every part that evaluations are composed of
(`Evaluation.Composed.keepsLimit`); which place comes next is decided at the end of an instruction
(`Evaluation.Returns`), and is the one behind it or the one it jumps to
(`InstructionKind.returns_leadsTo`). The main statement is `InstructionKind.yields_execute`: at a
place inside the program every instruction keeps the limit of the stack and names a place inside the
program, or its end, as the next one. Nothing is assumed about the answers, which may be errors.
-/

namespace Watch

namespace Action

variable {Result Next : Type}

/-- Whatever the calls of an action are answered with, its result satisfies a predicate. -/
def Always (good : Result → Prop) : Action Result → Prop
  | .done result => good result
  | .ask _ next => ∀ answer, (next answer).Always good

theorem Always.bind {good : Result → Prop} {better : Next → Prop} {action : Action Result}
    {next : Result → Action Next} (first : action.Always good)
    (rest : ∀ result, good result → (next result).Always better) :
    (action.bind next).Always better := by
  induction action with
  | done result => exact rest result first
  | ask call after ih =>
      intro answer
      exact ih answer (first answer)

theorem always_of_forall {good : Result → Prop} (isGood : ∀ result, good result)
    (action : Action Result) : action.Always good := by
  induction action with
  | done result => exact isGood result
  | ask call next ih => exact fun answer => ih answer

theorem Always.combine {good better best : Result → Prop} {action : Action Result}
    (first : action.Always good) (second : action.Always better)
    (both : ∀ result, good result → better result → best result) : action.Always best := by
  induction action with
  | done result => exact both result first second
  | ask call next ih => exact fun answer => ih answer (first answer) (second answer)

theorem Always.mono {good better : Result → Prop} {action : Action Result}
    (always : action.Always good) (weaker : ∀ result, good result → better result) :
    action.Always better :=
  always.combine always fun result isGood _ => weaker result isGood

/-- A target picks one of the results of an action. -/
theorem Always.perform {State : Type} {good : Result → Prop} {action : Action Result}
    (always : action.Always good) (target : Target State) (state : State) :
    good (action.perform target state).1 := by
  induction action generalizing state with
  | done result => exact always
  | ask call next ih => exact ih _ (always _) _

end Action

namespace Stack

theorem limit_push {stack after : Stack} {operand : Operand}
    (pushed : stack.push operand = .ok after) : after.limit = stack.limit := by
  rw [push] at pushed
  split at pushed
  · contradiction
  · next room roomEq =>
    cases pushed
    simp only [limit, depth, List.length_cons, roomEq]
    omega

theorem limit_pop {stack after : Stack} {operand : Operand}
    (popped : stack.pop = .ok (operand, after)) : after.limit = stack.limit := by
  rw [pop] at popped
  split at popped
  · contradiction
  · next head tail operandsEq =>
    cases popped
    simp only [limit, depth, operandsEq, List.length_cons]
    omega

theorem limit_popMany {stack after : Stack} {count : Nat} {operands : List Operand}
    (popped : stack.popMany count = .ok (operands, after)) : after.limit = stack.limit := by
  rw [popMany] at popped
  split at popped
  · next enough =>
    cases popped
    simp only [depth] at enough
    simp only [limit, depth, List.length_drop]
    omega
  · contradiction

end Stack

namespace Evaluation

variable {Result Next : Type}

/--
Wherever an evaluation ends, it has kept the limit of the stack, and a result that it reaches
satisfies a predicate.
-/
def Yields (good : Result → Prop) (evaluation : Evaluation Result) : Prop :=
  ∀ stack, (evaluation stack).Always fun outcome =>
    outcome.2.limit = stack.limit ∧ ∀ result, outcome.1 = .ok result → good result

/-- Wherever an evaluation ends, it has kept the limit of the stack. -/
abbrev KeepsLimit (evaluation : Evaluation Result) : Prop :=
  evaluation.Yields fun _ => True

theorem Yields.bind {good : Result → Prop} {better : Next → Prop}
    {evaluation : Evaluation Result} {next : Result → Evaluation Next}
    (first : evaluation.Yields good) (rest : ∀ result, good result → (next result).Yields better) :
    (evaluation >>= next).Yields better := by
  intro stack
  apply (first stack).bind
  rintro ⟨outcome, after⟩ ⟨limitEq, isGood⟩
  cases outcome with
  | error error => exact ⟨limitEq, by simp⟩
  | ok result =>
      have kept := rest result (isGood result rfl) after
      rw [show after.limit = stack.limit from limitEq] at kept
      exact kept

theorem keepsLimit_lift (result : Except EvaluationError Result) : (lift result).KeepsLimit :=
  fun _ => ⟨rfl, fun _ _ => trivial⟩

theorem keepsLimit_ask (call : Call) : (ask call).KeepsLimit :=
  fun _ _ => ⟨rfl, fun _ _ => trivial⟩

theorem keepsLimit_push (operand : Operand) : (push operand).KeepsLimit := by
  intro stack
  rw [push]
  split
  · next after pushed => exact ⟨Stack.limit_push pushed, fun _ _ => trivial⟩
  · exact ⟨rfl, fun _ _ => trivial⟩

theorem keepsLimit_pop : pop.KeepsLimit := by
  intro stack
  rw [pop]
  split
  · next operand after popped => exact ⟨Stack.limit_pop popped, fun _ _ => trivial⟩
  · exact ⟨rfl, fun _ _ => trivial⟩

theorem keepsLimit_popValues (count : Nat) : (popValues count).KeepsLimit := by
  intro stack
  rw [popValues]
  split
  · next operands after popped => exact ⟨Stack.limit_popMany popped, fun _ _ => trivial⟩
  · exact ⟨rfl, fun _ _ => trivial⟩

/-- What is composed of parts keeps the limit of the stack. -/
theorem Composed.keepsLimit {allowed : Call → Prop} {evaluation : Evaluation Result}
    (composed : evaluation.Composed allowed) : evaluation.KeepsLimit := by
  induction composed with
  | lift result => exact keepsLimit_lift result
  | ask isAllowed => exact keepsLimit_ask _
  | pushValue value => exact keepsLimit_push _
  | pushSlot isAllowed => exact (keepsLimit_ask _).bind fun _ _ => keepsLimit_push _
  | pop => exact keepsLimit_pop
  | popValues count => exact keepsLimit_popValues count
  | bind first rest ihFirst ihRest => exact ihFirst.bind fun result _ => ihRest result

/-- The results that an evaluation reaches satisfy a predicate. -/
def Returns (good : Result → Prop) (evaluation : Evaluation Result) : Prop :=
  ∀ stack, (evaluation stack).Always fun outcome => ∀ result, outcome.1 = .ok result → good result

theorem Returns.bind {good : Result → Prop} {better : Next → Prop} {evaluation : Evaluation Result}
    {next : Result → Evaluation Next} (first : evaluation.Returns good)
    (rest : ∀ result, good result → (next result).Returns better) :
    (evaluation >>= next).Returns better := by
  intro stack
  apply (first stack).bind
  rintro ⟨outcome, after⟩ isGood
  cases outcome with
  | error error =>
      intro result isOk
      cases isOk
  | ok result => exact rest result (isGood result rfl) after

theorem Returns.of_perform {State : Type} {target : Target State} {state final : State}
    {good : Result → Prop} {evaluation : Evaluation Result} {stack after : Stack} {result : Result}
    (returns : evaluation.Returns good)
    (performed : (evaluation stack).perform target state = ((.ok result, after), final)) :
    good result := by
  have isGood := (returns stack).perform target state
  rw [performed] at isGood
  exact isGood result rfl

theorem returns_any (evaluation : Evaluation Result) : evaluation.Returns fun _ => True :=
  fun _ => Action.always_of_forall (fun _ _ _ => trivial) _

/-- What comes last decides the result. -/
theorem returns_bind {good : Next → Prop} {evaluation : Evaluation Result}
    {next : Result → Evaluation Next} (rest : ∀ result, (next result).Returns good) :
    (evaluation >>= next).Returns good :=
  (returns_any evaluation).bind fun result _ => rest result

theorem returns_lift {good : Result → Prop} {result : Except EvaluationError Result}
    (isGood : ∀ value, result = .ok value → good value) : (lift result).Returns good :=
  fun _ => isGood

theorem returns_pure {good : Result → Prop} {result : Result} (isGood : good result) :
    (Pure.pure result : Evaluation Result).Returns good := by
  apply returns_lift
  rintro value ⟨⟩
  exact isGood

end Evaluation

open Evaluation

namespace InstructionKind

/-- The place that an instruction may jump to. -/
def target? : InstructionKind → Option UInt64
  | .jump target | .jumpIf _ target | .shortCircuit _ target => some target
  | _ => none

/-- The places at which a program may go on after an instruction: the next one, or a jump's. -/
def LeadsTo (kind : InstructionKind) (length place next : Nat) : Prop :=
  next = place + 1 ∨ ∃ target ∈ kind.target?, target.toNat ≤ length ∧ next = target.toNat

theorem jumpTo_eq_ok_iff {target : UInt64} {length next : Nat} :
    jumpTo target length = .ok next ↔ target.toNat ≤ length ∧ next = target.toNat := by
  rw [jumpTo]
  split
  · next within => simp [within, eq_comm]
  · next outside => simp [outside]

section Jumps

variable {good : Nat → Prop} {target : UInt64} {length next : Nat}
  (jumps : ∀ place, jumpTo target length = .ok place → good place)
include jumps

theorem returns_branch (truth : Bool) (isNext : good next) :
    (branch truth target length next).Returns good := by
  refine returns_bind fun operand => returns_bind fun decision => ?_
  split
  · exact returns_lift jumps
  · exact returns_pure isNext

theorem returns_skipRight (connective : Connective) (isNext : good next) :
    (skipRight connective target length next).Returns good := by
  refine returns_bind fun left => returns_bind fun decision => ?_
  split
  · exact returns_bind fun _ => returns_lift jumps
  · exact returns_bind fun _ => returns_pure isNext

end Jumps

/-- An instruction goes on at the next place, or where it jumps to. -/
theorem returns_leadsTo (kind : InstructionKind) (length place : Nat) :
    (kind.execute length place).Returns (kind.LeadsTo length place) := by
  have jumps : ∀ target ∈ kind.target?, ∀ next, jumpTo target length = .ok next →
      kind.LeadsTo length place next :=
    fun target isTarget next jumped => .inr ⟨target, isTarget, jumpTo_eq_ok_iff.1 jumped⟩
  cases kind with
  | jump target => exact returns_lift (jumps target rfl)
  | jumpIf truth target => exact returns_branch (jumps target rfl) truth (.inl rfl)
  | shortCircuit connective target =>
      exact returns_skipRight (jumps target rfl) connective (.inl rfl)
  | noop => exact returns_pure (.inl rfl)
  | _ => exact returns_bind fun _ => returns_pure (.inl rfl)

/-- Inside a program, an instruction goes on at a place of the program or at its end. -/
theorem LeadsTo.le {kind : InstructionKind} {length place next : Nat}
    (leads : kind.LeadsTo length place next) (inside : place < length) : next ≤ length := by
  rcases leads with rfl | ⟨target, -, within, rfl⟩
  · exact inside
  · exact within

/--
Inside a program, an instruction keeps the limit of the stack and goes on at a place of the program
or at its end.
-/
theorem yields_execute (kind : InstructionKind) {length place : Nat} (inside : place < length) :
    (kind.execute length place).Yields (· ≤ length) := by
  intro stack
  have kept := (kind.composed_execute length place).keepsLimit stack
  apply kept.combine (kind.returns_leadsTo length place stack)
  rintro outcome ⟨limitEq, -⟩ leads
  exact ⟨limitEq, fun next isNext => (leads next isNext).le inside⟩

end InstructionKind

end Watch
