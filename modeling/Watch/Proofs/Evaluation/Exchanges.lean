import Watch.Proofs.Evaluation.Composition
import Watch.Target.Journal

/-!
# The exchanges of an instruction

An evaluation is a tree of calls, and an answer to each call picks a branch. `Action.Reaches`
follows the branches: an action can reach a result by some exchanges, which are listed with the
latest first, as a journal lists them.

Every way through an instruction gives an account of its slots and its calls
(`InstructionKind.accounted_execute`): a slot was on the stack already or was fetched by the
instruction, and a store is the last call and goes to the location of a slot that was on the stack.
Only an instruction that looks at a location fetches (`InstructionKind.isFetch_execute`).
-/

namespace Watch

namespace Call

/-- Whether a call fetches the value of a location. -/
def isFetch : Call → Bool
  | .fetch _ => true
  | .store .. | .invoke .. => false

/-- Whether a call stores a value into a location. -/
def isStore : Call → Bool
  | .store .. => true
  | .fetch _ | .invoke .. => false

end Call

namespace Action

variable {Result Next State : Type}

/-- An action can reach a result by some exchanges, the latest first. -/
inductive Reaches : Action Result → List Exchange → Result → Prop where
  | done (result : Result) : Reaches (.done result) [] result
  | ask {call : Call} {next : call.Answer → Action Result} (answer : call.Answer)
      {exchanges : List Exchange} {result : Result}
      (rest : Reaches (next answer) exchanges result) :
      Reaches (.ask call next) (exchanges ++ [⟨call, answer⟩]) result

theorem Reaches.of_bind {action : Action Result} {next : Result → Action Next}
    {exchanges : List Exchange} {result : Next}
    (reaches : (action.bind next).Reaches exchanges result) :
    ∃ middle earlier later, action.Reaches earlier middle ∧ (next middle).Reaches later result ∧
      exchanges = later ++ earlier := by
  induction action generalizing exchanges with
  | done middle => exact ⟨middle, [], exchanges, .done middle, reaches, (List.append_nil _).symm⟩
  | ask call after ih =>
      cases reaches with
      | ask answer rest =>
          rcases ih answer rest with ⟨middle, earlier, later, first, second, rfl⟩
          exact ⟨middle, earlier ++ [⟨call, answer⟩], later, .ask answer first, second,
            List.append_assoc _ _ _⟩

end Action

namespace Stack

theorem operands_push {stack after : Stack} {operand : Operand}
    (pushed : stack.push operand = .ok after) : after.operands = operand :: stack.operands := by
  rw [push] at pushed
  split at pushed
  · contradiction
  · cases pushed
    rfl

theorem operands_pop {stack after : Stack} {operand : Operand}
    (popped : stack.pop = .ok (operand, after)) : stack.operands = operand :: after.operands := by
  rw [pop] at popped
  split at popped
  · contradiction
  · next head tail operandsEq =>
    cases popped
    exact operandsEq

theorem operands_popMany {stack after : Stack} {count : Nat} {operands : List Operand}
    (popped : stack.popMany count = .ok (operands, after)) :
    after.operands = stack.operands.drop count := by
  rw [popMany] at popped
  split at popped
  · cases popped
    rfl
  · contradiction

/-- Every slot that a stack has afterwards was there before. -/
def KeepsSlots (stack after : Stack) : Prop :=
  ∀ location value, .slot location value ∈ after.operands → .slot location value ∈ stack.operands

/-- Whether a stack has a slot with a location. -/
def Holds (stack : Stack) (location : Location) : Prop :=
  ∃ value, .slot location value ∈ stack.operands

namespace KeepsSlots

theorem refl (stack : Stack) : stack.KeepsSlots stack :=
  fun _ _ member => member

theorem trans {stack middle after : Stack} (first : stack.KeepsSlots middle)
    (second : middle.KeepsSlots after) : stack.KeepsSlots after :=
  fun location value member => first location value (second location value member)

end KeepsSlots

end Stack

namespace Evaluation

variable {Result Next : Type} {stack after : Stack} {exchanges : List Exchange}

/-- A way through an evaluation that goes on: up to an error, or to a result and on from there. -/
theorem reaches_bind {evaluation : Evaluation Result} {next : Result → Evaluation Next}
    {outcome : Except EvaluationError Next}
    (reaches : ((evaluation >>= next) stack).Reaches exchanges (outcome, after)) :
    (∃ error, outcome = .error error ∧
      (evaluation stack).Reaches exchanges (.error error, after)) ∨
    ∃ result middle earlier later, (evaluation stack).Reaches earlier (.ok result, middle) ∧
      (next result middle).Reaches later (outcome, after) ∧ exchanges = later ++ earlier := by
  rcases Action.Reaches.of_bind reaches with ⟨⟨found, middle⟩, earlier, later, first, second, rfl⟩
  cases found with
  | error error =>
      cases second
      exact .inl ⟨error, rfl, first⟩
  | ok result => exact .inr ⟨result, middle, earlier, later, first, second, rfl⟩

theorem reaches_lift {result outcome : Except EvaluationError Result}
    (reaches : (lift result stack).Reaches exchanges (outcome, after)) :
    exchanges = [] ∧ outcome = result ∧ after = stack := by
  cases reaches
  exact ⟨rfl, rfl, rfl⟩

theorem reaches_ask {call : Call} {outcome : call.Answer}
    (reaches : (ask call stack).Reaches exchanges (outcome, after)) :
    exchanges = [⟨call, outcome⟩] ∧ after = stack := by
  cases reaches with
  | ask answer rest =>
      cases rest
      exact ⟨rfl, rfl⟩

theorem reaches_push {operand : Operand} {outcome : Except EvaluationError Unit}
    (reaches : (push operand stack).Reaches exchanges (outcome, after)) :
    exchanges = [] ∧ (after = stack ∨ after.operands = operand :: stack.operands) := by
  rw [push] at reaches
  split at reaches
  · next pushedStack pushed =>
    cases reaches
    exact ⟨rfl, .inr (Stack.operands_push pushed)⟩
  · cases reaches
    exact ⟨rfl, .inl rfl⟩

/-- Fetching a slot is one call; a slot on top comes from its answer. -/
theorem reaches_pushSlot {location : Location} {outcome : Except EvaluationError Unit}
    (reaches : (pushSlot location stack).Reaches exchanges (outcome, after)) :
    (∃ answer, exchanges = [⟨.fetch location, answer⟩]) ∧
      (after = stack ∨ ∃ value, exchanges = [⟨.fetch location, .ok value⟩] ∧
        after.operands = .slot location value :: stack.operands) := by
  rcases reaches_bind reaches with ⟨error, rfl, first⟩ | ⟨value, middle, _, _, first, second, rfl⟩
  · rcases reaches_ask first with ⟨rfl, rfl⟩
    exact ⟨⟨_, rfl⟩, .inl rfl⟩
  · rcases reaches_ask first with ⟨rfl, rfl⟩
    rcases reaches_push second with ⟨rfl, rfl | pushed⟩
    · exact ⟨⟨_, rfl⟩, .inl rfl⟩
    · exact ⟨⟨_, rfl⟩, .inr ⟨value, rfl, pushed⟩⟩

theorem reaches_pop {outcome : Except EvaluationError Operand}
    (reaches : (pop stack).Reaches exchanges (outcome, after)) :
    exchanges = [] ∧ stack.KeepsSlots after ∧
      ∀ operand, outcome = .ok operand → operand ∈ stack.operands := by
  rw [pop] at reaches
  split at reaches
  · next operand poppedStack popped =>
    cases reaches
    have operandsEq := Stack.operands_pop popped
    refine ⟨rfl, fun location value member => ?_, ?_⟩
    · rw [operandsEq]
      exact List.mem_cons_of_mem _ member
    · rintro _ ⟨⟩
      rw [operandsEq]
      exact List.mem_cons_self
  · cases reaches
    exact ⟨rfl, .refl stack, by rintro _ ⟨⟩⟩

theorem reaches_popValues {count : Nat} {outcome : Except EvaluationError (List Value)}
    (reaches : (popValues count stack).Reaches exchanges (outcome, after)) :
    exchanges = [] ∧ stack.KeepsSlots after := by
  rw [popValues] at reaches
  split at reaches
  · next operands poppedStack popped =>
    cases reaches
    refine ⟨rfl, fun location value member => ?_⟩
    rw [Stack.operands_popMany popped] at member
    exact List.mem_of_mem_drop member
  · cases reaches
    exact ⟨rfl, .refl stack⟩

/-- A slot that was taken was on the stack. -/
theorem reaches_popSlot {outcome : Except EvaluationError (Location × Value)}
    (reaches : (popSlot stack).Reaches exchanges (outcome, after)) :
    exchanges = [] ∧ stack.KeepsSlots after ∧
      ∀ location value, outcome = .ok (location, value) →
        .slot location value ∈ stack.operands := by
  rcases reaches_bind reaches with ⟨error, rfl, first⟩ | ⟨operand, middle, _, _, first, second, rfl⟩
  · rcases reaches_pop first with ⟨rfl, kept, -⟩
    exact ⟨rfl, kept, by rintro _ _ ⟨⟩⟩
  · rcases reaches_pop first with ⟨rfl, kept, member⟩
    cases operand with
    | plain value =>
        rcases reaches_lift second with ⟨rfl, rfl, rfl⟩
        exact ⟨rfl, kept, by rintro _ _ ⟨⟩⟩
    | slot location value =>
        rcases reaches_lift second with ⟨rfl, rfl, rfl⟩
        refine ⟨rfl, kept, ?_⟩
        rintro _ _ ⟨⟩
        exact member _ rfl

namespace Composed

variable {allowed : Call → Prop} {evaluation : Evaluation Result}
  {outcome : Except EvaluationError Result}

/-- The calls of an evaluation satisfy the predicate of the calls that it is composed of. -/
theorem allowed_of_reaches (composed : evaluation.Composed allowed)
    (reaches : (evaluation stack).Reaches exchanges (outcome, after)) :
    ∀ exchange ∈ exchanges, allowed exchange.call := by
  induction composed generalizing stack after exchanges with
  | lift result => simp [(reaches_lift reaches).1]
  | ask isAllowed => simpa [(reaches_ask reaches).1] using isAllowed
  | pushValue value => simp [(reaches_push reaches).1]
  | pushSlot isAllowed =>
      rcases reaches_pushSlot reaches with ⟨⟨answer, rfl⟩, -⟩
      simpa using isAllowed
  | pop => simp [(reaches_pop reaches).1]
  | popValues count => simp [(reaches_popValues reaches).1]
  | bind first rest ihFirst ihRest =>
      rcases reaches_bind reaches with ⟨error, rfl, failed⟩ | ⟨result, middle, earlier, later,
        before, behind, rfl⟩
      · exact ihFirst failed
      · intro exchange member
        rcases List.mem_append.1 member with inLater | inEarlier
        · exact ihRest result behind exchange inLater
        · exact ihFirst before exchange inEarlier

/-- An evaluation that fetches nothing puts no slot on the stack. -/
theorem keepsSlots_of_reaches (composed : evaluation.Composed allowed)
    (noFetch : ∀ location, ¬allowed (.fetch location))
    (reaches : (evaluation stack).Reaches exchanges (outcome, after)) :
    stack.KeepsSlots after := by
  induction composed generalizing stack after exchanges with
  | lift result => exact (reaches_lift reaches).2.2 ▸ .refl _
  | ask isAllowed => exact (reaches_ask reaches).2 ▸ .refl _
  | pushValue value =>
      rcases (reaches_push reaches).2 with rfl | pushed
      · exact .refl _
      · intro location old member
        simpa [pushed] using member
  | pushSlot isAllowed => exact absurd isAllowed (noFetch _)
  | pop => exact (reaches_pop reaches).2.1
  | popValues count => exact (reaches_popValues reaches).2
  | bind first rest ihFirst ihRest =>
      rcases reaches_bind reaches with ⟨error, rfl, failed⟩ | ⟨result, middle, earlier, later,
        before, behind, rfl⟩
      · exact ihFirst failed
      · exact (ihFirst before).trans (ihRest result behind)

end Composed

theorem Silent.exchanges_eq_nil {evaluation : Evaluation Result}
    {outcome : Except EvaluationError Result} (silent : evaluation.Silent)
    (reaches : (evaluation stack).Reaches exchanges (outcome, after)) : exchanges = [] :=
  List.eq_nil_iff_forall_not_mem.2 (silent.allowed_of_reaches reaches)

theorem Silent.keepsSlots {evaluation : Evaluation Result}
    {outcome : Except EvaluationError Result} (silent : evaluation.Silent)
    (reaches : (evaluation stack).Reaches exchanges (outcome, after)) : stack.KeepsSlots after :=
  silent.keepsSlots_of_reaches (fun _ => id) reaches

theorem Inert.keepsSlots {evaluation : Evaluation Result}
    {outcome : Except EvaluationError Result} (inert : evaluation.Inert)
    (reaches : (evaluation stack).Reaches exchanges (outcome, after)) : stack.KeepsSlots after :=
  inert.keepsSlots_of_reaches (by simp [Call.isInvoke]) reaches

/-- Evaluations that store nothing. -/
abbrev Storeless (evaluation : Evaluation Result) : Prop :=
  evaluation.Composed fun call => call.isStore = false

theorem Inert.storeless {evaluation : Evaluation Result} (inert : evaluation.Inert) :
    evaluation.Storeless := by
  refine inert.mono fun call isInvoke => ?_
  cases call with
  | invoke operation operands => rfl
  | _ => simp [Call.isInvoke] at isInvoke

theorem Looks.storeless {evaluation : Evaluation Unit} (looks : Looks evaluation) :
    evaluation.Storeless := by
  induction looks with
  | slot notThis => exact .pushSlot rfl
  | receiver => exact .bind (.ask rfl) fun receiver => .pushValue receiver
  | fail error => exact .fail error
  | after silent rest ih => exact .bind silent.inert.storeless ih

theorem Inert.isStore_eq_false {evaluation : Evaluation Result}
    {outcome : Except EvaluationError Result} (inert : evaluation.Inert)
    (reaches : (evaluation stack).Reaches exchanges (outcome, after)) :
    ∀ exchange ∈ exchanges, exchange.call.isStore = false :=
  inert.storeless.allowed_of_reaches reaches

/-! ## Accounts -/

/--
An account of the slots and calls between two stacks: a slot was there before or was fetched, the
receiver is in no slot that was fetched, and the last call may store into one of some locations.
-/
structure Accounted (stored : Location → Prop) (stack : Stack) (exchanges : List Exchange)
    (after : Stack) : Prop where
  slots : ∀ location value, .slot location value ∈ after.operands →
    .slot location value ∈ stack.operands ∨
      location ≠ .this ∧ ⟨.fetch location, .ok value⟩ ∈ exchanges
  stores : ∀ exchange ∈ exchanges, ∀ location value, exchange.call = .store location value →
    stored location
  storeLast : ∀ exchange ∈ exchanges.tail, exchange.call.isStore = false

namespace Accounted

variable {stored : Location → Prop} {middle : Stack} {earlier later : List Exchange}

theorem mono {more : Location → Prop} (accounted : Accounted stored stack exchanges after)
    (weaker : ∀ location, stored location → more location) :
    Accounted more stack exchanges after :=
  { accounted with
    stores := fun exchange member location value callEq =>
      weaker location (accounted.stores exchange member location value callEq) }

theorem of_noStore (kept : stack.KeepsSlots after)
    (noStore : ∀ exchange ∈ exchanges, exchange.call.isStore = false) :
    Accounted stored stack exchanges after where
  slots := fun location value member => .inl (kept location value member)
  stores := by
    intro exchange member location value callEq
    simpa [callEq, Call.isStore] using noStore exchange member
  storeLast := fun exchange member => noStore exchange (List.mem_of_mem_tail member)

theorem of_inert {evaluation : Evaluation Result} {outcome : Except EvaluationError Result}
    (inert : evaluation.Inert) (reaches : (evaluation stack).Reaches exchanges (outcome, after)) :
    Accounted stored stack exchanges after :=
  of_noStore (inert.keepsSlots reaches) (inert.isStore_eq_false reaches)

/-- An account of what follows inert exchanges is an account of all. -/
theorem append (accounted : Accounted stored middle later after) (kept : stack.KeepsSlots middle)
    (noStore : ∀ exchange ∈ earlier, exchange.call.isStore = false) :
    Accounted stored stack (later ++ earlier) after where
  slots := by
    intro location value member
    rcases accounted.slots location value member with before | ⟨notThis, fetched⟩
    · exact .inl (kept location value before)
    · exact .inr ⟨notThis, List.mem_append_left _ fetched⟩
  stores := by
    intro exchange member location value callEq
    rcases List.mem_append.1 member with inLater | inEarlier
    · exact accounted.stores exchange inLater location value callEq
    · simpa [callEq, Call.isStore] using noStore exchange inEarlier
  storeLast := by
    intro exchange member
    cases later with
    | nil => exact noStore exchange (List.mem_of_mem_tail member)
    | cons last rest =>
        rcases List.mem_append.1 member with inRest | inEarlier
        · exact accounted.storeLast exchange inRest
        · exact noStore exchange inEarlier

theorem of_store {location : Location} {value : Value}
    {answer : (Call.store location value).Answer} (kept : stack.KeepsSlots after) :
    Accounted (· = location) stack [⟨.store location value, answer⟩] after where
  slots := fun location value member => .inl (kept location value member)
  stores := by
    intro exchange member other value callEq
    cases List.mem_singleton.1 member
    cases callEq
    rfl
  storeLast := by
    intro exchange member
    cases member

/-- What follows inert exchanges decides the account. -/
theorem of_inert_bind {evaluation : Evaluation Result} {next : Result → Evaluation Next}
    {outcome : Except EvaluationError Next} (inert : evaluation.Inert)
    (reaches : ((evaluation >>= next) stack).Reaches exchanges (outcome, after))
    (rest : ∀ result middle later, stack.KeepsSlots middle →
      (next result middle).Reaches later (outcome, after) → Accounted stored middle later after) :
    Accounted stored stack exchanges after := by
  rcases reaches_bind reaches with ⟨error, rfl, first⟩ | ⟨result, middle, _, later, first, second,
    rfl⟩
  · exact .of_inert inert first
  · have kept := inert.keepsSlots first
    exact (rest result middle later kept second).append kept (inert.isStore_eq_false first)

end Accounted

theorem Looks.accounted {stored : Location → Prop} {evaluation : Evaluation Unit}
    {outcome : Except EvaluationError Unit} (looks : Looks evaluation)
    (reaches : (evaluation stack).Reaches exchanges (outcome, after)) :
    Accounted stored stack exchanges after := by
  induction looks generalizing stack exchanges with
  | slot notThis =>
      rcases reaches_pushSlot reaches with ⟨⟨answer, rfl⟩, rfl | ⟨value, exchangesEq, pushed⟩⟩
      · exact .of_noStore (.refl after) (by simp [Call.isStore])
      · refine { Accounted.of_noStore (.refl stack) (by simp [Call.isStore]) with slots := ?_ }
        intro location old member
        rw [pushed] at member
        rcases List.mem_cons.1 member with same | before
        · cases same
          exact .inr ⟨notThis, exchangesEq ▸ List.mem_singleton_self _⟩
        · exact .inl before
  | receiver =>
      rcases reaches_bind reaches with ⟨error, rfl, first⟩ | ⟨value, middle, _, _, first, second,
        rfl⟩
      · rcases reaches_ask first with ⟨rfl, rfl⟩
        exact .of_noStore (.refl after) (by simp [Call.isStore])
      · rcases reaches_ask first with ⟨rfl, rfl⟩
        have kept := Silent.keepsSlots (.pushValue value) second
        rw [Silent.exchanges_eq_nil (.pushValue value) second]
        exact .of_noStore kept (by simp [Call.isStore])
  | fail error => exact .of_inert (.fail error) reaches
  | after silent rest ih =>
      exact .of_inert_bind silent.inert reaches fun result middle later _ second =>
        ih result second

theorem StoresInto.accounted {location : Location} {evaluation : Evaluation Unit}
    {outcome : Except EvaluationError Unit} (storesInto : StoresInto location evaluation)
    (reaches : (evaluation stack).Reaches exchanges (outcome, after)) :
    Accounted (· = location) stack exchanges after := by
  induction storesInto generalizing stack exchanges with
  | store value silent =>
      rcases reaches_bind reaches with ⟨error, rfl, first⟩ | ⟨done, middle, _, _, first, second,
        rfl⟩
      · rcases reaches_ask first with ⟨rfl, rfl⟩
        exact .of_store (.refl after)
      · rcases reaches_ask first with ⟨rfl, rfl⟩
        rw [(silent done).exchanges_eq_nil second]
        exact .of_store ((silent done).keepsSlots second)
  | after inert rest ih =>
      exact .of_inert_bind inert reaches fun result middle later _ second => ih result second

theorem Changes.accounted {evaluation : Evaluation Unit}
    {outcome : Except EvaluationError Unit} (changes : Changes evaluation)
    (reaches : (evaluation stack).Reaches exchanges (outcome, after)) :
    Accounted stack.Holds stack exchanges after := by
  induction changes generalizing stack exchanges with
  | slot rest =>
      rcases reaches_bind reaches with ⟨error, rfl, first⟩ | ⟨⟨location, value⟩, middle, _, _,
        first, second, rfl⟩
      · rcases reaches_popSlot first with ⟨rfl, kept, -⟩
        exact .of_noStore kept (by simp)
      · rcases reaches_popSlot first with ⟨rfl, kept, held⟩
        refine (((rest location value).accounted second).append kept (by simp)).mono ?_
        rintro _ rfl
        exact ⟨value, held _ _ rfl⟩
  | after inert rest ih =>
      refine .of_inert_bind inert reaches fun result middle later kept second => ?_
      apply (ih result second).mono
      rintro location ⟨value, held⟩
      exact ⟨value, kept location value held⟩

/-! ## Fetches -/

/-- Evaluations that fetch nothing. -/
abbrev Fetchless (evaluation : Evaluation Result) : Prop :=
  evaluation.Composed fun call => call.isFetch = false

theorem Inert.fetchless {evaluation : Evaluation Result} (inert : evaluation.Inert) :
    evaluation.Fetchless := by
  refine inert.mono fun call isInvoke => ?_
  cases call with
  | invoke operation operands => rfl
  | _ => simp [Call.isInvoke] at isInvoke

theorem StoresInto.fetchless {location : Location} {evaluation : Evaluation Unit}
    (storesInto : StoresInto location evaluation) : evaluation.Fetchless := by
  induction storesInto with
  | store value silent => exact .bind (.ask rfl) fun done => (silent done).inert.fetchless
  | after inert rest ih => exact .bind inert.fetchless ih

theorem Changes.fetchless {evaluation : Evaluation Unit} (changes : Changes evaluation) :
    evaluation.Fetchless := by
  induction changes with
  | slot rest => exact .bind .popSlot fun slot => (rest slot.1 slot.2).fetchless
  | after inert rest ih => exact .bind inert.fetchless ih

end Evaluation

namespace InstructionKind

open Evaluation

variable {stack after : Stack} {exchanges : List Exchange} {kind : InstructionKind}
  {length place : Nat}

theorem reaches_thenNext {evaluation : Evaluation Unit} {next : Nat}
    {outcome : Except EvaluationError Nat}
    (reaches : (thenNext next evaluation stack).Reaches exchanges (outcome, after)) :
    ∃ outcome, (evaluation stack).Reaches exchanges (outcome, after) := by
  rcases reaches_bind reaches with ⟨error, rfl, first⟩ | ⟨done, middle, _, _, first, second, rfl⟩
  · exact ⟨.error error, first⟩
  · rcases reaches_lift second with ⟨rfl, rfl, rfl⟩
    exact ⟨.ok done, first⟩

/-- Every way through an instruction accounts for its slots and its calls. -/
theorem accounted_execute {outcome : Except EvaluationError Nat}
    (reaches : (kind.execute length place stack).Reaches exchanges (outcome, after)) :
    Accounted stack.Holds stack exchanges after := by
  cases kind.form length place with
  | look isLook looks executeEq =>
      rw [executeEq] at reaches
      rcases reaches_thenNext reaches with ⟨outcome, reaches⟩
      exact looks.accounted reaches
  | change isChange changes executeEq =>
      rw [executeEq] at reaches
      rcases reaches_thenNext reaches with ⟨outcome, reaches⟩
      exact changes.accounted reaches
  | other isNoLook inert => exact .of_inert inert reaches

/-- Only an instruction that looks at a location fetches. -/
theorem isFetch_execute {outcome : Except EvaluationError Nat} (isNoLook : kind.isLook = false)
    (reaches : (kind.execute length place stack).Reaches exchanges (outcome, after)) :
    ∀ exchange ∈ exchanges, exchange.call.isFetch = false := by
  cases kind.form length place with
  | look isLook looks executeEq => exact absurd isLook (by simp [isNoLook])
  | change _ changes executeEq =>
      rw [executeEq] at reaches
      rcases reaches_thenNext reaches with ⟨outcome, reaches⟩
      exact changes.fetchless.allowed_of_reaches reaches
  | other _ inert => exact inert.fetchless.allowed_of_reaches reaches

end InstructionKind

end Watch
