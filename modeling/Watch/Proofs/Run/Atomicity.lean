import Watch.Proofs.Evaluation.Atomicity
import Watch.Proofs.Run.Replay

/-!
# What a run that fails has stored

A frame is changed by the stores into it that are carried out, and by nothing else. An instruction
that fails has carried out none, so that the frame is what it was before the instruction, with one
exception: an update whose value its result type does not take (`InstructionKind.StoresInVain`). It
always fails, and always leaves the new number in the frame, since the slots of a run have locations
that exist.
-/

namespace Watch

namespace Frame

variable {frame after : Frame}

theorem eq_of_answer {call : Call} {answer : call.Answer}
    (answered : frame.answer call = (answer, after))
    (noCommit : Exchange.isCommit ⟨call, answer⟩ = false) : after = frame := by
  cases call with
  | fetch location => exact (congrArg Prod.snd answered).symm
  | invoke operation operands => exact (congrArg Prod.snd answered).symm
  | store location value =>
      rw [Frame.answer] at answered
      split at answered
      · cases answered
        contradiction
      · exact (congrArg Prod.snd answered).symm

/-- Without a store that was carried out, the frame after some answers is the frame before. -/
theorem Answered.eq_of_noCommit {exchanges : List Exchange}
    (answered : frame.Answered exchanges after)
    (noCommit : ∀ exchange ∈ exchanges, exchange.isCommit = false) : after = frame := by
  induction answered with
  | nil => rfl
  | cons earlier answer ih =>
      have last := eq_of_answer answer (noCommit _ List.mem_cons_self)
      have before := ih fun exchange member => noCommit exchange (List.mem_cons_of_mem _ member)
      exact last.trans before

end Frame

namespace InstructionKind

/--
Updates that store a number and fail then: the number next to that of the slot on top goes into the
location, but the type of the result does not take the value that is to be shown.
-/
inductive StoresInVain (stack : Stack) (location : Location) (new : Value)
    (error : EvaluationError) : InstructionKind → Prop where
  | update {operator : TypedUnary} {old : Value} {rest : List Operand}
      (isUpdate : operator.operation.isUpdate = true)
      (top : stack.operands = .slot location old :: rest)
      (updated : operator.updated old = .ok new)
      (refused : operator.shown old new = .error error) :
      StoresInVain stack location new error (.unary operator)

open Evaluation

variable {State : Type} {target : Target State} {state next : State} {stack left : Stack}
  {length place : Nat} {error : EvaluationError}

theorem perform_thenNext {evaluation : Evaluation Unit} :
    (thenNext place evaluation stack).perform target state = ((.error error, left), next) ↔
      (evaluation stack).perform target state = ((.error error, left), next) := by
  rw [perform_thenNext_eq]
  rcases (evaluation stack).perform target state with ⟨⟨failure | done, middle⟩, last⟩ <;>
    simp [Except.map]

theorem execute_update {operator : TypedUnary} (updates : operator.operation.isUpdate = true) :
    (unary operator).execute length place = thenNext (place + 1) operator.executeUpdate := by
  simp only [execute, TypedUnary.execute, updates, if_true]

end InstructionKind

namespace Target.Serves

open InstructionKind

variable {State : Type} {target : Target State} {frameOf : State → Frame} {state next : State}
  {stack left : Stack} {kind : InstructionKind} {length place : Nat} {error : EvaluationError}

theorem answered_exchanges {Result : Type} (serves : target.Serves frameOf)
    (action : Action Result) (state : State) :
    (frameOf state).Answered (action.exchanges target state)
      (frameOf (action.perform target state).2) := by
  have answered := serves.answered_perform (action.perform_journaled_eq target state []) .nil
  rwa [List.append_nil] at answered

/-- An evaluation that stores nothing when it fails leaves the frame alone when it fails. -/
theorem frame_of_atomic {Result : Type} {evaluation : Evaluation Result}
    (serves : target.Serves frameOf) (atomic : evaluation.Atomic 0)
    (failed : (evaluation stack).perform target state = ((.error error, left), next)) :
    frameOf next = frameOf state := by
  have answered := serves.answered_exchanges (evaluation stack) state
  have reaches := (evaluation stack).reaches_perform target state
  rw [failed] at answered reaches
  exact answered.eq_of_noCommit (atomic (Nat.zero_le _) reaches)

/-- A store into a location that exists is carried out. -/
theorem answer_store (serves : target.Serves frameOf) {location : Location}
    (present : ((frameOf state).fetch location).isOk = true) (value : Value) :
    ∃ after, target.answer (.store location value) state = (.ok (), after) ∧
      frameOf after = (frameOf state).write location value := by
  have answerEq := serves.answer_eq (.store location value) state
  have frameEq := serves.frame_answer (.store location value) state
  cases fetched : (frameOf state).fetch location with
  | error error => simp [fetched, Except.isOk, Except.toBool] at present
  | ok old =>
      simp only [Frame.answer, Frame.store, fetched, Except.map] at answerEq frameEq
      exact ⟨_, Prod.ext answerEq rfl, frameEq⟩

section Updates

variable (serves : target.Serves frameOf)
  (present : ∀ location old, .slot location old ∈ stack.operands →
    ((frameOf state).fetch location).isOk = true)
include serves present

theorem stored_of_inVain {location : Location} {new : Value}
    (inVain : kind.StoresInVain stack location new error) :
    ∃ left next, (kind.execute length place stack).perform target state =
        ((.error error, left), next) ∧ frameOf next = (frameOf state).write location new := by
  rcases stack with ⟨operands, room⟩
  cases inVain with
  | @update operator old rest isUpdate top updated refused =>
      cases top
      rcases serves.answer_store (present location old List.mem_cons_self) new with
        ⟨next, answered, frameEq⟩
      refine ⟨⟨rest, room + 1⟩, next, ?_, frameEq⟩
      rw [execute_update isUpdate, perform_thenNext, operator.executeUpdate_slot]
      simp [updated, refused, Action.perform, answered]

theorem frame_of_update (updates : kind.isUpdate = true)
    (failed : (kind.execute length place stack).perform target state =
      ((.error error, left), next)) :
    frameOf next = frameOf state ∨
      ∃ location new, kind.StoresInVain stack location new error ∧
        frameOf next = (frameOf state).write location new := by
  cases kind with
  | unary operator =>
      rw [execute_update updates, perform_thenNext] at failed
      rcases stack with ⟨_ | ⟨_ | ⟨location, old⟩, rest⟩, room⟩
      · cases failed
        exact .inl rfl
      · cases failed
        exact .inl rfl
      · rw [operator.executeUpdate_slot] at failed
        cases updated : operator.updated old with
        | error refused =>
            simp only [updated, Action.perform, Prod.mk.injEq] at failed
            exact .inl (congrArg frameOf failed.2.symm)
        | ok new =>
            rcases serves.answer_store (present location old List.mem_cons_self) new with
              ⟨stored, answered, frameEq⟩
            cases shown : operator.shown old new with
            | error refused =>
                simp only [updated, shown, Action.perform, answered, Prod.mk.injEq,
                  Except.error.injEq] at failed
                rcases failed with ⟨⟨rfl, -⟩, rfl⟩
                exact .inr ⟨location, new, .update updates rfl updated shown, frameEq⟩
            | ok value => simp [updated, shown, Action.perform, answered] at failed
  | _ => contradiction

end Updates

end Target.Serves

namespace Run

variable {State : Type} {limits : Limits} {program : Program} {target : Target State}
  {frameOf : State → Frame}

/-- The location of a slot has been fetched once, and can be fetched still. -/
theorem isOk_fetch_slot (serves : target.Serves frameOf) (state : State) (count : Nat)
    (location : Location) (old : Value)
    (held : .slot location old ∈ (after limits program target state count).1.stack.operands) :
    ((frameOf (after limits program target state count).2).fetch location).isOk = true := by
  have answered : (frameOf state).Answered (journal limits program target state count)
      (frameOf (after limits program target state count).2) := answered_after serves state count
  have explained : (after limits program target state count).1.stack.Explained
      (journal limits program target state count) := explained_after state count
  exact answered.isOk_fetch_of_mem (explained.slots location old held).2 answered.shape_eq

/--
What an instruction that fails leaves behind, at any moment of a run over a frame. The frame is what
it was, unless the instruction is an update whose value its result type does not take: the new
number is then in the location of the slot on top. Such an update fails in every case.
-/
theorem frame_of_failed (limits : Limits) (program : Program) (target : Target State)
    (frameOf : State → Frame) (serves : target.Serves frameOf) (state : State) (count : Nat) :
    let run := (after limits program target state count).1
    let now := (after limits program target state count).2
    ∀ (kind : InstructionKind) (length place : Nat) (error : EvaluationError),
      (∀ left next, (kind.execute length place run.stack).perform target now =
          ((.error error, left), next) →
        frameOf next = frameOf now ∨
          ∃ location new, kind.StoresInVain run.stack location new error ∧
            frameOf next = (frameOf now).write location new) ∧
      ∀ location new, kind.StoresInVain run.stack location new error →
        ∃ left next, (kind.execute length place run.stack).perform target now =
            ((.error error, left), next) ∧
          frameOf next = (frameOf now).write location new := by
  intro run now kind length place error
  have present : ∀ location old, .slot location old ∈ run.stack.operands →
      ((frameOf now).fetch location).isOk = true := isOk_fetch_slot serves state count
  constructor
  · intro left next failed
    cases updates : kind.isUpdate with
    | true => exact serves.frame_of_update present updates failed
    | false =>
        left
        exact serves.frame_of_atomic (InstructionKind.atomic_execute updates length place) failed
  · intro location new inVain
    exact serves.stored_of_inVain present inVain

/-- An increment that is to be shown as a boolean fails, and the variable is greater by one. -/
theorem frame_of_failed_increment :
    let frame := Frame.empty.withLocal "x" (.int 5)
    let program : Program := #[⟨.pushLocal "x", 2⟩]
    let reached := after {} program Frame.target ⟨frame, false⟩ 1
    let increment : InstructionKind := .unary ⟨.preIncrement, .boolean, .int⟩
    Frame.target.Serves Suspended.frame ∧ reached.2.frame = frame ∧
      ∃ left next, (increment.execute 2 1 reached.1.stack).perform Frame.target reached.2 =
          ((.error (.coercion "boolean" "int"), left), next) ∧
        next.frame = Frame.empty.withLocal "x" (.int 6) := by
  intro frame program reached increment
  refine ⟨Frame.serves_target, rfl, ?_⟩
  have inVain : increment.StoresInVain reached.1.stack (.local "x") (.int 6)
      (.coercion "boolean" "int") := .update rfl rfl rfl rfl
  exact (frame_of_failed {} program Frame.target Suspended.frame Frame.serves_target
    ⟨frame, false⟩ 1 increment 2 1 _).2 _ _ inVain

end Run

end Watch
