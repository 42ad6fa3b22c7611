import Watch.Proofs.Frame.Shape
import Watch.Proofs.Run.Journal

/-!
# Replaying the stores of a run

A suspended program serves a frame (`Target.Serves`) if it answers every call from the frame; when
the user gives up, and what else it keeps, is left open. The journal of a run over it is then a
conversation with the frame (`Frame.Answered`), in which every store goes to a location that was
fetched before (`Stack.Explained`). Since the shape of the frame never changes, such a store cannot
fail, and the stores alone, made again in their order, lead to the same frame.
-/

namespace Watch

namespace Call

/-- The location and the value of a store. -/
def stored? : Call → Option (Location × Value)
  | .store location value => some (location, value)
  | .fetch _ | .invoke .. => none

@[simp]
theorem stored?_store (location : Location) (value : Value) :
    (store location value).stored? = some (location, value) :=
  rfl

end Call

/-- The stores of a journal in the order in which they were made. -/
def storesOf (journal : List Exchange) : List (Location × Value) :=
  (journal.filterMap fun exchange => exchange.call.stored?).reverse

namespace Target

variable {State : Type}

/-- A suspended program answers from a frame that it keeps, and does nothing else to the frame. -/
structure Serves (target : Target State) (frameOf : State → Frame) : Prop where
  answer_eq : ∀ call state, (target.answer call state).1 = ((frameOf state).answer call).1
  frame_answer : ∀ call state,
    frameOf (target.answer call state).2 = ((frameOf state).answer call).2
  frame_poll : ∀ state, frameOf (target.poll state).2 = frameOf state

end Target

namespace Frame

theorem serves_target : target.Serves Suspended.frame where
  answer_eq := fun _ _ => rfl
  frame_answer := fun _ _ => rfl
  frame_poll := fun _ => rfl

/-- The frame after some stores; it fails where one of them does. -/
def storeAll (frame : Frame) (stores : List (Location × Value)) :
    Except EvaluationError Frame :=
  stores.foldlM (fun frame store => frame.store store.1 store.2) frame

theorem storeAll_append (frame : Frame) (earlier later : List (Location × Value)) :
    frame.storeAll (earlier ++ later) =
      (frame.storeAll earlier).bind fun middle => middle.storeAll later :=
  List.foldlM_append

/-- A frame gives the answers in a journal, the latest first, and is another frame then. -/
inductive Answered (frame : Frame) : List Exchange → Frame → Prop where
  | nil : Answered frame [] frame
  | cons {exchange : Exchange} {exchanges : List Exchange} {middle after : Frame}
      (earlier : Answered frame exchanges middle)
      (answered : middle.answer exchange.call = (exchange.answer, after)) :
      Answered frame (exchange :: exchanges) after

namespace Answered

variable {frame after : Frame} {exchanges : List Exchange}

theorem shape_eq (answered : frame.Answered exchanges after) : after.shape = frame.shape := by
  induction answered with
  | nil => rfl
  | @cons exchange exchanges middle after earlier answered ih =>
      rw [← ih, ← middle.shape_answer exchange.call, answered]

theorem earlier {later : List Exchange} (answered : frame.Answered (later ++ exchanges) after) :
    ∃ middle, frame.Answered exchanges middle := by
  induction later generalizing after with
  | nil => exact ⟨after, answered⟩
  | cons exchange later ih =>
      cases answered with
      | cons before _ => exact ih before

/-- What was fetched once can be fetched in every frame of the shape. -/
theorem isOk_fetch_of_mem {other : Frame} {location : Location} {value : Value}
    (answered : frame.Answered exchanges after)
    (fetched : ⟨.fetch location, .ok value⟩ ∈ exchanges) (same : other.shape = frame.shape) :
    (other.fetch location).isOk = true := by
  rcases List.append_of_mem fetched with ⟨later, before, rfl⟩
  rcases answered.earlier with ⟨middle, reached⟩
  cases reached with
  | @cons _ _ start _ before answer =>
      rw [isOk_fetch (same.trans before.shape_eq.symm)]
      have answerEq : start.fetch location = .ok value := congrArg Prod.fst answer
      rw [answerEq]
      rfl

/-- A store into what was fetched before does not fail. -/
theorem store_ne_error {stack : Stack} (answered : frame.Answered exchanges after)
    (explained : stack.Explained exchanges) (location : Location) (value : Value)
    (error : EvaluationError) : ⟨.store location value, .error error⟩ ∉ exchanges := by
  intro failed
  rcases List.append_of_mem failed with ⟨later, before, rfl⟩
  rcases explained.stores later location value (.error error) before rfl with ⟨-, old, fetched⟩
  rcases answered.earlier with ⟨middle, reached⟩
  -- The location could be fetched at an earlier time, and the shape of the frame is the same since.
  cases reached with
  | @cons _ _ start _ before answer =>
      have isOk := before.isOk_fetch_of_mem fetched before.shape_eq
      cases fetchEq : start.fetch location with
      | error error => simp [fetchEq, Except.isOk, Except.toBool] at isOk
      | ok old => simp [Frame.answer, store, fetchEq, Except.map] at answer

/-- Calls other than stores do not change the frame; stores that succeed make the difference. -/
theorem storeAll_storesOf (answered : frame.Answered exchanges after)
    (succeeds : ∀ location value error, ⟨.store location value, .error error⟩ ∉ exchanges) :
    frame.storeAll (storesOf exchanges) = .ok after := by
  induction answered with
  | nil => rfl
  | @cons exchange exchanges middle after earlier answered ih =>
      have replayed := ih fun location value error member =>
        succeeds location value error (List.mem_cons_of_mem _ member)
      rcases exchange with ⟨call, answer⟩
      cases call with
      | fetch location =>
          cases answered
          exact replayed
      | invoke operation operands =>
          cases answered
          exact replayed
      | store location value =>
          have storesEq : storesOf (⟨.store location value, answer⟩ :: exchanges) =
              storesOf exchanges ++ [(location, value)] := by
            simp only [storesOf, List.filterMap_cons, Call.stored?_store, List.reverse_cons]
          rw [storesEq, storeAll_append, replayed]
          cases stored : middle.store location value with
          | error error =>
              simp only [Frame.answer, stored, Prod.mk.injEq] at answered
              exact absurd List.mem_cons_self (answered.1 ▸ succeeds location value error)
          | ok written =>
              simp only [Frame.answer, stored, Prod.mk.injEq] at answered
              simp [storeAll, Except.bind, stored, answered.2]

end Answered

end Frame

namespace Target.Serves

variable {State : Type} {target : Target State} {frameOf : State → Frame} {frame : Frame}

/-- The journal of an action over a program that serves a frame is a conversation with the frame. -/
theorem answered_perform {Result : Type} (serves : target.Serves frameOf)
    {action : Action Result} {result : Result} {before after : State × List Exchange}
    (performed : action.perform target.journaled before = (result, after))
    (answered : frame.Answered before.2 (frameOf before.1)) :
    frame.Answered after.2 (frameOf after.1) := by
  induction action generalizing before with
  | done result =>
      cases performed
      exact answered
  | ask call next ih =>
      refine ih _ performed (answered.cons ?_)
      exact (Prod.ext (serves.answer_eq call before.1) (serves.frame_answer call before.1)).symm

theorem answered_poll (serves : target.Serves frameOf) {before after : State × List Exchange}
    {cancelled : Bool} (polled : target.journaled.poll before = (cancelled, after))
    (answered : frame.Answered before.2 (frameOf before.1)) :
    frame.Answered after.2 (frameOf after.1) := by
  cases polled
  rw [serves.frame_poll]
  exact answered

end Target.Serves

namespace Run

variable {State : Type} {limits : Limits} {program : Program} {target : Target State}
  {frameOf : State → Frame} {frame : Frame}

theorem Advances.answered {run next : Run} {before after : State × List Exchange}
    (advances : Advances limits program target.journaled run before next after)
    (serves : target.Serves frameOf) (answered : frame.Answered before.2 (frameOf before.1)) :
    frame.Answered after.2 (frameOf after.1) := by
  cases advances with
  | cancelled polled => exact serves.answered_poll polled answered
  | finished polled ended => exact serves.answered_poll polled answered
  | limited polled found spent => exact serves.answered_poll polled answered
  | executed polled found allowed performed =>
      exact serves.answered_perform performed (serves.answered_poll polled answered)
  | failed polled found allowed performed =>
      exact serves.answered_perform performed (serves.answered_poll polled answered)

theorem answered_after (serves : target.Serves frameOf) (state : State) (count : Nat) :
    (frameOf state).Answered (journal limits program target state count)
      (frameOf (after limits program target state count).2) := by
  have answered : (frameOf state).Answered
      (after limits program target.journaled (state, []) count).2.2
      (frameOf (after limits program target.journaled (state, []) count).2.1) := by
    apply after_induction fun _ (before : State × List Exchange) =>
      (frameOf state).Answered before.2 (frameOf before.1)
    · exact .nil
    · intro run next before after advances answered
      exact advances.answered serves answered
  rwa [after_journaled] at answered

/-- A frame does not give up on an evaluation on its own. -/
theorem cancelled_perform {Result : Type} (action : Action Result) (state : Suspended) :
    (action.perform Frame.target state).2.cancelled = state.cancelled := by
  induction action generalizing state with
  | done result => rfl
  | ask call next ih => exact ih _ _

theorem cancelled_poll {state after : Suspended} {cancelled : Bool}
    (polled : Frame.target.poll state = (cancelled, after)) : after.cancelled = state.cancelled :=
  (congrArg (·.2.cancelled) polled).symm

theorem Advances.cancelled_eq {run next : Run} {state after : Suspended}
    (advances : Advances limits program Frame.target run state next after) :
    after.cancelled = state.cancelled := by
  cases advances with
  | cancelled polled => exact cancelled_poll polled
  | finished polled ended => exact cancelled_poll polled
  | limited polled found spent => exact cancelled_poll polled
  | executed polled found allowed performed =>
      rw [← cancelled_poll polled, ← congrArg (·.2.cancelled) performed]
      exact cancelled_perform ..
  | failed polled found allowed performed =>
      rw [← cancelled_poll polled, ← congrArg (·.2.cancelled) performed]
      exact cancelled_perform ..

theorem cancelled_after (state : Suspended) (count : Nat) :
    (after limits program Frame.target state count).2.cancelled = state.cancelled := by
  apply after_induction fun _ (before : Suspended) => before.cancelled = state.cancelled
  · rfl
  · intro run next before after advances same
    exact advances.cancelled_eq.trans same

/-- The stores of a run, made again in their order, change the frame as the run did. -/
theorem storeAll_journal (serves : target.Serves frameOf) (state : State) (count : Nat) :
    (frameOf state).storeAll (storesOf (journal limits program target state count)) =
      .ok (frameOf (after limits program target state count).2) := by
  have answered : (frameOf state).Answered (journal limits program target state count)
      (frameOf (after limits program target state count).2) := answered_after serves state count
  exact answered.storeAll_storesOf (answered.store_ne_error (explained_after state count))

theorem storeAll_transcript (serves : target.Serves frameOf) (state : State) :
    (frameOf state).storeAll (storesOf (transcript limits program target state).reverse) =
      .ok (frameOf ((start limits).toEnd limits program target state).2) := by
  have ended : (after limits program target state
      (limits.maxSteps.toNat + 1)).1.status.isTerminal = true := isTerminal_after_maxSteps state
  rw [toEnd_start, transcript_of_isTerminal ended, List.reverse_reverse]
  exact storeAll_journal serves state _

/--
A run over a frame, whenever it is stopped and whatever the user does, leaves the shape of the frame
as it is. None of its stores fails, and the stores alone, made again in their order, change the
frame as the run did.
-/
theorem stores_replay (limits : Limits) (program : Program) (target : Target State)
    (frameOf : State → Frame) (serves : target.Serves frameOf) (state : State) (count : Nat) :
    let final := frameOf (after limits program target state count).2
    let written := journal limits program target state count
    final.shape = (frameOf state).shape ∧
      (∀ location value error, ⟨.store location value, .error error⟩ ∉ written) ∧
      (frameOf state).storeAll (storesOf written) = .ok final := by
  intro final written
  have answered : (frameOf state).Answered written final := answered_after serves state count
  have succeeds := answered.store_ne_error (explained_after state count)
  exact ⟨answered.shape_eq, succeeds, answered.storeAll_storesOf succeeds⟩

/-- A run that assigns a local variable, stopped after the assignment. -/
theorem stores_replay_assignment :
    let frame := Frame.empty.withLocal "x" (.int 1)
    let program : Program :=
      #[⟨.pushLocal "x", 0⟩, ⟨.pushLiteral (.int 7), 1⟩, ⟨.assign .int, 2⟩]
    let final := (after {} program Frame.target ⟨frame, false⟩ 3).2.frame
    let written := journal {} program Frame.target ⟨frame, false⟩ 3
    Frame.target.Serves Suspended.frame ∧
      storesOf written = [(.local "x", .int 7)] ∧
      final = Frame.empty.withLocal "x" (.int 7) ∧
      final.shape = frame.shape ∧
      (∀ location value error, ⟨.store location value, .error error⟩ ∉ written) ∧
      frame.storeAll (storesOf written) = .ok final := by
  refine ⟨Frame.serves_target, by rfl, by rfl, ?_⟩
  exact stores_replay {} _ Frame.target Suspended.frame Frame.serves_target
    ⟨Frame.empty.withLocal "x" (.int 1), false⟩ 3

end Run

end Watch
