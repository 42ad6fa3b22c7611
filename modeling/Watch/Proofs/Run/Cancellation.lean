import Watch.Proofs.Run.Replay

/-!
# Giving up on a run

The user gives up by tripping a token that the suspended program knows about
(`Target.HasToken`). Someone may trip it between two steps, and a call may trip it in the middle of
an instruction; nobody can take that back. The run looks at the token before anything else in a
step, so that it ends in the step in which the token is tripped, if the instruction fails by itself,
and else in the next one, whatever that would have done.
-/

namespace Watch

namespace Action

variable {Result State : Type}

/-- The states of a suspended program while an action is performed: at first and after each call. -/
def course (target : Target State) : Action Result → State → List State
  | .done _, state => [state]
  | .ask call next, state =>
    let (answer, after) := target.answer call state
    state :: (next answer).course target after

end Action

namespace Target

variable {State : Type}

/--
A suspended program has a token: a poll tells whether it is tripped, and once it is tripped it stays
so, whatever is called. Others may trip it before it is read, and any call may trip it.
-/
structure HasToken (target : Target State) (tripped : State → Bool) : Prop where
  poll_fst : ∀ state, (target.poll state).1 = tripped (target.poll state).2
  poll_keeps : ∀ state, tripped state = true → tripped (target.poll state).2 = true
  answer_keeps : ∀ call state, tripped state = true → tripped (target.answer call state).2 = true

namespace HasToken

variable {target : Target State} {tripped : State → Bool}

theorem perform_keeps {Result : Type} (token : target.HasToken tripped) {action : Action Result}
    {state : State} (isTripped : tripped state = true) :
    tripped (action.perform target state).2 = true := by
  induction action generalizing state with
  | done result => exact isTripped
  | ask call next ih => exact ih _ (token.answer_keeps call state isTripped)

/-- A token that is tripped while an action is performed is tripped afterwards. -/
theorem tripped_of_course {Result : Type} (token : target.HasToken tripped)
    {action : Action Result} {state moment : State} (member : moment ∈ action.course target state)
    (isTripped : tripped moment = true) : tripped (action.perform target state).2 = true := by
  induction action generalizing state with
  | done result =>
      cases List.mem_singleton.1 member
      exact isTripped
  | ask call next ih =>
      rcases List.mem_cons.1 member with rfl | later
      · exact token.perform_keeps isTripped
      · exact ih _ later

theorem poll_eq (token : target.HasToken tripped) {state : State}
    (isTripped : tripped state = true) :
    target.poll state = (true, (target.poll state).2) := by
  have told := token.poll_fst state
  rw [token.poll_keeps state isTripped] at told
  exact Prod.ext told rfl

/-- A script only adds to the ways in which a token is tripped. -/
theorem scripted (token : target.HasToken tripped) (script : Script) :
    (target.scripted script).HasToken fun state => tripped state.inner || state.cancelled where
  poll_fst := fun state => congrArg (· || state.cancelled) (token.poll_fst state.inner)
  poll_keeps := by
    intro state isTripped
    rcases Bool.or_eq_true_iff.1 isTripped with inner | cancelled
    · exact Bool.or_eq_true_iff.2 (.inl (token.poll_keeps _ inner))
    · exact Bool.or_eq_true_iff.2 (.inr cancelled)
  answer_keeps := by
    intro call state isTripped
    simp only [Target.scripted]
    split
    · rcases Bool.or_eq_true_iff.1 isTripped with inner | cancelled
      · simp [inner]
      · simp [cancelled]
    · rcases Bool.or_eq_true_iff.1 isTripped with inner | cancelled
      · simp [token.answer_keeps call _ inner]
      · simp [cancelled]

end HasToken

end Target

theorem Frame.hasToken_target : Frame.target.HasToken Suspended.cancelled where
  poll_fst := fun _ => rfl
  poll_keeps := fun _ isTripped => isTripped
  answer_keeps := fun _ _ isTripped => isTripped

namespace Run

variable {State : Type} {limits : Limits} {program : Program} {target : Target State}
  {tripped : State → Bool}

/--
The states of the suspended program in the next step of a run: when the token is read, and after
each call of the instruction that is executed then.
-/
def moments (limits : Limits) (program : Program) (target : Target State) (run : Run)
    (state : State) : List State :=
  let (cancelled, polled) := target.poll state
  match cancelled, program[run.place]? with
  | false, some instruction =>
    if run.steps < limits.maxSteps.toNat then
      (instruction.kind.execute program.size run.place run.stack).course target polled
    else [polled]
  | _, _ => [polled]

/-- A step in which the token is tripped later than it is read executes an instruction. -/
theorem executes_of_moments {run : Run} {state moment polled : State}
    (polledEq : target.poll state = (false, polled))
    (member : moment ∈ run.moments limits program target state) (later : moment ≠ polled) :
    ∃ instruction, program[run.place]? = some instruction ∧ run.steps < limits.maxSteps.toNat ∧
      moment ∈
        (instruction.kind.execute program.size run.place run.stack).course target polled := by
  simp only [moments, polledEq] at member
  cases found : program[run.place]? with
  | none => simp [found, later] at member
  | some instruction =>
      simp only [found] at member
      split at member
      · next allowed => exact ⟨instruction, rfl, allowed, member⟩
      · simp [later] at member

/-- A run whose token is tripped when it is read ends at once, without a call. -/
theorem after_succ_of_cancelled {state polled : State} {count : Nat}
    (going : (after limits program target state count).1.status.isTerminal = false)
    (polledEq : target.poll (after limits program target state count).2 = (true, polled)) :
    after limits program target state (count + 1) =
        ((after limits program target state count).1.fault .cancelled
          (program.offsetAt (after limits program target state count).1.place), polled) ∧
      journal limits program target state (count + 1) =
        journal limits program target state count := by
  constructor
  · rw [after_succ, step_of_not_isTerminal going]
    exact (Advances.cancelled polledEq).advance_eq
  · rw [journal, after_succ, after_journaled, step_of_not_isTerminal going]
    rw [(Advances.cancelled (poll_journaled _ polledEq)).advance_eq]

/-- A run that is cancelled after some steps makes no more calls until its end. -/
theorem ends_of_cancelled {state polled : State} {count : Nat}
    (going : (after limits program target state count).1.status.isTerminal = false)
    (polledEq : target.poll (after limits program target state count).2 = (true, polled)) :
    transcript limits program target state =
        (journal limits program target state count).reverse ∧
      (start limits).toEnd limits program target state =
        ((after limits program target state count).1.fault .cancelled
          (program.offsetAt (after limits program target state count).1.place), polled) := by
  rcases after_succ_of_cancelled going polledEq with ⟨nextEq, journalEq⟩
  have ended : (after limits program target state (count + 1)).1.status.isTerminal = true := by
    rw [nextEq]
    rfl
  rw [toEnd_of_isTerminal ended, transcript_of_isTerminal ended, journalEq]
  exact ⟨rfl, nextEq⟩

/--
A run whose token is tripped by a call of an instruction makes no call after this instruction. The
run ends with the error of the instruction, or it is cancelled in the next step.
-/
theorem ends_of_tripped (token : target.HasToken tripped) {state polled moment : State}
    {count : Nat} (going : (after limits program target state count).1.status.isTerminal = false)
    (polledEq : target.poll (after limits program target state count).2 = (false, polled))
    (member : moment ∈ (after limits program target state count).1.moments limits program target
      (after limits program target state count).2) (later : moment ≠ polled)
    (isTripped : tripped moment = true) :
    let run := (after limits program target state count).1
    let next := after limits program target state (count + 1)
    let final := (start limits).toEnd limits program target state
    transcript limits program target state =
        (journal limits program target state (count + 1)).reverse ∧
      ∃ instruction, program[run.place]? = some instruction ∧
        ((∃ error stack,
          (instruction.kind.execute program.size run.place run.stack).perform target polled =
              ((.error error, stack), next.2) ∧
            next.1.status = .faulted (.ofError error instruction.offset) ∧ final = next) ∨
          final = (next.1.fault .cancelled (program.offsetAt next.1.place),
            (target.poll next.2).2)) := by
  intro run next final
  rcases executes_of_moments polledEq member later with ⟨instruction, found, allowed, inCourse⟩
  have trippedAfter := token.tripped_of_course inCourse isTripped
  rcases performed : (instruction.kind.execute program.size run.place run.stack).perform target
    polled with ⟨⟨error | place, stack⟩, afterwards⟩
  · have nextEq : next = _ := (step_of_not_isTerminal going _).trans
      (Advances.failed polledEq found allowed performed).advance_eq
    have ended : (after limits program target state (count + 1)).1.status.isTerminal = true :=
      congrArg (fun next => next.1.status.isTerminal) nextEq
    refine ⟨transcript_of_isTerminal ended, instruction, found, .inl ⟨error, stack, ?_⟩⟩
    exact ⟨by rw [nextEq, performed], by rw [nextEq], toEnd_of_isTerminal ended⟩
  · have nextEq : next = _ := (step_of_not_isTerminal going _).trans
      (Advances.executed polledEq found allowed performed).advance_eq
    have goingOn : (after limits program target state (count + 1)).1.status.isTerminal = false :=
      congrArg (fun next => next.1.status.isTerminal) nextEq
    have polledNext : target.poll next.2 = (true, (target.poll next.2).2) := by
      apply token.poll_eq
      rwa [nextEq, ← congrArg Prod.snd performed]
    rcases ends_of_cancelled goingOn polledNext with ⟨callsEq, finalEq⟩
    exact ⟨callsEq, instruction, found, .inr finalEq⟩

/--
A run whose token is tripped before it has ended never completes. If the token is tripped when it is
read, in the step after `count` others, the run makes no call any more and is reported as cancelled
at the instruction that would come next, at the end of the program at the last one. If it is tripped
later in this step, by a call of the instruction that is executed, the run makes no call after this
instruction; the run ends with the error of this instruction, if it fails, and else is reported as
cancelled at the instruction that would come next. All stores that were made stay in the frame.
-/
theorem cancelled_of_tripped (limits : Limits) (program : Program) (target : Target State)
    (tripped : State → Bool) (token : target.HasToken tripped) (state : State) (count : Nat)
    (going : (after limits program target state count).1.status.isTerminal = false)
    (trips : ∃ moment ∈ (after limits program target state count).1.moments limits program target
      (after limits program target state count).2, tripped moment = true) :
    let run := (after limits program target state count).1
    let polled := (target.poll (after limits program target state count).2).2
    let next := after limits program target state (count + 1)
    let final := (start limits).toEnd limits program target state
    let calls := transcript limits program target state
    (∀ value, final.1.status ≠ .completed value) ∧
      (tripped polled = true →
        calls = (journal limits program target state count).reverse ∧
          final = (run.fault .cancelled (program.offsetAt run.place), polled)) ∧
      (tripped polled = false →
        calls = (journal limits program target state (count + 1)).reverse ∧
          ∃ instruction, program[run.place]? = some instruction ∧
            ((∃ error stack,
              (instruction.kind.execute program.size run.place run.stack).perform target polled =
                  ((.error error, stack), next.2) ∧
                next.1.status = .faulted (.ofError error instruction.offset) ∧ final = next) ∨
              final = (next.1.fault .cancelled (program.offsetAt next.1.place),
                (target.poll next.2).2))) ∧
      ∀ frameOf, target.Serves frameOf →
        (frameOf state).storeAll (storesOf calls.reverse) = .ok (frameOf final.2) := by
  intro run polled next final calls
  have told : (target.poll (after limits program target state count).2).1 = tripped polled :=
    token.poll_fst _
  have early : tripped polled = true →
      calls = (journal limits program target state count).reverse ∧
        final = (run.fault .cancelled (program.offsetAt run.place), polled) :=
    fun isTripped => ends_of_cancelled going (Prod.ext (told.trans isTripped) rfl)
  rcases trips with ⟨moment, member, isTripped⟩
  have late (isNotTripped : tripped polled = false) :=
    have later : moment ≠ polled := by
      rintro rfl
      simp [isTripped] at isNotTripped
    ends_of_tripped token going (Prod.ext (told.trans isNotTripped) rfl) member later isTripped
  refine ⟨?_, early, late, fun frameOf serves => storeAll_transcript serves state⟩
  intro value completed
  cases isRead : tripped polled with
  | true =>
      have statusEq := congrArg (fun final => final.1.status) (early isRead).2
      cases completed.symm.trans statusEq
  | false =>
      rcases (late isRead).2 with ⟨_, -, ⟨_, _, -, faulted, finalEq⟩ | finalEq⟩
      · have statusEq := congrArg (fun final => final.1.status) finalEq
        cases completed.symm.trans (statusEq.trans faulted)
      · have statusEq := congrArg (fun final => final.1.status) finalEq
        cases completed.symm.trans statusEq

/-- A token that is tripped by the store of an assignment stops the run before the next fetch. -/
theorem cancelled_of_tripped_store :
    let program : Program :=
      #[⟨.pushLocal "x", 0⟩, ⟨.pushLiteral (.int 7), 4⟩, ⟨.assign .int, 2⟩, ⟨.pop, 5⟩,
        ⟨.pushLocal "y", 7⟩]
    let target := Frame.target.scripted [(2, ⟨none, true⟩)]
    let tripped := fun state : Scripted Suspended => state.inner.cancelled || state.cancelled
    let frame := (Frame.empty.withLocal "x" (.int 1)).withLocal "y" (.int 2)
    let state : Scripted Suspended := ⟨⟨frame, false⟩, 0, false⟩
    let final := (start {}).toEnd {} program target state
    target.HasToken tripped ∧
      (after {} program target state 2).1.status.isTerminal = false ∧
      (∃ moment ∈ (after {} program target state 2).1.moments {} program target
        (after {} program target state 2).2, tripped moment = true) ∧
      final.1.status = .faulted ⟨.cancelled, 5, "Evaluation cancelled"⟩ ∧
      final.2.inner.frame.fetch (.local "x") = .ok (.int 7) ∧
      transcript {} program target state = (journal {} program target state 3).reverse := by
  intro program target tripped frame state final
  have token : target.HasToken tripped := Frame.hasToken_target.scripted _
  have going : (after {} program target state 2).1.status.isTerminal = false := by decide +kernel
  have trips : ∃ moment ∈ (after {} program target state 2).1.moments {} program target
      (after {} program target state 2).2, tripped moment = true := by
    decide +kernel
  have cancelled := cancelled_of_tripped {} program target tripped token state 2 going trips
  refine ⟨token, going, trips, by decide +kernel, by decide +kernel, ?_⟩
  exact (cancelled.2.2.1 (by decide +kernel)).1

end Run

end Watch
