import Watch.Frame.Invocation
import Watch.Proofs.Evaluation.Room
import Watch.Proofs.Run.Journal
import Watch.Proofs.Run.Termination

/-!
# Higher limits

Two runs of a program under different limits make the same steps until the lower limits stop one of
them (`Run.hitsLimit`). Where that happens inside an instruction, the other run goes on from there,
so that what the one has asked for is the beginning of what the other asks for.
-/

namespace Watch

namespace Action

variable {Result State : Type}

theorem isOutOfRoom_journaled (target : Target State)
    (action : Action (Except EvaluationError Result × Stack)) (state : State)
    (journal : List Exchange) :
    action.isOutOfRoom target.journaled (state, journal) = action.isOutOfRoom target state := by
  rw [isOutOfRoom, isOutOfRoom, exchanges_journaled, perform_journaled_eq]

end Action

namespace Run

variable {State : Type} {limits few many : Limits} {program : Program} {target : Target State}

/--
Whether the limits stop a run in its next step: there is an instruction to execute, but no more may
be executed or the instruction runs out of room.
-/
def hitsLimit (limits : Limits) (program : Program) (target : Target State) (run : Run)
    (state : State) : Bool :=
  let (cancelled, state) := target.poll state
  !run.status.isTerminal && !cancelled &&
    match program[run.place]? with
    | none => false
    | some instruction =>
      decide (limits.maxSteps.toNat ≤ run.steps) ||
        (instruction.kind.execute program.size run.place run.stack).isOutOfRoom target state

/-- A run with room for some more operands. -/
def widen (run : Run) (extra : Nat) : Run :=
  { run with stack := run.stack.widen extra }

theorem finish_widen (run : Run) (extra : Nat) (offset : UInt64) :
    (run.widen extra).finish offset = (run.finish offset).widen extra := by
  rcases run with ⟨status, place, steps, ⟨_ | ⟨operand, _ | ⟨other, rest⟩⟩, room⟩⟩
  · rfl
  · simp only [finish, widen, Stack.widen, Nat.add_right_comm room extra 1]
  · rfl

theorem hitsLimit_eq {run : Run} {state polledState : State} {instruction : Instruction}
    (going : run.status.isTerminal = false) (polled : target.poll state = (false, polledState))
    (found : program[run.place]? = some instruction) :
    run.hitsLimit limits program target state =
      (decide (limits.maxSteps.toNat ≤ run.steps) ||
        (instruction.kind.execute program.size run.place run.stack).isOutOfRoom target
          polledState) := by
  simp only [hitsLimit, polled, found, going, Bool.not_false, Bool.true_and]

/-- Whatever an instruction leads to, it is what the step makes of the suspended program. -/
theorem advance_snd_eq {run : Run} {state polledState after : State} {instruction : Instruction}
    {outcome : Except EvaluationError Nat} {stack : Stack}
    (polled : target.poll state = (false, polledState))
    (found : program[run.place]? = some instruction)
    (allowed : run.steps < limits.maxSteps.toNat)
    (performed : (instruction.kind.execute program.size run.place run.stack).perform target
      polledState = ((outcome, stack), after)) :
    (run.advance limits program target state).2 = after := by
  cases outcome with
  | error error => rw [(Advances.failed polled found allowed performed).advance_eq]
  | ok next => rw [(Advances.executed polled found allowed performed).advance_eq]

/-- An instruction that runs out of room had the first exchanges that it has with more room. -/
theorem suffix_of_outOfRoom {action wide : Action (Except EvaluationError Nat × Stack)}
    {before : State × List Exchange}
    (suffix : action.exchanges target.journaled before <:+
      wide.exchanges target.journaled before) :
    (action.perform target.journaled before).2.2 <:+
      (wide.perform target.journaled before).2.2 := by
  rcases before with ⟨state, journal⟩
  rw [Action.exchanges_journaled, Action.exchanges_journaled] at suffix
  rw [Action.perform_journaled_eq, Action.perform_journaled_eq]
  rcases suffix with ⟨more, moreEq⟩
  exact ⟨more, by rw [← List.append_assoc, moreEq]⟩

/--
Under higher limits a run makes the same step, or the lower limits end the run in this step and what
has been written down by then is written down under the higher ones, too.
-/
theorem Advances.widen {run next : Run} {state : State} {journal : List Exchange}
    {after : State × List Exchange}
    (advances : Advances few program target.journaled run (state, journal) next after)
    (going : run.status.isTerminal = false) (stepsLe : few.maxSteps ≤ many.maxSteps) (extra : Nat) :
    let long := (run.widen extra).advance many program target.journaled (state, journal)
    long = (next.widen extra, after) ∨
      run.hitsLimit few program target state = true ∧ next.status.isTerminal = true ∧
        after.2 <:+ long.2.2 := by
  rw [UInt64.le_iff_toNat_le] at stepsLe
  cases advances with
  | cancelled polled => exact .inl (Advances.cancelled polled).advance_eq
  | finished polled ended =>
      have endedToo : program[(run.widen extra).place]? = none := ended
      left
      rw [← finish_widen]
      exact (Advances.finished polled endedToo).advance_eq
  | limited polled found spent =>
      rcases poll_of_journaled polled with ⟨polledInner, journalEq⟩
      refine .inr ⟨?_, rfl, journalEq ▸ suffix_advance _ _ _⟩
      rw [hitsLimit_eq going polledInner found, decide_eq_true spent, Bool.true_or]
  | @executed polledState _ instruction _ _ polled found allowed performed =>
      have foundToo : program[(run.widen extra).place]? = some instruction := found
      have allowedToo : (run.widen extra).steps < many.maxSteps.toNat :=
        Nat.lt_of_lt_of_le allowed stepsLe
      rcases instruction.kind.scales_execute program.size run.place target.journaled polledState
        run.stack extra with ⟨wide, -⟩ | ⟨outOfRoom, -⟩
      · rw [performed] at wide
        exact .inl (Advances.executed polled foundToo allowedToo wide).advance_eq
      · rw [Action.isOutOfRoom_iff, performed] at outOfRoom
        cases outOfRoom.1
  | @failed polledState _ instruction _ _ polled found allowed performed =>
      have foundToo : program[(run.widen extra).place]? = some instruction := found
      have allowedToo : (run.widen extra).steps < many.maxSteps.toNat :=
        Nat.lt_of_lt_of_le allowed stepsLe
      rcases instruction.kind.scales_execute program.size run.place target.journaled polledState
        run.stack extra with ⟨wide, -⟩ | ⟨outOfRoom, suffix⟩
      · rw [performed] at wide
        exact .inl (Advances.failed polled foundToo allowedToo wide).advance_eq
      · rcases poll_of_journaled polled with ⟨polledInner, -⟩
        refine .inr ⟨?_, rfl, ?_⟩
        · rw [← polledState.eta, Action.isOutOfRoom_journaled] at outOfRoom
          rw [hitsLimit_eq going polledInner found, outOfRoom, Bool.or_true]
        · have written := suffix_of_outOfRoom suffix
          rw [performed] at written
          rw [advance_snd_eq polled foundToo allowedToo rfl]
          exact written

theorem step_widen (stepsLe : few.maxSteps ≤ many.maxSteps) (run : Run) (extra : Nat)
    (before : State × List Exchange) :
    let short := run.step few program target.journaled before
    let long := (run.widen extra).step many program target.journaled before
    long = (short.1.widen extra, short.2) ∨
      run.hitsLimit few program target before.1 = true ∧ short.1.status.isTerminal = true ∧
        short.2.2 <:+ long.2.2 := by
  cases ended : run.status.isTerminal with
  | true =>
      have endedToo : (run.widen extra).status.isTerminal = true := ended
      rw [step_of_isTerminal ended, step_of_isTerminal endedToo]
      exact .inl rfl
  | false =>
      have goingToo : (run.widen extra).status.isTerminal = false := ended
      rw [step_of_not_isTerminal ended, step_of_not_isTerminal goingToo]
      exact (advances_advance run before).widen ended stepsLe extra

theorem start_widen (depthLe : few.maxStackDepth ≤ many.maxStackDepth) :
    start many = (start few).widen (many.maxStackDepth.toNat - few.maxStackDepth.toNat) := by
  rw [UInt64.le_iff_toNat_le] at depthLe
  simp only [start, widen, Stack.empty, Stack.widen, Nat.add_sub_cancel' depthLe]

/--
After any number of steps a run under higher limits is the same, with more room on the stack, or the
lower limits have ended the other run and what that has written down is the beginning.
-/
theorem after_widen (stepsLe : few.maxSteps ≤ many.maxSteps)
    (depthLe : few.maxStackDepth ≤ many.maxStackDepth) (program : Program) (target : Target State)
    (state : State) (count : Nat) :
    let short := after few program target.journaled (state, []) count
    let long := after many program target.journaled (state, []) count
    long = (short.1.widen (many.maxStackDepth.toNat - few.maxStackDepth.toNat), short.2) ∨
      (∃ earlier < count, (after few program target state earlier).1.hitsLimit few program target
        (after few program target state earlier).2 = true) ∧
      short.1.status.isTerminal = true ∧ short.2.2 <:+ long.2.2 := by
  induction count with
  | zero => exact .inl (Prod.ext (start_widen depthLe) rfl)
  | succ count ih =>
      simp only [after_succ]
      rcases ih with same | ⟨⟨earlier, before, hits⟩, ended, suffix⟩
      · rw [same]
        rcases step_widen stepsLe _ _ _ with sameToo | ⟨hits, cut⟩
        · exact .inl sameToo
        · rw [after_journaled] at hits
          exact .inr ⟨⟨count, Nat.lt_succ_self count, hits⟩, cut⟩
      · rw [step_of_isTerminal ended]
        exact .inr ⟨⟨earlier, Nat.lt_succ_of_lt before, hits⟩, ended,
          suffix.trans (suffix_step _ _)⟩

/--
A run under lower limits makes the first of the calls that a run under higher limits makes, with the
same answers. If its limits do not stop it in any step, the two make the same calls and end alike,
at the same place, with the same operands left and with the suspended program in the same state.
-/
theorem transcript_prefix_of_le (few many : Limits) (stepsLe : few.maxSteps ≤ many.maxSteps)
    (depthLe : few.maxStackDepth ≤ many.maxStackDepth) (program : Program) (target : Target State)
    (state : State) :
    transcript few program target state <+: transcript many program target state ∧
      ((∀ count ≤ few.maxSteps.toNat, (after few program target state count).1.hitsLimit few
          program target (after few program target state count).2 = false) →
        let short := (start few).toEnd few program target state
        let long := (start many).toEnd many program target state
        transcript many program target state = transcript few program target state ∧
          long.1.status = short.1.status ∧ long.1.place = short.1.place ∧
          long.1.stack.operands = short.1.stack.operands ∧ long.2 = short.2) := by
  have fewEnded : (after few program target state (few.maxSteps.toNat + 1)).1.status.isTerminal =
      true := isTerminal_after_maxSteps state
  constructor
  · have lessLe : few.maxSteps.toNat + 1 ≤ many.maxSteps.toNat + 1 :=
      Nat.succ_le_succ (UInt64.le_iff_toNat_le.1 stepsLe)
    have fewEndedToo : (after few program target state
        (many.maxSteps.toNat + 1)).1.status.isTerminal = true := by
      rwa [after_eq_of_le fewEnded lessLe]
    rw [transcript_of_isTerminal fewEndedToo,
      transcript_of_isTerminal (isTerminal_after_maxSteps state), List.reverse_prefix]
    rcases after_widen stepsLe depthLe program target state (many.maxSteps.toNat + 1) with
      same | ⟨-, -, suffix⟩
    · simp only [journal, same, List.suffix_rfl]
    · exact suffix
  · intro noHit
    rcases after_widen stepsLe depthLe program target state (few.maxSteps.toNat + 1) with
      same | ⟨⟨earlier, before, hits⟩, -⟩
    · simp only [after_journaled, Prod.mk.injEq] at same
      rcases same with ⟨runEq, stateEq, journalEq⟩
      have manyEnded : (after many program target state
          (few.maxSteps.toNat + 1)).1.status.isTerminal = true := by
        rw [runEq]
        exact fewEnded
      rw [transcript_of_isTerminal fewEnded, transcript_of_isTerminal manyEnded,
        toEnd_of_isTerminal fewEnded, toEnd_of_isTerminal manyEnded]
      exact ⟨by rw [journalEq], by rw [runEq]; rfl, by rw [runEq]; rfl, by rw [runEq]; rfl, stateEq⟩
    · rw [noHit earlier (Nat.le_of_lt_succ before)] at hits
      cases hits

/-- A sum that is computed with just as many steps and as much room as it needs, and with more. -/
theorem transcript_prefix_of_le_sum :
    let few : Limits := ⟨2, 3⟩
    let program : Program :=
      #[⟨.pushLocal "x", 0⟩, ⟨.pushLocal "y", 4⟩, ⟨.binary ⟨.add, .int, .int, .int, false⟩, 2⟩]
    let state : Suspended :=
      ⟨(Frame.empty.withLocal "x" (.int 1)).withLocal "y" (.int 2), false⟩
    let short := (start few).toEnd few program Frame.target state
    let long := (start {}).toEnd {} program Frame.target state
    (∀ count ≤ 3, (after few program Frame.target state count).1.hitsLimit few program Frame.target
        (after few program Frame.target state count).2 = false) ∧
      short.1.status = .completed (.int 3) ∧
      transcript few program Frame.target state <+: transcript {} program Frame.target state ∧
      transcript {} program Frame.target state = transcript few program Frame.target state ∧
      long.1.status = short.1.status ∧ long.1.place = short.1.place ∧
      long.1.stack.operands = short.1.stack.operands ∧ long.2 = short.2 := by
  intro few program state short long
  have noHit : ∀ count ≤ few.maxSteps.toNat,
      (after few program Frame.target state count).1.hitsLimit few program Frame.target
        (after few program Frame.target state count).2 = false := by
    decide +kernel
  have monotone := transcript_prefix_of_le few {} (by decide) (by decide) program Frame.target state
  exact ⟨noHit, by decide +kernel, monotone.1, monotone.2 noHit⟩

end Run

end Watch
