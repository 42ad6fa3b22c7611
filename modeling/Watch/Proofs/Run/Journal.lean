import Watch.Proofs.Evaluation.Performance
import Watch.Proofs.Run.Termination

/-!
# The journal of a run

A run over a journaled program is the run over the program itself, with its calls written down. What
a step adds to the journal are the exchanges on a way through one instruction (`Run.Writes`), so the
account that an instruction gives of its slots and its calls (`Evaluation.Accounted`) extends to the
whole run: the journal explains every slot on the stack and every store (`Stack.Explained`).
-/

namespace Watch

namespace Stack

/--
A journal, the latest exchange first, explains a stack: what every slot holds was fetched, and every
store goes to a location that was fetched before. The receiver is in no slot and in no store.
-/
structure Explained (stack : Stack) (journal : List Exchange) : Prop where
  slots : ∀ location value, .slot location value ∈ stack.operands →
    location ≠ .this ∧ ⟨.fetch location, .ok value⟩ ∈ journal
  stores : ∀ later location value answer earlier,
    journal = later ++ ⟨.store location value, answer⟩ :: earlier →
      location ≠ .this ∧ ∃ fetched, ⟨.fetch location, .ok fetched⟩ ∈ earlier

theorem explained_empty (limit : Nat) : (empty limit).Explained [] where
  slots := by
    intro location value member
    cases member
  stores := by
    intro later location value answer earlier journalEq
    simp at journalEq

/-- Exchanges that are accounted for are explained after what was explained before. -/
theorem Explained.append {stack after : Stack} {journal exchanges : List Exchange}
    (explained : stack.Explained journal)
    (accounted : Evaluation.Accounted stack.Holds stack exchanges after) :
    after.Explained (exchanges ++ journal) where
  slots := by
    intro location value member
    rcases accounted.slots location value member with before | ⟨notThis, fetched⟩
    · rcases explained.slots location value before with ⟨notThis, fetched⟩
      exact ⟨notThis, List.mem_append_right _ fetched⟩
    · exact ⟨notThis, List.mem_append_left _ fetched⟩
  stores := by
    intro later location value answer earlier journalEq
    -- The store is one of the new exchanges, or it was in the journal.
    rcases List.append_eq_append_iff.1 journalEq with ⟨between, rfl, oldEq⟩ | ⟨between, rfl, newEq⟩
    · exact explained.stores between location value answer earlier oldEq
    · rcases List.cons_eq_append_iff.1 newEq with ⟨rfl, oldEq⟩ | ⟨inside, rfl, rfl⟩
      · exact explained.stores [] location value answer earlier oldEq
      · rcases accounted.stores ⟨.store location value, answer⟩ (by simp) location value rfl with
          ⟨old, held⟩
        rcases explained.slots location old held with ⟨notThis, fetched⟩
        exact ⟨notThis, old, List.mem_append_right _ fetched⟩

end Stack

namespace Run

variable {State : Type} {limits : Limits} {program : Program} {target : Target State}

/-- The exchanges that a step of a run may write down. -/
inductive Writes (program : Program) (run after : Run) : List Exchange → Prop where
  /-- No instruction was executed. -/
  | nothing (kept : run.stack.KeepsSlots after.stack) : Writes program run after []
  /-- They are those of an instruction. -/
  | instruction {instruction : Instruction} {outcome : Except EvaluationError Nat}
      {exchanges : List Exchange} (found : program[run.place]? = some instruction)
      (reaches : (instruction.kind.execute program.size run.place run.stack).Reaches exchanges
        (outcome, after.stack)) : Writes program run after exchanges

theorem keepsSlots_finish (run : Run) (offset : UInt64) :
    run.stack.KeepsSlots (run.finish offset).stack := by
  rw [finish]
  split
  · intro location value member
    cases member
  · exact .refl _

theorem poll_journaled {state after : State} {cancelled : Bool} (journal : List Exchange)
    (polled : target.poll state = (cancelled, after)) :
    target.journaled.poll (state, journal) = (cancelled, after, journal) := by
  simp only [Target.journaled, polled]

theorem poll_of_journaled {state : State} {journal : List Exchange} {cancelled : Bool}
    {after : State × List Exchange}
    (polled : target.journaled.poll (state, journal) = (cancelled, after)) :
    target.poll state = (cancelled, after.1) ∧ after.2 = journal := by
  cases polled
  exact ⟨rfl, rfl⟩

theorem perform_journaled {Result : Type} {action : Action Result} {state after : State}
    {result : Result} (journal : List Exchange)
    (performed : action.perform target state = (result, after)) :
    ∃ exchanges, action.Reaches exchanges result ∧
      action.perform target.journaled (state, journal) = (result, after, exchanges ++ journal) := by
  have reaches := action.reaches_perform target state
  rw [performed] at reaches
  exact ⟨_, reaches, by rw [Action.perform_journaled_eq, performed]⟩

/-- A journal does not change what a step does; the step puts its exchanges in front of it. -/
theorem Advances.journaled {run next : Run} {state after : State}
    (advances : Advances limits program target run state next after) (journal : List Exchange) :
    ∃ exchanges, Writes program run next exchanges ∧
      Advances limits program target.journaled run (state, journal) next
        (after, exchanges ++ journal) := by
  cases advances with
  | cancelled polled =>
      exact ⟨[], .nothing (.refl _), .cancelled (poll_journaled journal polled)⟩
  | finished polled ended =>
      exact ⟨[], .nothing (run.keepsSlots_finish _),
        .finished (poll_journaled journal polled) ended⟩
  | limited polled found spent =>
      exact ⟨[], .nothing (.refl _), .limited (poll_journaled journal polled) found spent⟩
  | executed polled found allowed performed =>
      rcases perform_journaled journal performed with ⟨exchanges, reaches, performed⟩
      exact ⟨exchanges, .instruction found reaches,
        .executed (poll_journaled journal polled) found allowed performed⟩
  | failed polled found allowed performed =>
      rcases perform_journaled journal performed with ⟨exchanges, reaches, performed⟩
      exact ⟨exchanges, .instruction found reaches,
        .failed (poll_journaled journal polled) found allowed performed⟩

theorem suffix_advance (run : Run) (state : State) (journal : List Exchange) :
    journal <:+ (run.advance limits program target.journaled (state, journal)).2.2 := by
  rcases (advances_advance run state).journaled journal with ⟨exchanges, -, advances⟩
  rw [advances.advance_eq]
  exact List.suffix_append _ _

theorem suffix_step (run : Run) (before : State × List Exchange) :
    before.2 <:+ (run.step limits program target.journaled before).2.2 := by
  cases ended : run.status.isTerminal with
  | true => simp only [step_of_isTerminal ended, List.suffix_rfl]
  | false =>
      rw [step_of_not_isTerminal ended]
      exact suffix_advance run before.1 before.2

theorem step_journaled (run : Run) (state : State) (journal : List Exchange) :
    ∃ exchanges, Writes program run (run.step limits program target state).1 exchanges ∧
      run.step limits program target.journaled (state, journal) =
        ((run.step limits program target state).1, (run.step limits program target state).2,
          exchanges ++ journal) := by
  cases ended : run.status.isTerminal with
  | true =>
      rw [step_of_isTerminal ended, step_of_isTerminal ended]
      exact ⟨[], .nothing (.refl _), rfl⟩
  | false =>
      rw [step_of_not_isTerminal ended, step_of_not_isTerminal ended]
      rcases (advances_advance run state).journaled journal with ⟨exchanges, writes, advances⟩
      exact ⟨exchanges, writes, advances.advance_eq⟩

namespace Writes

variable {run next : Run} {exchanges : List Exchange}

theorem accounted (writes : Writes program run next exchanges) :
    Evaluation.Accounted run.stack.Holds run.stack exchanges next.stack := by
  cases writes with
  | nothing kept => exact .of_noStore kept (by simp)
  | instruction found reaches => exact InstructionKind.accounted_execute reaches

theorem isFetch_eq_false (writes : Writes program run next exchanges) {instruction : Instruction}
    (found : program[run.place]? = some instruction) (isNoLook : instruction.kind.isLook = false) :
    ∀ exchange ∈ exchanges, exchange.call.isFetch = false := by
  cases writes with
  | nothing kept => simp
  | instruction foundToo reaches =>
      cases Option.some.inj (found.symm.trans foundToo)
      exact InstructionKind.isFetch_execute isNoLook reaches

end Writes

/-- The calls of a run and their answers after a number of steps, the latest first. -/
def journal (limits : Limits) (program : Program) (target : Target State) (state : State)
    (count : Nat) : List Exchange :=
  (after limits program target.journaled (state, []) count).2.2

theorem after_journaled (state : State) (count : Nat) :
    after limits program target.journaled (state, []) count =
      ((after limits program target state count).1, (after limits program target state count).2,
        journal limits program target state count) := by
  induction count with
  | zero => rfl
  | succ count ih =>
      rcases step_journaled (after limits program target state count).1
        (after limits program target state count).2 (journal limits program target state count)
        with ⟨exchanges, -, stepEq⟩
      rw [journal, after_succ, after_succ, ih, stepEq]

theorem journal_succ (state : State) (count : Nat) :
    ∃ exchanges, Writes program (after limits program target state count).1
        (after limits program target state (count + 1)).1 exchanges ∧
      journal limits program target state (count + 1) =
        exchanges ++ journal limits program target state count := by
  rcases step_journaled (after limits program target state count).1
    (after limits program target state count).2 (journal limits program target state count)
    with ⟨exchanges, writes, stepEq⟩
  refine ⟨exchanges, writes, ?_⟩
  rw [journal, after_succ, after_journaled, stepEq]

/-- All calls of a run and their answers, in the order in which they were made. -/
def transcript (limits : Limits) (program : Program) (target : Target State) (state : State) :
    List Exchange :=
  ((start limits).toEnd limits program target.journaled (state, [])).2.2.reverse

/-- A run that has ended has written down its transcript. -/
theorem transcript_of_isTerminal {state : State} {count : Nat}
    (ended : (after limits program target state count).1.status.isTerminal = true) :
    transcript limits program target state =
      (journal limits program target state count).reverse := by
  have endedToo : (after limits program target.journaled (state, []) count).1.status.isTerminal =
      true := by
    rwa [after_journaled]
  rw [transcript, toEnd_of_isTerminal endedToo, journal]

/-- What a run has written down stays written. -/
theorem suffix_journal {count later : Nat} (le : count ≤ later) (state : State) :
    journal limits program target state count <:+ journal limits program target state later := by
  induction le with
  | refl => exact List.suffix_rfl
  | step _ ih => exact ih.trans (suffix_step _ _)

theorem mem_transcript {state : State} {count : Nat} {exchange : Exchange}
    (member : exchange ∈ journal limits program target state count) :
    exchange ∈ transcript limits program target state := by
  have ended : (after limits program target state
      (max count (limits.maxSteps.toNat + 1))).1.status.isTerminal = true := by
    rw [after_eq_of_le (isTerminal_after_maxSteps state) (Nat.le_max_right _ _)]
    exact isTerminal_after_maxSteps state
  rw [transcript_of_isTerminal ended, List.mem_reverse]
  exact (suffix_journal (Nat.le_max_left _ _) state).subset member

theorem explained_after (state : State) (count : Nat) :
    (after limits program target state count).1.stack.Explained
      (journal limits program target state count) := by
  induction count with
  | zero => exact Stack.explained_empty _
  | succ count ih =>
      rcases journal_succ state count with ⟨exchanges, writes, journalEq⟩
      rw [journalEq]
      exact ih.append writes.accounted

/--
The journal of a run explains it. Writing the journal changes neither the run nor the suspended
program, whatever that answers. After any number of steps every slot on the stack holds what a fetch
of exactly its location was answered with, and every store went to a location other than the
receiver that was fetched before it. A step adds the exchanges of one instruction: no call follows
a store there, so that there is at most one, and only the instructions that put a local variable,
the receiver, a field, a static field or an element on the stack fetch.
-/
theorem journal_explains (limits : Limits) (program : Program) (target : Target State)
    (state : State) (count : Nat) :
    let run := (after limits program target state count).1
    let written := journal limits program target state count
    after limits program target.journaled (state, []) count =
        (run, (after limits program target state count).2, written) ∧
      (∀ location value, .slot location value ∈ run.stack.operands →
        ⟨.fetch location, .ok value⟩ ∈ written) ∧
      (∀ later location value answer earlier,
        written = later ++ ⟨.store location value, answer⟩ :: earlier →
          location ≠ .this ∧ ∃ fetched, ⟨.fetch location, .ok fetched⟩ ∈ earlier) ∧
      ∃ exchanges, journal limits program target state (count + 1) = exchanges ++ written ∧
        (∀ exchange ∈ exchanges.tail, exchange.call.isStore = false) ∧
        ∀ instruction, program[run.place]? = some instruction →
          instruction.kind.isLook = false →
            ∀ exchange ∈ exchanges, exchange.call.isFetch = false := by
  intro run written
  have explained : run.stack.Explained written := explained_after state count
  rcases journal_succ state count with ⟨exchanges, writes, journalEq⟩
  refine ⟨after_journaled state count, ?_, explained.stores, exchanges, journalEq, ?_, ?_⟩
  · intro location value member
    exact (explained.slots location value member).2
  · exact writes.accounted.storeLast
  · intro instruction found isNoLook
    exact writes.isFetch_eq_false found isNoLook

end Run

end Watch
