import Watch.Frame.Invocation
import Watch.Proofs.Run.Block
import Watch.Proofs.Run.Termination

/-!
# Programs that only jump forward

Where every jump leads behind its own instruction, so does every instruction
(`InstructionKind.LeadsTo.lt`), and a run passes each place at most once. The invariant is that all
instructions that were executed stand before the place of a run that has not ended
(`Run.executedPlaces_before`). There are no more of them than places before that one
(`Run.steps_le_place`), so that a run that may execute as many instructions as the program has is
never refused one.

The main statement is `Run.passes_forward`.
-/

namespace Watch

/-- A program whose jumps all lead behind their own instructions. -/
def Program.JumpsForward (program : Program) : Prop :=
  ∀ (place : Nat) (inside : place < program.size), ∀ target ∈ program[place].kind.target?,
    place < target.toNat

-- The instance is spelled out, so that no search goes through all words of 64 bits instead.
instance (program : Program) : Decidable program.JumpsForward :=
  @Nat.decidableBallLT program.size
    (fun place inside => ∀ target ∈ program[place].kind.target?, place < target.toNat)
    fun place inside => Option.decidableForallMem program[place].kind.target?

theorem InstructionKind.LeadsTo.lt {kind : InstructionKind} {length place next : Nat}
    (leads : kind.LeadsTo length place next)
    (forward : ∀ target ∈ kind.target?, place < target.toNat) : place < next := by
  rcases leads with rfl | ⟨target, isTarget, -, rfl⟩
  · exact Nat.lt_succ_self place
  · exact forward target isTarget

/-- Both errors are of one class, but their messages differ from the first letter on. -/
theorem EvaluationError.message_unbalancedStack_ne (depth : Nat) (limit : UInt64) :
    (unbalancedStack depth).message ≠ (stepLimit limit).message := by
  change s!"Evaluation ended with {depth} values on the stack, expected 1" ≠
    s!"Step limit of {limit.toNat} exceeded"
  refine ne_of_apply_ne (fun text => text.toList.head?) ?_
  simp [toString]

namespace Run

variable {State : Type} {limits : Limits} {program : Program} {target : Target State}
  {state : State} {count : Nat}

/-! ## Where an instruction leads -/

/-- An instruction of a program that only jumps forward leads to a place behind it. -/
theorem Advances.place_lt {run next : Run} {before after : State}
    (advances : Advances limits program target run before next after)
    (forward : program.JumpsForward) (going : next.status.isTerminal = false) :
    run.place < next.place := by
  rcases advances.exists_executed going with ⟨_, _, place, _, -, found, -, performed, rfl⟩
  rcases Array.getElem?_eq_some_iff.1 found with ⟨inside, rfl⟩
  have leads : program[run.place].kind.LeadsTo program.size run.place place :=
    (program[run.place].kind.returns_leadsTo _ _).of_perform performed
  exact leads.lt (forward run.place inside)

theorem steps_le_place (forward : program.JumpsForward)
    (going : (after limits program target state count).1.status.isTerminal = false) :
    (after limits program target state count).1.steps ≤
      (after limits program target state count).1.place := by
  induction count with
  | zero => exact Nat.le_refl _
  | succ count ih =>
      have goingBefore := going_of_going_succ going
      have passed := (advances_after goingBefore).place_lt forward going
      have counted := (advances_after goingBefore).steps_eq going
      have before := ih goingBefore
      omega

/-! ## The instructions that were executed -/

/--
The places of the instructions that were executed in a number of steps from the start, whether they
failed or not, the last one first.
-/
def executedPlaces (limits : Limits) (program : Program) (target : Target State) (state : State) :
    Nat → List Nat
  | 0 => []
  | count + 1 =>
    let run := (after limits program target state count).1
    let next := (after limits program target state (count + 1)).1
    let places := executedPlaces limits program target state count
    if run.steps < next.steps then run.place :: places else places

theorem Advances.steps_eq_or {run next : Run} {before after : State}
    (advances : Advances limits program target run before next after) :
    next.steps = run.steps ∨ next.steps = run.steps + 1 := by
  cases advances with
  | cancelled polled => exact .inl rfl
  | finished polled ended => exact .inl (steps_finish _ _)
  | limited polled found spent => exact .inl rfl
  | executed polled found allowed performed => exact .inr rfl
  | failed polled found allowed performed => exact .inr rfl

/-- What a step does to the count of instructions and to the list of their places. -/
theorem executedPlaces_succ (limits : Limits) (program : Program) (target : Target State)
    (state : State) (count : Nat) :
    let run := (after limits program target state count).1
    let next := (after limits program target state (count + 1)).1
    let places := executedPlaces limits program target state
    next.steps = run.steps ∧ places (count + 1) = places count ∨
      run.status.isTerminal = false ∧ next.steps = run.steps + 1 ∧
        places (count + 1) = run.place :: places count := by
  intro run next places
  have unchanged (same : next.steps = run.steps) : places (count + 1) = places count :=
    if_neg (Nat.not_lt.2 same.le)
  cases ended : run.status.isTerminal with
  | true =>
      have same : next.steps = run.steps := by
        simp only [next, after_succ, step_of_isTerminal ended, run]
      exact .inl ⟨same, unchanged same⟩
  | false =>
      have advances : Advances limits program target run _ next _ := advances_after ended
      rcases advances.steps_eq_or with same | more
      · exact .inl ⟨same, unchanged same⟩
      · exact .inr ⟨rfl, more, if_pos (more ▸ Nat.lt_succ_self run.steps)⟩

theorem length_executedPlaces (limits : Limits) (program : Program) (target : Target State)
    (state : State) (count : Nat) :
    (executedPlaces limits program target state count).length =
      (after limits program target state count).1.steps := by
  induction count with
  | zero => rfl
  | succ count ih =>
      rcases executedPlaces_succ limits program target state count with
        ⟨same, places⟩ | ⟨-, more, places⟩
      · rw [places, same, ih]
      · rw [places, more, List.length_cons, ih]

/--
The places of the instructions that were executed ascend, and all of them are before the place of a
run that has not ended.
-/
theorem executedPlaces_before (forward : program.JumpsForward) (count : Nat) :
    (executedPlaces limits program target state count).Pairwise (· > ·) ∧
      ((after limits program target state count).1.status.isTerminal = false →
        ∀ place ∈ executedPlaces limits program target state count,
          place < (after limits program target state count).1.place) := by
  induction count with
  | zero => exact ⟨.nil, by rintro - _ ⟨⟩⟩
  | succ count ih =>
      rcases ih with ⟨ascending, before⟩
      rcases executedPlaces_succ limits program target state count with
        ⟨same, places⟩ | ⟨goingBefore, -, places⟩
      · rw [places]
        refine ⟨ascending, fun going => ?_⟩
        have counted := (advances_after (going_of_going_succ going)).steps_eq going
        omega
      · rw [places]
        refine ⟨ascending.cons (before goingBefore), fun going place member => ?_⟩
        have passed := (advances_after goingBefore).place_lt forward going
        rcases List.mem_cons.1 member with rfl | earlier
        · exact passed
        · exact (before goingBefore place earlier).trans passed

/-! ## Enough steps -/

/-- As long as it may execute an instruction and is not cancelled, a run does execute it. -/
theorem Advances.steps_eq_of_allowed {run next : Run} {before after : State}
    (advances : Advances limits program target run before next after)
    (inside : run.place < program.size) (allowed : run.steps < limits.maxSteps.toNat)
    (noCancel : (target.poll before).1 = false) : next.steps = run.steps + 1 := by
  cases advances with
  | cancelled polled =>
      rw [polled] at noCancel
      contradiction
  | finished polled ended =>
      have beyond := Array.getElem?_eq_none_iff.1 ended
      omega
  | limited polled found spent => omega
  | executed polled found allowed performed => rfl
  | failed polled found allowed performed => rfl

/--
As long as it may execute the instruction at its place, if there is one, a run is not refused it. An
instruction may still fail with the very error of a refusal, when the suspended program answers with
it; but that instruction was executed, and is counted.
-/
theorem Advances.ne_fault_stepLimit {run next : Run} {before after : State}
    (advances : Advances limits program target run before next after)
    (allowed : run.place < program.size → run.steps < limits.maxSteps.toNat) (offset : UInt64) :
    next ≠ run.fault (.stepLimit limits.maxSteps) offset := by
  cases advances with
  | cancelled polled => simp [fault, Fault.ofError, EvaluationError.kind]
  | finished polled ended =>
      rw [finish]
      split
      · simp [fault]
      · simp [fault, Fault.ofError, EvaluationError.message_unbalancedStack_ne]
  | limited polled found spent =>
      rcases Array.getElem?_eq_some_iff.1 found with ⟨inside, -⟩
      have more := allowed inside
      omega
  | executed polled found enough performed => simp [fault]
  | failed polled found enough performed => simp [fault]

/--
A run of a program whose jumps all lead forward, whatever the suspended program answers and whenever
the user gives up. A step that executes an instruction without an error, so that the run is under
way afterwards, leads to a place behind it. No instruction is executed twice, and as many are as the
run counts. If the run may execute as many instructions as the program has, none is ever refused: as
long as the run has not ended, it may execute the instruction it stands at, does so unless the user
has given up, and does not end for want of steps.
-/
theorem passes_forward (limits : Limits) (program : Program) (forward : program.JumpsForward)
    (target : Target State) (state : State) :
    (∀ count, (after limits program target state (count + 1)).1.status = .running →
      (after limits program target state count).1.place <
        (after limits program target state (count + 1)).1.place) ∧
      (∀ count, (executedPlaces limits program target state count).Nodup ∧
        (executedPlaces limits program target state count).length =
          (after limits program target state count).1.steps) ∧
      (program.size ≤ limits.maxSteps.toNat → ∀ count,
        let run := (after limits program target state count).1
        let next := (after limits program target state (count + 1)).1
        run.status.isTerminal = false →
          (run.place < program.size → run.steps < limits.maxSteps.toNat ∧
            ((target.poll (after limits program target state count).2).1 = false →
              next.steps = run.steps + 1)) ∧
            ∀ offset, next ≠ run.fault (.stepLimit limits.maxSteps) offset) := by
  refine ⟨?_, ?_, ?_⟩
  · intro count isRunning
    have going : (after limits program target state (count + 1)).1.status.isTerminal = false := by
      rw [isRunning]
      rfl
    exact (advances_after (going_of_going_succ going)).place_lt forward going
  · intro count
    have ascending : (executedPlaces limits program target state count).Pairwise (· > ·) :=
      (executedPlaces_before forward count).1
    exact ⟨ascending.imp Nat.ne_of_gt, length_executedPlaces limits program target state count⟩
  · intro enough count run next going
    have stepsLe : run.steps ≤ run.place := steps_le_place forward going
    have advances : Advances limits program target run _ next _ := advances_after going
    have allowed (inside : run.place < program.size) : run.steps < limits.maxSteps.toNat := by
      omega
    exact ⟨fun inside => ⟨allowed inside, advances.steps_eq_of_allowed inside (allowed inside)⟩,
      advances.ne_fault_stepLimit allowed⟩

/-- A jump to the next place and one to the end, with as many steps as there are instructions. -/
theorem passes_forward_exact :
    let program : Program :=
      #[⟨.jump 1, 0⟩, ⟨.pushLiteral (.boolean true), 0⟩, ⟨.shortCircuit .or 3, 5⟩]
    let limits : Limits := ⟨1, 3⟩
    let state : Suspended := ⟨Frame.empty, false⟩
    program.JumpsForward ∧ program.size ≤ limits.maxSteps.toNat ∧
      executedPlaces limits program Frame.target state 4 = [2, 1, 0] ∧ [2, 1, 0].Nodup ∧
      (after limits program Frame.target state 2).1.place <
        (after limits program Frame.target state 3).1.place ∧
      (after limits program Frame.target state 2).1.steps < limits.maxSteps.toNat ∧
      (after limits program Frame.target state 4).1 ≠
        (after limits program Frame.target state 3).1.fault (.stepLimit limits.maxSteps) 5 ∧
      (after limits program Frame.target state 4).1.status = .completed (.boolean true) := by
  intro program limits state
  have forward : program.JumpsForward := by decide
  rcases passes_forward limits program forward Frame.target state with ⟨ascends, once, allows⟩
  have places : executedPlaces limits program Frame.target state 4 = [2, 1, 0] := by
    decide +kernel
  exact ⟨forward, by decide, places, places ▸ (once 4).1, ascends 2 (by decide +kernel),
    ((allows (by decide) 2 (by decide +kernel)).1 (by decide +kernel)).1,
    (allows (by decide) 3 (by decide +kernel)).2 5, by decide +kernel⟩

end Run

end Watch
