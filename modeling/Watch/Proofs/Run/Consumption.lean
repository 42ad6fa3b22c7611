import Watch.Frame.Invocation
import Watch.Proofs.Evaluation.Consumption
import Watch.Proofs.Run.Step

/-!
# The stack of a run that is faulted

The step in which a run is faulted leaves the run where it was, and of the values on the stack it
takes some from the top and changes nothing below (`Run.values_prefix_of_faulted`). This holds of an
instruction that fails, of the check at the end of the program, and of the steps that execute
nothing.
-/

namespace Watch

namespace Run

variable {State : Type} {limits : Limits} {program : Program} {target : Target State}

theorem Advances.values_of_faulted {run next : Run} {state after : State} {fault : Fault}
    (advances : Advances limits program target run state next after)
    (faulted : next.status = .faulted fault) :
    next.place = run.place ∧ next.stack.values <:+ run.stack.values := by
  cases advances with
  | cancelled polled => exact ⟨rfl, List.suffix_rfl⟩
  | finished polled ended =>
      rw [finish] at faulted ⊢
      split at faulted
      · cases faulted
      · exact ⟨rfl, List.suffix_rfl⟩
  | limited polled found spent => exact ⟨rfl, List.suffix_rfl⟩
  | executed polled found allowed performed => cases faulted
  | @failed polledState _ instruction error _ polled found allowed performed =>
      have taken := (instruction.kind.consumesOnFailure_execute program.size run.place
        run.stack).perform target polledState
      rw [performed] at taken
      exact ⟨rfl, taken error rfl⟩

/--
The step in which a run is faulted, whatever the suspended program answers. The run stays at its
place, and the values on the stack, from bottom to top, are the first of those that were there:
operands may have been taken, but none was added, moved or changed.
-/
theorem values_prefix_of_faulted (limits : Limits) (program : Program) (target : Target State)
    (state : State) (count : Nat) :
    let run := (after limits program target state count).1
    let next := (after limits program target state (count + 1)).1
    ∀ fault, next.status = .faulted fault →
      next.place = run.place ∧
        next.stack.toList.map Operand.value <+: run.stack.toList.map Operand.value := by
  intro run next fault faulted
  have kept : next.place = run.place ∧ next.stack.values <:+ run.stack.values := by
    cases ended : run.status.isTerminal with
    | true =>
        have same : next = run := congrArg Prod.fst (step_of_isTerminal ended _)
        rw [same]
        exact ⟨rfl, List.suffix_rfl⟩
    | false =>
        have advances : Advances limits program target run _ _ _ :=
          advances_advance run (after limits program target state count).2
        rw [← step_of_not_isTerminal ended] at advances
        exact advances.values_of_faulted faulted
  rw [Stack.toList, Stack.toList, List.map_reverse, List.map_reverse, List.reverse_prefix]
  exact kept

/-- A settled connective with a target out of the program: its operand is a slot no more. -/
theorem values_prefix_of_faulted_jump :
    let program : Program :=
      #[⟨.pushLiteral (.int 7), 0⟩, ⟨.pushLocal "flag", 4⟩, ⟨.shortCircuit .and 9, 9⟩]
    let state : Suspended := ⟨Frame.empty.withLocal "flag" (.boolean false), false⟩
    let run := (after {} program Frame.target state 2).1
    let next := (after {} program Frame.target state 3).1
    run.stack.toList = [.plain (.int 7), .slot (.local "flag") (.boolean false)] ∧
      next.stack.toList = [.plain (.int 7), .plain (.boolean false)] ∧
      next.status = .faulted (.ofError (.invalidJump 9 3) 9) ∧
      next.place = run.place ∧
      next.stack.toList.map Operand.value <+: run.stack.toList.map Operand.value := by
  intro program state run next
  have faulted : next.status = .faulted (.ofError (.invalidJump 9 3) 9) := by decide +kernel
  refine ⟨by decide +kernel, by decide +kernel, faulted, ?_⟩
  exact values_prefix_of_faulted {} program Frame.target state 2 _ faulted

end Run

end Watch
