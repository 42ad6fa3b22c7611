import Watch.Proofs.Run.Journal

/-!
# Runs over two suspended programs

The states of two suspended programs may be related in such a way that calls of some kind get the
same answers from both (`Target.Simulates`). A run that makes no other calls cannot tell the two
apart: over the other suspended program every step of it is the same and is written down alike
(`Run.after_simulated`).
-/

namespace Watch

variable {State Other : Type}

namespace Target

/--
As long as their states are related, two suspended programs give the same answers to the calls that
are allowed, and the same word of the user.
-/
structure Simulates (target : Target State) (other : Target Other) (allowed : Call → Prop)
    (related : State → Other → Prop) : Prop where
  answer : ∀ {call state twin}, allowed call → related state twin →
    (other.answer call twin).1 = (target.answer call state).1 ∧
      related (target.answer call state).2 (other.answer call twin).2
  poll : ∀ {state twin}, related state twin →
    (other.poll twin).1 = (target.poll state).1 ∧
      related (target.poll state).2 (other.poll twin).2

namespace Simulates

variable {target : Target State} {other : Target Other} {allowed : Call → Prop}
  {related : State → Other → Prop} {Result : Type} {before after : State × List Exchange}
  {twin : Other}

theorem perform (simulates : target.Simulates other allowed related) (action : Action Result)
    {state : State} (isRelated : related state twin)
    (within : ∀ exchange ∈ action.exchanges target state, allowed exchange.call) :
    (action.perform other twin).1 = (action.perform target state).1 ∧
      action.exchanges other twin = action.exchanges target state ∧
      related (action.perform target state).2 (action.perform other twin).2 := by
  induction action generalizing state twin with
  | done result => exact ⟨rfl, rfl, isRelated⟩
  | ask call next ih =>
      have isAllowed : allowed call :=
        within _ (List.mem_append_right _ List.mem_cons_self)
      rcases simulates.answer isAllowed isRelated with ⟨answerEq, relatedAfter⟩
      have rest := ih (target.answer call state).1 relatedAfter fun exchange member =>
        within exchange (List.mem_append_left _ member)
      simp only [Action.perform, Action.exchanges, answerEq]
      exact ⟨rest.1, by rw [rest.2.1], rest.2.2⟩

theorem perform_journaled (simulates : target.Simulates other allowed related)
    {action : Action Result} {result : Result}
    (performed : action.perform target.journaled before = (result, after))
    (isRelated : related before.1 twin) (within : ∀ exchange ∈ after.2, allowed exchange.call) :
    ∃ twinAfter, action.perform other.journaled (twin, before.2) = (result, twinAfter, after.2) ∧
      related after.1 twinAfter := by
  rcases before with ⟨state, journal⟩
  rw [Action.perform_journaled_eq] at performed
  cases performed
  rcases simulates.perform action isRelated fun exchange member =>
    within exchange (List.mem_append_left _ member) with ⟨resultEq, exchangesEq, relatedAfter⟩
  refine ⟨_, ?_, relatedAfter⟩
  rw [Action.perform_journaled_eq, resultEq, exchangesEq]

theorem poll_journaled (simulates : target.Simulates other allowed related) {cancelled : Bool}
    (polled : target.journaled.poll before = (cancelled, after))
    (isRelated : related before.1 twin) :
    ∃ twinAfter, other.journaled.poll (twin, before.2) = (cancelled, twinAfter, after.2) ∧
      related after.1 twinAfter := by
  cases polled
  rcases simulates.poll isRelated with ⟨wordEq, relatedAfter⟩
  exact ⟨_, by rw [← wordEq]; rfl, relatedAfter⟩

end Simulates

end Target

namespace Run

variable {limits : Limits} {program : Program} {target : Target State} {other : Target Other}
  {allowed : Call → Prop} {related : State → Other → Prop}

/-- A step whose calls are allowed is the same over both suspended programs. -/
theorem Advances.simulated {run next : Run} {before after : State × List Exchange} {twin : Other}
    (advances : Advances limits program target.journaled run before next after)
    (simulates : target.Simulates other allowed related) (isRelated : related before.1 twin)
    (within : ∀ exchange ∈ after.2, allowed exchange.call) :
    ∃ twinAfter,
      Advances limits program other.journaled run (twin, before.2) next (twinAfter, after.2) ∧
        related after.1 twinAfter := by
  cases advances with
  | cancelled polled =>
      rcases simulates.poll_journaled polled isRelated with ⟨twinAfter, polled, relatedAfter⟩
      exact ⟨twinAfter, .cancelled polled, relatedAfter⟩
  | finished polled ended =>
      rcases simulates.poll_journaled polled isRelated with ⟨twinAfter, polled, relatedAfter⟩
      exact ⟨twinAfter, .finished polled ended, relatedAfter⟩
  | limited polled found spent =>
      rcases simulates.poll_journaled polled isRelated with ⟨twinAfter, polled, relatedAfter⟩
      exact ⟨twinAfter, .limited polled found spent, relatedAfter⟩
  | executed polled found notSpent performed =>
      rcases simulates.poll_journaled polled isRelated with ⟨_, polled, isRelated⟩
      rcases simulates.perform_journaled performed isRelated within with
        ⟨twinAfter, performed, relatedAfter⟩
      exact ⟨twinAfter, .executed polled found notSpent performed, relatedAfter⟩
  | failed polled found notSpent performed =>
      rcases simulates.poll_journaled polled isRelated with ⟨_, polled, isRelated⟩
      rcases simulates.perform_journaled performed isRelated within with
        ⟨twinAfter, performed, relatedAfter⟩
      exact ⟨twinAfter, .failed polled found notSpent performed, relatedAfter⟩

theorem step_simulated (simulates : target.Simulates other allowed related) (run : Run)
    {before : State × List Exchange} {twin : Other} (isRelated : related before.1 twin)
    (within : ∀ exchange ∈ (run.step limits program target.journaled before).2.2,
      allowed exchange.call) :
    ∃ twinAfter, run.step limits program other.journaled (twin, before.2) =
        ((run.step limits program target.journaled before).1, twinAfter,
          (run.step limits program target.journaled before).2.2) ∧
      related (run.step limits program target.journaled before).2.1 twinAfter := by
  cases ended : run.status.isTerminal with
  | true =>
      rw [step_of_isTerminal ended, step_of_isTerminal ended]
      exact ⟨twin, rfl, isRelated⟩
  | false =>
      rw [step_of_not_isTerminal ended] at within ⊢
      rw [step_of_not_isTerminal ended]
      rcases (advances_advance run before).simulated simulates isRelated within with
        ⟨twinAfter, advances, relatedAfter⟩
      exact ⟨twinAfter, advances.advance_eq, relatedAfter⟩

/--
A run whose calls are allowed is the same over both suspended programs after any number of steps,
and so is what it has written down.
-/
theorem after_simulated (simulates : target.Simulates other allowed related) {state : State}
    {twin : Other} (isRelated : related state twin) (count : Nat)
    (within : ∀ exchange ∈ journal limits program target state count, allowed exchange.call) :
    (after limits program other twin count).1 = (after limits program target state count).1 ∧
      journal limits program other twin count = journal limits program target state count ∧
      related (after limits program target state count).2
        (after limits program other twin count).2 := by
  have same : ∃ twinAfter, after limits program other.journaled (twin, []) count =
        ((after limits program target.journaled (state, []) count).1, twinAfter,
          (after limits program target.journaled (state, []) count).2.2) ∧
      related (after limits program target.journaled (state, []) count).2.1 twinAfter := by
    induction count with
    | zero => exact ⟨twin, rfl, isRelated⟩
    | succ count ih =>
        have earlier : ∀ exchange ∈ journal limits program target state count,
            allowed exchange.call := fun exchange member =>
          within exchange ((suffix_journal (Nat.le_succ count) state).subset member)
        rcases ih earlier with ⟨twinAfter, afterEq, relatedAfter⟩
        simp only [after_succ, afterEq]
        exact step_simulated simulates _ relatedAfter within
  rcases same with ⟨twinAfter, afterEq, relatedAfter⟩
  rw [after_journaled, after_journaled] at afterEq
  rw [after_journaled] at relatedAfter
  simp only [Prod.mk.injEq] at afterEq
  rcases afterEq with ⟨runEq, rfl, journalEq⟩
  exact ⟨runEq, journalEq, relatedAfter⟩

end Run

end Watch
