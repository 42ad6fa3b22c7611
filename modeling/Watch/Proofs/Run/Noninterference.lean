import Watch.Proofs.Frame.Cells
import Watch.Proofs.Run.Replay
import Watch.Proofs.Run.Simulation

/-!
# Runs that do not interfere

A run depends on the frame only through what it fetches there first. Frames that agree on some
locations cannot be told apart by calls about these locations (`Frame.simulates_target`), and all
calls of a run are about locations that it fetches. Where two frames agree on these, the runs over
them are the same.

What a run leaves behind are its stores. Two runs, neither of which stores into a cell that the
other fetches or stores into, may therefore be made one after the other in either order.
-/

namespace Watch

namespace Call

/-- The location that a call fetches. -/
def fetched? : Call → Option Location
  | .fetch location => some location
  | .store .. | .invoke .. => none

end Call

/-- The locations that calls fetch. -/
def fetchesOf (exchanges : List Exchange) : List Location :=
  exchanges.filterMap fun exchange => exchange.call.fetched?

/-- The cells that calls store into. -/
def storedCells (exchanges : List Exchange) : List Cell :=
  (storesOf exchanges).map fun store => store.1.cell

/-- The cells that calls fetch or store into. -/
def touchedCells (exchanges : List Exchange) : List Cell :=
  storedCells exchanges ++ (fetchesOf exchanges).map Location.cell

theorem mem_fetchesOf {exchanges : List Exchange} {location : Location}
    {answer : (Call.fetch location).Answer} (member : ⟨.fetch location, answer⟩ ∈ exchanges) :
    location ∈ fetchesOf exchanges :=
  List.mem_filterMap.2 ⟨_, member, rfl⟩

theorem mem_storesOf_reverse {exchanges : List Exchange} {store : Location × Value} :
    store ∈ storesOf exchanges.reverse ↔ store ∈ storesOf exchanges := by
  simp only [storesOf, List.filterMap_reverse, List.mem_reverse]

theorem mem_storedCells {exchanges : List Exchange} {store : Location × Value}
    (member : store ∈ storesOf exchanges.reverse) : store.1.cell ∈ storedCells exchanges :=
  List.mem_map_of_mem (mem_storesOf_reverse.1 member)

namespace Frame

/-- Frames that agree on some locations give the same answers to calls about these. -/
theorem simulates_target (agreed : Location → Prop) :
    target.Simulates target
      (fun call => ∀ location, call.location? = some location → agreed location)
      (fun state twin =>
        twin.cancelled = state.cancelled ∧ AgreeOn agreed state.frame twin.frame) where
  answer := by
    rintro call state twin within ⟨wordEq, agree⟩
    rcases agree.answer within with ⟨answerEq, agreeAfter⟩
    exact ⟨answerEq, wordEq, agreeAfter⟩
  poll := by
    rintro state twin ⟨wordEq, agree⟩
    exact ⟨wordEq, wordEq, agree⟩

theorem eq_writeAll_of_storeAll {frame after : Frame} {stores : List (Location × Value)}
    (stored : frame.storeAll stores = .ok after) : after = frame.writeAll stores := by
  induction stores generalizing frame with
  | nil =>
      cases stored
      rfl
  | cons first stores ih =>
      simp only [storeAll, List.foldlM_cons, store] at stored ih
      cases fetched : frame.fetch first.1 with
      | error error =>
          rw [fetched] at stored
          cases stored
      | ok old =>
          rw [fetched] at stored
          exact ih stored

end Frame

namespace Run

variable {limits otherLimits : Limits} {program other : Program} {state twin : Suspended}

/-- Every location that a run has called about is one that it fetches. -/
theorem mem_fetchesOf_of_mem_journal {count : Nat} {exchange : Exchange}
    (member : exchange ∈ journal limits program Frame.target state count) {location : Location}
    (about : exchange.call.location? = some location) :
    location ∈ fetchesOf (transcript limits program Frame.target state) := by
  rcases exchange with ⟨call, answer⟩
  cases call with
  | fetch fetched =>
      cases about
      exact mem_fetchesOf (mem_transcript member)
  | store stored value =>
      cases about
      -- A store goes to a location that was fetched before it.
      rcases List.append_of_mem member with ⟨later, earlier, journalEq⟩
      rcases (explained_after state count).stores later location value answer earlier journalEq with
        ⟨-, old, fetched⟩
      have written : ⟨.fetch location, .ok old⟩ ∈ journal limits program Frame.target state count :=
        journalEq ▸ List.mem_append_right _ (List.mem_cons_of_mem _ fetched)
      exact mem_fetchesOf (mem_transcript written)
  | invoke operation operands => cases about

/-- Over a frame that agrees on what a run fetches, the run is the same. -/
theorem after_of_agree (wordEq : twin.cancelled = state.cancelled)
    (agree : ∀ location ∈ fetchesOf (transcript limits program Frame.target state),
      twin.frame.fetch location = state.frame.fetch location) (count : Nat) :
    (after limits program Frame.target twin count).1 =
        (after limits program Frame.target state count).1 ∧
      journal limits program Frame.target twin count =
        journal limits program Frame.target state count := by
  have agreeOn : Frame.AgreeOn (· ∈ fetchesOf (transcript limits program Frame.target state))
      state.frame twin.frame := fun location fetched => (agree location fetched).symm
  rcases after_simulated (Frame.simulates_target _) ⟨wordEq, agreeOn⟩ count
    fun exchange member location about => mem_fetchesOf_of_mem_journal member about with
    ⟨runEq, journalEq, -⟩
  exact ⟨runEq, journalEq⟩

theorem toEnd_of_agree (wordEq : twin.cancelled = state.cancelled)
    (agree : ∀ location ∈ fetchesOf (transcript limits program Frame.target state),
      twin.frame.fetch location = state.frame.fetch location) :
    ((start limits).toEnd limits program Frame.target twin).1 =
        ((start limits).toEnd limits program Frame.target state).1 ∧
      transcript limits program Frame.target twin =
        transcript limits program Frame.target state := by
  rcases after_of_agree wordEq agree (limits.maxSteps.toNat + 1) with ⟨runEq, journalEq⟩
  rw [toEnd_start, toEnd_start, transcript_of_isTerminal (isTerminal_after_maxSteps twin),
    transcript_of_isTerminal (isTerminal_after_maxSteps state), journalEq]
  exact ⟨runEq, rfl⟩

theorem cancelled_toEnd (limits : Limits) (program : Program) (state : Suspended) :
    ((start limits).toEnd limits program Frame.target state).2.cancelled = state.cancelled := by
  rw [toEnd_start]
  exact cancelled_after state _

theorem frame_toEnd (limits : Limits) (program : Program) (state : Suspended) :
    ((start limits).toEnd limits program Frame.target state).2.frame =
      state.frame.writeAll (storesOf (transcript limits program Frame.target state).reverse) :=
  Frame.eq_writeAll_of_storeAll (storeAll_transcript Frame.serves_target state)

/-- A run is the same after another that stores into no cell that it touches. -/
theorem toEnd_of_spared
    (spared : ∀ cell ∈ storedCells (transcript limits program Frame.target state),
      cell ∉ touchedCells (transcript otherLimits other Frame.target state)) :
    let before := ((start limits).toEnd limits program Frame.target state).2
    ((start otherLimits).toEnd otherLimits other Frame.target before).1 =
        ((start otherLimits).toEnd otherLimits other Frame.target state).1 ∧
      transcript otherLimits other Frame.target before =
        transcript otherLimits other Frame.target state := by
  apply toEnd_of_agree (cancelled_toEnd limits program state)
  intro location fetched
  rw [frame_toEnd]
  apply Frame.fetch_writeAll_of_ne
  intro store member same
  have isTouched : location.cell ∈ touchedCells (transcript otherLimits other Frame.target state) :=
    List.mem_append_right _ (List.mem_map_of_mem fetched)
  exact spared _ (mem_storedCells member) (same ▸ isTouched)

/--
A run over a frame is decided by what it fetches there first. Over another frame that gives the same
answers at the locations that the run fetches, every step of it is the same, it makes the same calls
with the same answers, and either frame is changed by the same stores. If of two runs over a frame
neither stores into a cell that the other fetches or stores into, they may be made one after the
other in either order: each of them has the same calls and the same end as without the other, and
the frame is the same in the end.
-/
theorem noninterference (limits otherLimits : Limits) (program other : Program)
    (state : Suspended) :
    let calls := transcript limits program Frame.target state
    let otherCalls := transcript otherLimits other Frame.target state
    let first := (start limits).toEnd limits program Frame.target state
    let second := (start otherLimits).toEnd otherLimits other Frame.target state
    (∀ twin : Suspended, twin.cancelled = state.cancelled →
      (∀ location ∈ fetchesOf calls,
        twin.frame.fetch location = state.frame.fetch location) →
      let twinEnd := (start limits).toEnd limits program Frame.target twin
      (∀ count, (after limits program Frame.target twin count).1 =
          (after limits program Frame.target state count).1 ∧
        journal limits program Frame.target twin count =
          journal limits program Frame.target state count) ∧
        transcript limits program Frame.target twin = calls ∧ twinEnd.1 = first.1 ∧
        state.frame.storeAll (storesOf calls.reverse) = .ok first.2.frame ∧
        twin.frame.storeAll (storesOf calls.reverse) = .ok twinEnd.2.frame) ∧
      ((∀ cell ∈ storedCells calls, cell ∉ touchedCells otherCalls) →
        (∀ cell ∈ storedCells otherCalls, cell ∉ touchedCells calls) →
        let firstLater := (start limits).toEnd limits program Frame.target second.2
        let secondLater := (start otherLimits).toEnd otherLimits other Frame.target first.2
        firstLater.1 = first.1 ∧ transcript limits program Frame.target second.2 = calls ∧
          secondLater.1 = second.1 ∧
          transcript otherLimits other Frame.target first.2 = otherCalls ∧
          firstLater.2 = secondLater.2) := by
  intro calls otherCalls first second
  constructor
  · intro twin wordEq agree twinEnd
    rcases toEnd_of_agree wordEq agree with ⟨endEq, callsEq⟩
    have stored : twin.frame.storeAll
        (storesOf (transcript limits program Frame.target twin).reverse) = .ok twinEnd.2.frame :=
      storeAll_transcript Frame.serves_target twin
    rw [callsEq] at stored
    exact ⟨after_of_agree wordEq agree, callsEq, endEq,
      storeAll_transcript Frame.serves_target state, stored⟩
  · intro spared sparedToo firstLater secondLater
    rcases toEnd_of_spared spared with ⟨secondEq, otherCallsEq⟩
    rcases toEnd_of_spared sparedToo with ⟨firstEq, callsEq⟩
    refine ⟨firstEq, callsEq, secondEq, otherCallsEq, ?_⟩
    have different : ∀ store ∈ storesOf otherCalls.reverse, ∀ later ∈ storesOf calls.reverse,
        store.1.cell ≠ later.1.cell := by
      intro store member later inLater same
      have isTouched : later.1.cell ∈ touchedCells calls :=
        List.mem_append_left _ (mem_storedCells inLater)
      exact sparedToo _ (mem_storedCells member) (same ▸ isTouched)
    have frameEq : firstLater.2.frame = secondLater.2.frame := by
      calc firstLater.2.frame
          = (state.frame.writeAll (storesOf otherCalls.reverse)).writeAll
              (storesOf calls.reverse) := by
            rw [frame_toEnd, callsEq, frame_toEnd]
        _ = (state.frame.writeAll (storesOf calls.reverse)).writeAll
              (storesOf otherCalls.reverse) := Frame.writeAll_comm _ different
        _ = secondLater.2.frame := by
            rw [frame_toEnd otherLimits, otherCallsEq, frame_toEnd limits]
    have wordEq : firstLater.2.cancelled = secondLater.2.cancelled := by
      simp only [firstLater, secondLater, first, second, cancelled_toEnd]
    exact congrArg₂ Suspended.mk frameEq wordEq

/-- A compound assignment and an assignment that share a local variable which both only fetch. -/
theorem noninterference_assignments :
    let program : Program :=
      #[⟨.pushLocal "x", 0⟩, ⟨.pushLocal "y", 5⟩, ⟨.binary ⟨.add, .int, .int, .int, true⟩, 2⟩]
    let other : Program := #[⟨.pushLocal "z", 0⟩, ⟨.pushLocal "y", 4⟩, ⟨.assign .int, 2⟩]
    let frame := ((Frame.empty.withLocal "x" (.int 1)).withLocal "y" (.int 2)).withLocal "z"
    let state : Suspended := ⟨frame (.int 3), false⟩
    let twin : Suspended := ⟨frame (.int 8), false⟩
    let calls := transcript {} program Frame.target state
    let otherCalls := transcript {} other Frame.target state
    let first := (start {}).toEnd {} program Frame.target state
    let second := (start {}).toEnd {} other Frame.target state
    (∀ location ∈ fetchesOf calls, twin.frame.fetch location = state.frame.fetch location) ∧
      storedCells calls = [.local "x"] ∧ storedCells otherCalls = [.local "z"] ∧
      (∀ cell ∈ storedCells calls, cell ∉ touchedCells otherCalls) ∧
      (∀ cell ∈ storedCells otherCalls, cell ∉ touchedCells calls) ∧
      ((start {}).toEnd {} program Frame.target twin).1 = first.1 ∧
      ((start {}).toEnd {} program Frame.target second.2).2 =
        ((start {}).toEnd {} other Frame.target first.2).2 := by
  intro program other frame state twin calls otherCalls first second
  have agree : ∀ location ∈ fetchesOf calls,
      twin.frame.fetch location = state.frame.fetch location := by
    decide +kernel
  have spared : ∀ cell ∈ storedCells calls, cell ∉ touchedCells otherCalls := by
    decide +kernel
  have sparedToo : ∀ cell ∈ storedCells otherCalls, cell ∉ touchedCells calls := by
    decide +kernel
  have separate := noninterference {} {} program other state
  refine ⟨agree, by decide +kernel, by decide +kernel, spared, sparedToo, ?_, ?_⟩
  · exact (separate.1 twin rfl agree).2.2.1
  · exact (separate.2 spared sparedToo).2.2.2.2

end Run

end Watch
