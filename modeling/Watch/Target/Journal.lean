import Watch.Target

/-!
# Journals and scripts

Two ways to look over the shoulder of an evaluation. A journal writes down every call with its
answer and changes nothing. A script interferes with single calls: it gives the answer itself, or
lets the user give up while the call is made. A script may name one call more than once; what it
says about that call is then overlaid.
-/

namespace Watch

/-- A call with the answer that it got. -/
structure Exchange where
  call : Call
  answer : call.Answer

namespace Target

variable {State : Type}

/-- A suspended program that writes down its exchanges, the latest first. -/
def journaled (target : Target State) : Target (State × List Exchange) where
  answer call state :=
    let (answer, after) := target.answer call state.1
    (answer, after, ⟨call, answer⟩ :: state.2)
  poll state :=
    let (cancelled, after) := target.poll state.1
    (cancelled, after, state.2)

end Target

/-- What a script does to a call. -/
structure Interference where
  /-- An answer given in place of that of the suspended program; a store only succeeds by it. -/
  answer : Option (Except EvaluationError Value)
  /-- Whether the user gives up. -/
  cancels : Bool

/-- The state of a scripted program: its own, the number of calls, and the word of the user. -/
structure Scripted (State : Type) where
  /-- The state of the program. -/
  inner : State
  calls : Nat
  /-- Whether the user has given up. -/
  cancelled : Bool

namespace Interference

/-- No interference: the call goes to the suspended program. -/
def none : Interference :=
  ⟨.none, false⟩

/-- Two interferences with one call: of two answers the later stands, and either may give up. -/
def overlay (earlier later : Interference) : Interference where
  answer := later.answer <|> earlier.answer
  cancels := earlier.cancels || later.cancels

/-- The answer of a script to a call. -/
def answerFor (answer : Except EvaluationError Value) : (call : Call) → call.Answer
  | .fetch _ => answer
  | .store .. => answer.map fun _ => ()
  | .invoke .. => answer

end Interference

/-- A script: interferences with calls, which it knows by their number, counted from one. -/
abbrev Script :=
  List (Nat × Interference)

namespace Script

/-- What a script does to the call of a number: all that it says about it, overlaid in order. -/
def interference (script : Script) (number : Nat) : Interference :=
  script.foldl (fun sofar entry => if entry.1 = number then sofar.overlay entry.2 else sofar) .none

end Script

namespace Target

variable {State : Type}

/-- A suspended program with a script. -/
def scripted (target : Target State) (script : Script) : Target (Scripted State) where
  answer call state :=
    let interference := script.interference (state.calls + 1)
    let state := ⟨state.inner, state.calls + 1, state.cancelled || interference.cancels⟩
    match interference.answer with
    | some answer => (Interference.answerFor answer call, state)
    | none =>
      let (answer, inner) := target.answer call state.inner
      (answer, { state with inner := inner })
  poll state :=
    let (cancelled, inner) := target.poll state.inner
    (cancelled || state.cancelled, { state with inner := inner })

end Target

end Watch
