import Watch.Target

/-!
# Actions

What an instruction does to the suspended program, as data: a tree whose inner nodes are the calls
and whose branches are the answers that each may get. The tree does not depend on the program that
answers; `Action.perform` follows it along the answers of one.
-/

namespace Watch

/-- A result that is reached by calls on the suspended program. -/
inductive Action (Result : Type) where
  | done (result : Result)
  /-- A call is made, and its answer decides how to go on. -/
  | ask (call : Call) (next : call.Answer → Action Result)

namespace Action

variable {Result Next : Type}

/-- Goes on from the result of an action. -/
def bind : Action Result → (Result → Action Next) → Action Next
  | .done result, next => next result
  | .ask call after, next => .ask call fun answer => (after answer).bind next

instance : Monad Action where
  pure := .done
  bind := bind

/-- Makes the calls of an action on a suspended program. -/
def perform {State : Type} (target : Target State) : Action Result → State → Result × State
  | .done result, state => (result, state)
  | .ask call next, state =>
    let (answer, state) := target.answer call state
    (next answer).perform target state

end Action

end Watch
