import Watch.Instruction.Execution

/-!
# Runs

A run executes a program on the operand stack, one instruction after another, until it is completed
with a value or faulted. Before each instruction it asks whether the user has given up, then
whether the program has ended, and then whether it may execute one more instruction; the order of
the three decides how a run ends when several hold. A run that has ended stays as it is.
-/

namespace Watch

/-- The limits of a run. -/
structure Limits where
  /-- How many operands there may be at a time. -/
  maxStackDepth : UInt64 := 1024
  /-- How many instructions may be executed. -/
  maxSteps : UInt64 := 100000
deriving DecidableEq

/-- How far a run has come. -/
inductive Status where
  /-- Nothing has been executed. -/
  | ready
  /-- The run is under way. -/
  | running
  /-- The run has ended with a value. -/
  | completed (value : Value)
  /-- The run has ended with a fault. -/
  | faulted (fault : Fault)
deriving DecidableEq

namespace Status

/-- Whether a run has ended. -/
def isTerminal : Status → Bool
  | .completed _ | .faulted _ => true
  | .ready | .running => false

/-- What a run that has ended hands back: its value, or its fault. -/
def outcome? : Status → Option (Except Fault Value)
  | .completed value => some (.ok value)
  | .faulted fault => some (.error fault)
  | .ready | .running => none

end Status

namespace Program

/--
The offset that is reported at a place of a program: that of the instruction there, at the end that
of the last instruction, and zero without any.
-/
def offsetAt (program : Program) (place : Nat) : UInt64 :=
  match program[place]? with
  | some instruction => instruction.offset
  | none => (program.back?.map Instruction.offset).getD 0

end Program

/-- The state of a run. -/
structure Run where
  /-- How far the run has come. -/
  status : Status
  /-- The place of the instruction to execute next. -/
  place : Nat
  /-- How many instructions have been executed. -/
  steps : Nat
  stack : Stack
deriving DecidableEq

namespace Run

/-- A run before its first step. -/
def start (limits : Limits) : Run :=
  ⟨.ready, 0, 0, .empty limits.maxStackDepth.toNat⟩

/-- The run ended by an error at an offset. -/
def fault (run : Run) (error : EvaluationError) (offset : UInt64) : Run :=
  { run with status := .faulted (.ofError error offset) }

/-- Ends the run at the end of the program: a single operand is its value. -/
def finish (run : Run) (offset : UInt64) : Run :=
  match run.stack.operands with
  | [operand] =>
    { run with status := .completed operand.value, stack := ⟨[], run.stack.room + 1⟩ }
  | _ => run.fault (.unbalancedStack run.stack.depth) offset

/-- The run after an instruction: at the next place, or faulted where it is. -/
def continued (run : Run) (offset : UInt64) (outcome : Except EvaluationError Nat)
    (stack : Stack) : Run :=
  match outcome with
  | .ok place => { run with place := place, stack := stack }
  | .error error => { run with stack := stack }.fault error offset

variable {State : Type}

/-- One step of a run that has not ended: an instruction, or the end of the run. -/
def advance (limits : Limits) (program : Program) (target : Target State) (run : Run)
    (state : State) : Run × State :=
  let run := { run with status := .running }
  let (cancelled, state) := target.poll state
  if cancelled then (run.fault .cancelled (program.offsetAt run.place), state)
  else match program[run.place]? with
    | none => (run.finish (program.offsetAt run.place), state)
    | some instruction =>
      if run.steps < limits.maxSteps.toNat then
        let ((outcome, stack), state) :=
          (instruction.kind.execute program.size run.place run.stack).perform target state
        ({ run with steps := run.steps + 1 }.continued instruction.offset outcome stack, state)
      else (run.fault (.stepLimit limits.maxSteps) instruction.offset, state)

/-- One step of a run; a run that has ended stays as it is. -/
def step (limits : Limits) (program : Program) (target : Target State) (run : Run)
    (state : State) : Run × State :=
  if run.status.isTerminal then (run, state) else run.advance limits program target state

/-- Steps until the run has ended, but no more than a number of times. -/
def stepMany (limits : Limits) (program : Program) (target : Target State) :
    Nat → Run → State → Run × State
  | 0, run, state => (run, state)
  | count + 1, run, state =>
    if run.status.isTerminal then (run, state)
    else
      let (run, state) := run.advance limits program target state
      stepMany limits program target count run state

/-- Steps until the run has ended: each step but the last executes one instruction. -/
def toEnd (limits : Limits) (program : Program) (target : Target State) (run : Run)
    (state : State) : Run × State :=
  stepMany limits program target (limits.maxSteps.toNat - run.steps + 1) run state

/-- What a program evaluates to: a run goes from its start to its end and hands back its outcome. -/
def evaluate (limits : Limits) (program : Program) (target : Target State) (state : State) :
    Option (Except Fault Value) × State :=
  let (run, state) := (start limits).toEnd limits program target state
  (run.status.outcome?, state)

end Run

end Watch
