import ChipEight.Instruction.Assembly
import ChipEight.Instruction.Table
import ChipEight.Machine.Effect

namespace ChipEight

/-!
# Machine cycles

A cycle fetches the word at the program counter, decodes it and executes the
instruction that it stands for. What was executed is recorded with its address;
a cycle that ends in a fault records nothing. The timers are counted down apart
from the cycles.
-/

/-- An instruction that was executed and the program counter it was executed at. -/
structure Executed where
  address : Int
  instruction : Instruction
  deriving DecidableEq, Repr

namespace Executed

/-- The line of a trace that reports an executed instruction. -/
def line
    (executed : Executed) :
    String :=
  "mem_addr: 0x" ++ (Text.NumeralStyle.hexadecimal 4).write executed.address ++
    "    instruction: " ++ executed.instruction.assembly

end Executed

namespace Action

/-- The word at the program counter, its high byte first. -/
def fetch : Action Int := do
  let address := (← get).programCounter
  let high ← readByte address
  let low ← readByte (address + 1)
  return high.toNat * 0x100 + low.toNat

/-- Execute an instruction and record it. -/
def perform
    (instruction : Instruction) :
    Action Executed := do
  let address := (← get).programCounter
  execute instruction.operation instruction.operands
  return { address := address, instruction := instruction }

/-- One machine cycle. -/
def cycle : Action Executed := do
  modify fun machine => { machine with displayChanged := false }
  let opcode ← fetch
  let instruction ← attempt (Instruction.decode opcode)
  perform instruction

/-- Put a word at the program counter and run a cycle. -/
def cycleOn
    (opcode : Int) :
    Action Executed := do
  let address := (← get).programCounter
  writeByte address (opcode / 0x100)
  writeByte (address + 1) opcode
  cycle

end Action

/-- What came of running a machine for a while. -/
structure Execution where
  machine : Machine
  /-- The instructions executed, the earliest first. -/
  executed : List Executed
  /-- The program counter after each of them. -/
  counters : List Int
  /-- The fault that ended the run early. -/
  fault : Option Fault

namespace Machine

/-- Run at most `count` cycles, and fewer when one of them ends in a fault. -/
def runCycles
    (machine : Machine) :
    Nat →
    Execution
  | 0 => { machine := machine, executed := [], counters := [], fault := none }
  | count + 1 =>
      match Action.cycle.run machine with
      | .ok executed next =>
          let later := next.runCycles count
          { later with
            executed := executed :: later.executed,
            counters := next.programCounter :: later.counters }
      | .error fault stopped =>
          { machine := stopped, executed := [], counters := [], fault := some fault }

/-- A timer after one tick. -/
def countDown
    (timer : Int) :
    Int :=
  if 0 < timer then
    timer - 1
  else
    timer

/-- The machine after both timers tick once. -/
def countDownTimers
    (machine : Machine) :
    Machine :=
  { machine with
    delayTimer := countDown machine.delayTimer,
    soundTimer := countDown machine.soundTimer }

end Machine

/--
The lines that a trace shows for executed instructions; without tracing
there are none.
-/
def traceLines
    (tracing : Bool)
    (executed : List Executed) :
    List String :=
  if tracing then
    executed.map Executed.line
  else
    []

/-- A trace is written in the order of execution, so it grows at its end. -/
theorem traceLines_append
    (tracing : Bool)
    (earlier : List Executed)
    (later : List Executed) :
    traceLines tracing (earlier ++ later) =
      traceLines tracing earlier ++ traceLines tracing later := by
  cases tracing <;> simp [traceLines]

end ChipEight
