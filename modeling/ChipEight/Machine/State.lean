import ChipEight.Display
import ChipEight.Keypad
import ChipEight.Layout
import ChipEight.Memory
import ChipEight.RandomTape

namespace ChipEight

/-!
# The state of the machine

A machine is its memory, its registers, its stack of return addresses, its
timers and the devices attached to it. The pointers and timers are whole
numbers of any size, since a debugger may set them to anything; programs keep
them in range.

An action works on a machine and may end in a fault. It keeps what it changed
before the fault, so the machine can be looked at and run on afterwards.
-/

/-- A CHIP-8 machine with its devices. -/
structure Machine where
  memory : Memory memorySize
  /-- The variable registers `V0` to `VF`. -/
  registers : Memory registerCount
  /-- The places for return addresses, in use up to `stackTop`. -/
  stack : Vector Int stackCapacity
  /-- The place of the latest return address, `-1` when there is none. -/
  stackTop : Int
  programCounter : Int
  indexRegister : Int
  delayTimer : Int
  soundTimer : Int
  /-- Whether the latest instruction drew on the display. -/
  displayChanged : Bool
  display : Display
  keypad : Keypad
  random : RandomTape

namespace Machine

/--
A machine just switched on, with a display and a tape of random numbers
attached.
-/
def fresh
    (display : Display)
    (random : RandomTape) :
    Machine where
  memory := Memory.startingWith memorySize glyphs
  registers := Memory.blank registerCount
  stack := Vector.replicate stackCapacity 0
  stackTop := -1
  programCounter := programStart
  indexRegister := 0
  delayTimer := 0
  soundTimer := 0
  displayChanged := false
  display := display
  keypad := Keypad.untouched
  random := random

end Machine

/--
A computation on a machine that may end in a fault and keeps its changes
even then.
-/
abbrev Action := EStateM Fault Machine

namespace Action

/-- The value of a result, or its fault. -/
def attempt
    {α : Type} :
    Except Fault α →
    Action α
  | .ok value => pure value
  | .error fault => throw fault

/-- The byte in a register. -/
def readRegister
    (register : Int) :
    Action UInt8 := do
  attempt ((← get).registers.read register)

/-- Put the lowest eight bits of a value into a register. -/
def writeRegister
    (register : Int)
    (value : Int) :
    Action Unit := do
  let machine ← get
  let registers ← attempt (machine.registers.write register value)
  set { machine with registers := registers }

/-- Put one or zero into the flag register. -/
def writeFlag
    (raised : Bool) :
    Action Unit :=
  writeRegister flagRegister raised.toNat

/-- The byte at an address. -/
def readByte
    (address : Int) :
    Action UInt8 := do
  attempt ((← get).memory.read address)

/-- Put the lowest eight bits of a value at an address. -/
def writeByte
    (address : Int)
    (value : Int) :
    Action Unit := do
  let machine ← get
  let memory ← attempt (machine.memory.write address value)
  set { machine with memory := memory }

/-- The bytes of the memory cells that a span selects. -/
def readBytes
    (span : Cells.Span) :
    Action (List UInt8) := do
  attempt ((← get).memory.readSpan span)

/-- Write values over the memory cells that a span selects. -/
def writeBytes
    (span : Cells.Span)
    (values : List Int) :
    Action Unit := do
  let machine ← get
  let memory ← attempt (machine.memory.writeSpan span values)
  set { machine with memory := memory }

/-- The bytes of the registers that a span selects. -/
def readRegisters
    (span : Cells.Span) :
    Action (List UInt8) := do
  attempt ((← get).registers.readSpan span)

/-- Write values over the registers that a span selects. -/
def writeRegisters
    (span : Cells.Span)
    (values : List Int) :
    Action Unit := do
  let machine ← get
  let registers ← attempt (machine.registers.writeSpan span values)
  set { machine with registers := registers }

/-- The return address at a place of the stack. -/
def readStack
    (place : Int) :
    Action Int := do
  let cell ← attempt (Cells.locate stackCapacity place .noSuchPlace)
  return (← get).stack[cell]

/-- Put a return address at a place of the stack. -/
def writeStack
    (place : Int)
    (address : Int) :
    Action Unit := do
  let cell ← attempt (Cells.locate stackCapacity place .noPlaceToWrite)
  modify fun machine =>
    { machine with stack := machine.stack.set cell address }

/-- Draw a dot on the display; the flag tells whether a lit pixel was turned off. -/
def drawDot
    (dot : Display.Dot) :
    Action Bool := do
  let machine ← get
  let (display, erased) ← attempt (machine.display.drawDot dot)
  set { machine with display := display }
  return erased

/--
Draw a sprite on the display; the flag tells whether a lit pixel was turned off.
-/
def draw
    (sprite : List Int)
    (x : Int)
    (y : Int) :
    Action Bool := do
  let machine ← get
  let (display, erased) ← attempt (machine.display.draw sprite x y)
  set { machine with display := display }
  return erased

/-- Take the next random number. -/
def takeRandom : Action Int := do
  let machine ← get
  set { machine with random := machine.random.advanced }
  return machine.random.head

/-- Go on to the next instruction. -/
def advance : Action Unit :=
  modify fun machine =>
    { machine with programCounter := machine.programCounter + instructionSize }

/-- Skip the next instruction when a condition holds. -/
def skipWhen
    (condition : Bool) :
    Action Unit := do
  if condition then
    advance
  advance

/-- Go to an address. -/
def goTo
    (address : Int) :
    Action Unit :=
  modify fun machine => { machine with programCounter := address }

end Action

end ChipEight
