import ChipEight.Machine.State
import ChipEight.Text.Numeral

namespace ChipEight

/-!
# The dump of a machine

A dump is four lines of text: the pointers and registers, the stack with the
return addresses in use, the timers, and the keypad.
-/

open Text

/-- The registers, each with its name. -/
def dumpRegisters
    {size : Nat}
    (registers : Memory size) :
    String :=
  " ".intercalate <|
    registers.toList.zipIdx.map fun (value, register) =>
      "V" ++ NumeralStyle.capitalHexadecimal.write register ++ ":" ++
        (NumeralStyle.hexadecimal 2).write value.toNat

/-- The keypad, with a bit for each of its sixteen keys. -/
def Keypad.dump
    (keypad : Keypad) :
    String :=
  "KEYS:" ++ (NumeralStyle.binary 16).write keypad.held ++
    " | LAST_KEY:" ++ decimal keypad.lastPressed

namespace Machine

/-- The return addresses that a dump shows, the oldest first. -/
def shownStack
    (machine : Machine) :
    List Int :=
  match (Cells.Span.before (machine.stackTop + 1)).resolve stackCapacity with
  | .ok selection => selection.cells.map machine.stack.get
  | .error _ => []

/-- The line with the pointers and registers. -/
def dumpPointers
    (machine : Machine) :
    String :=
  "PC_REGISTER:0x" ++ (NumeralStyle.hexadecimal 4).write machine.programCounter ++
    " | IDX_REGISTER:0x" ++ (NumeralStyle.hexadecimal 4).write machine.indexRegister ++
    " | VARIABLE_REGISTERS:" ++ dumpRegisters machine.registers

/-- The line with the stack. -/
def dumpStack
    (machine : Machine) :
    String :=
  let addresses := machine.shownStack.map fun address =>
    "'" ++ (NumeralStyle.markedHexadecimal 0).write address ++ "'"
  "SP:" ++ decimal machine.stackTop ++
    " | STACK:[" ++ ", ".intercalate addresses ++ "]"

/-- The line with the timers. -/
def dumpTimers
    (machine : Machine) :
    String :=
  "DT:" ++ decimal machine.delayTimer ++ " | ST:" ++ decimal machine.soundTimer

/-- The dump of a machine. -/
def dump
    (machine : Machine) :
    String :=
  "\n".intercalate
    [machine.dumpPointers, machine.dumpStack, machine.dumpTimers, machine.keypad.dump]

end Machine

end ChipEight
