import ChipEight.Instruction.Format

namespace ChipEight

/-!
# The instruction set

The 35 operations of the machine, each with its name and the format of its
operands. An instruction is an operation together with its operands.
-/

/-- What an instruction does. -/
inductive Operation where
  /-- Call a routine of the host machine, which does nothing. -/
  | sys
  /-- Clear the display. -/
  | cls
  /-- Return from the last open call. -/
  | ret
  /-- Go to an address. -/
  | jp
  /-- Call the routine at an address. -/
  | call
  /-- Skip when a register equals a value. -/
  | se
  /-- Skip when a register differs from a value. -/
  | sne
  /-- Skip when two registers are equal. -/
  | seReg
  /-- Load a value into a register. -/
  | ld
  /-- Add a value to a register. -/
  | add
  /-- Copy a register. -/
  | ldReg
  /-- Bitwise or of two registers. -/
  | or
  /-- Bitwise and of two registers. -/
  | and
  /-- Bitwise exclusive or of two registers. -/
  | xor
  /-- Add two registers and flag the carry. -/
  | addReg
  /--
  Subtract the second register from the first and flag that no borrow
  was needed.
  -/
  | sub
  /-- Shift a register right and flag the bit that falls out. -/
  | shr
  /--
  Subtract the first register from the second and flag that no borrow
  was needed.
  -/
  | subn
  /-- Shift a register left and flag the bit that falls out. -/
  | shl
  /-- Skip when two registers differ. -/
  | sneReg
  /-- Load an address into the index register. -/
  | ldI
  /-- Go to an address plus the first register. -/
  | jpV0
  /-- Load a random byte, masked by a value, into a register. -/
  | rnd
  /-- Draw a sprite and flag a collision. -/
  | drw
  /-- Skip when a key is held. -/
  | skp
  /-- Skip when a key is not held. -/
  | sknp
  /-- Copy the delay timer into a register. -/
  | ldVxDt
  /-- Wait for a key and load it into a register. -/
  | ldVxK
  /-- Set the delay timer from a register. -/
  | ldDtVx
  /-- Set the sound timer from a register. -/
  | ldStVx
  /-- Add a register to the index register. -/
  | addI
  /-- Point the index register at the glyph of a digit. -/
  | ldF
  /-- Store the decimal digits of a register. -/
  | ldB
  /-- Store the first registers in memory. -/
  | ldMemVx
  /-- Load the first registers from memory. -/
  | ldVxMem
  deriving DecidableEq, Repr

namespace Operation

/-- The name of an operation. -/
def name : Operation → String
  | .sys => "sys"
  | .cls => "cls"
  | .ret => "ret"
  | .jp => "jp"
  | .call => "call"
  | .se => "se"
  | .sne => "sne"
  | .seReg => "se_reg"
  | .ld => "ld"
  | .add => "add"
  | .ldReg => "ld_reg"
  | .or => "or"
  | .and => "and"
  | .xor => "xor"
  | .addReg => "add_reg"
  | .sub => "sub"
  | .shr => "shr"
  | .subn => "subn"
  | .shl => "shl"
  | .sneReg => "sne_reg"
  | .ldI => "ld_i"
  | .jpV0 => "jp_v0"
  | .rnd => "rnd"
  | .drw => "drw"
  | .skp => "skp"
  | .sknp => "sknp"
  | .ldVxDt => "ld_vx_dt"
  | .ldVxK => "ld_vx_k"
  | .ldDtVx => "ld_dt_vx"
  | .ldStVx => "ld_st_vx"
  | .addI => "add_i"
  | .ldF => "ld_f"
  | .ldB => "ld_b"
  | .ldMemVx => "ld_mem_vx"
  | .ldVxMem => "ld_vx_mem"

/-- The format of the operands of an operation. -/
def format : Operation → Format
  | .cls | .ret => .bare
  | .sys | .jp | .call | .ldI | .jpV0 => .address
  | .se | .sne | .ld | .add | .rnd => .registerValue
  | .seReg | .sneReg | .ldReg | .or | .and | .xor | .addReg | .sub | .shr | .subn | .shl =>
      .registerPair
  | .skp | .sknp | .ldVxDt | .ldVxK | .ldDtVx | .ldStVx | .addI | .ldF | .ldB | .ldMemVx
  | .ldVxMem => .register
  | .drw => .sprite

end Operation

/-- An operation with operands in its format. -/
structure Instruction where
  operation : Operation
  operands : Operands operation.format
  deriving DecidableEq, Repr

namespace Instruction

/--
The instruction of an operation whose operands are the given values of
its fields.
-/
def ofFields
    (operation : Operation)
    (value : Field → Int) :
    Instruction :=
  { operation := operation, operands := operation.format.operandsOf value }

end Instruction

end ChipEight
