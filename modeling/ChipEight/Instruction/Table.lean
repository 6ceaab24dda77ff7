import ChipEight.Fault
import ChipEight.Instruction.Operation

namespace ChipEight

/-!
# Recognising instruction words

The instruction table gives each operation a pattern of bits and the mask that
keeps them. A word is recognised in two passes: an entry whose pattern is the
word itself comes before every entry whose masked pattern agrees, since the
words of `cls` and `ret` also fit the layout of `sys`. In each pass the first
entry of the table wins.
-/

/-- How the words of an operation are recognised. -/
structure Entry where
  operation : Operation
  /-- The bits that identify the operation. -/
  pattern : Nat
  /-- The bits of a word that belong to the pattern. -/
  mask : Nat
  deriving DecidableEq, Repr

/-- The instruction table. -/
def instructionTable : List Entry :=
  [ ⟨.sys, 0x0000, 0xF000⟩,
    ⟨.cls, 0x00E0, 0xFFFF⟩,
    ⟨.ret, 0x00EE, 0xFFFF⟩,
    ⟨.jp, 0x1000, 0xF000⟩,
    ⟨.call, 0x2000, 0xF000⟩,
    ⟨.se, 0x3000, 0xF000⟩,
    ⟨.sne, 0x4000, 0xF000⟩,
    ⟨.seReg, 0x5000, 0xF00F⟩,
    ⟨.ld, 0x6000, 0xF000⟩,
    ⟨.add, 0x7000, 0xF000⟩,
    ⟨.ldReg, 0x8000, 0xF00F⟩,
    ⟨.or, 0x8001, 0xF00F⟩,
    ⟨.and, 0x8002, 0xF00F⟩,
    ⟨.xor, 0x8003, 0xF00F⟩,
    ⟨.addReg, 0x8004, 0xF00F⟩,
    ⟨.sub, 0x8005, 0xF00F⟩,
    ⟨.shr, 0x8006, 0xF00F⟩,
    ⟨.subn, 0x8007, 0xF00F⟩,
    ⟨.shl, 0x800E, 0xF00F⟩,
    ⟨.sneReg, 0x9000, 0xF00F⟩,
    ⟨.ldI, 0xA000, 0xF000⟩,
    ⟨.jpV0, 0xB000, 0xF000⟩,
    ⟨.rnd, 0xC000, 0xF000⟩,
    ⟨.drw, 0xD000, 0xF000⟩,
    ⟨.skp, 0xE09E, 0xF0FF⟩,
    ⟨.sknp, 0xE0A1, 0xF0FF⟩,
    ⟨.ldVxDt, 0xF007, 0xF0FF⟩,
    ⟨.ldVxK, 0xF00A, 0xF0FF⟩,
    ⟨.ldDtVx, 0xF015, 0xF0FF⟩,
    ⟨.ldStVx, 0xF018, 0xF0FF⟩,
    ⟨.addI, 0xF01E, 0xF0FF⟩,
    ⟨.ldF, 0xF029, 0xF0FF⟩,
    ⟨.ldB, 0xF033, 0xF0FF⟩,
    ⟨.ldMemVx, 0xF055, 0xF0FF⟩,
    ⟨.ldVxMem, 0xF065, 0xF0FF⟩ ]

/-- Every pattern of the table is a word. -/
theorem Entry.pattern_lt :
    ∀ entry ∈ instructionTable, entry.pattern < 0x10000 := by
  decide

/-- The lowest sixteen bits of an opcode. -/
def lowWord
    (opcode : Int) :
    Nat :=
  (opcode % 0x10000).toNat

namespace Entry

/-- Whether the opcode is the pattern itself. -/
def isWord
    (entry : Entry)
    (opcode : Int) :
    Bool :=
  entry.pattern = opcode

/-- Whether the masked bits of the opcode are the pattern. -/
def fits
    (entry : Entry)
    (opcode : Int) :
    Bool :=
  lowWord opcode &&& entry.mask = entry.pattern

end Entry

/-- The entry that recognises an opcode, if there is one. -/
def findEntry?
    (entries : List Entry)
    (opcode : Int) :
    Option Entry :=
  (entries.find? fun entry => entry.isWord opcode).or
    (entries.find? fun entry => entry.fits opcode)

namespace Instruction

/-- The instruction that an opcode stands for. -/
def decode
    (opcode : Int) :
    Except Fault Instruction :=
  match findEntry? instructionTable opcode with
  | some entry =>
      .ok
        { operation := entry.operation,
          operands := entry.operation.format.read opcode }
  | none => .error (.noInstruction opcode)

end Instruction

namespace Operation

/-- The operation with a name, if there is one. -/
def ofName?
    (name : String) :
    Option Operation :=
  (instructionTable.map Entry.operation).find? fun operation =>
    operation.name = name

end Operation

end ChipEight
