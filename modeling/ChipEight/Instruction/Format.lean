namespace ChipEight

/-!
# Operand formats

An instruction word is made of four nibbles. Some of them identify the
instruction and the others carry its operands, laid out in one of six formats.
The operands of an instruction are exactly the fields of its format; they are
whole numbers of any size, since an instruction can also be given its operands
without a word to read them from.
-/

/-- The fields that operands are read from. -/
inductive Field where
  /-- The lowest twelve bits, an address. -/
  | nnn
  /-- The second nibble, a register. -/
  | x
  /-- The third nibble, a register. -/
  | y
  /-- The lowest eight bits, a value. -/
  | kk
  /-- The lowest four bits, a count. -/
  | n
  deriving DecidableEq, Repr

namespace Field

/-- The fields in the order in which they are listed. -/
def all : List Field :=
  [.nnn, .x, .y, .kk, .n]

/-- The name of a field. -/
def name : Field → String
  | .nnn => "nnn"
  | .x => "x"
  | .y => "y"
  | .kk => "kk"
  | .n => "n"

/-- The value of a field in an instruction word. -/
def read
    (field : Field)
    (opcode : Int) :
    Int :=
  match field with
  | .nnn => opcode % 0x1000
  | .x => opcode / 0x100 % 0x10
  | .y => opcode / 0x10 % 0x10
  | .kk => opcode % 0x100
  | .n => opcode % 0x10

end Field

/-- The ways in which operands are laid out in an instruction word. -/
inductive Format where
  /-- No operands. -/
  | bare
  /-- An address. -/
  | address
  /-- A register and a value. -/
  | registerValue
  /-- Two registers. -/
  | registerPair
  /-- A register. -/
  | register
  /-- Two registers and a count. -/
  | sprite
  deriving DecidableEq, Repr

/-- The operands of an instruction of a format. -/
inductive Operands : Format → Type where
  | bare : Operands .bare
  | address (nnn : Int) : Operands .address
  | registerValue (x : Int) (kk : Int) : Operands .registerValue
  | registerPair (x : Int) (y : Int) : Operands .registerPair
  | register (x : Int) : Operands .register
  | sprite (x : Int) (y : Int) (n : Int) : Operands .sprite
  deriving DecidableEq, Repr

namespace Operands

/-- The value of a field, and nothing for a field that the format does not have. -/
def value?
    {format : Format}
    (operands : Operands format)
    (field : Field) :
    Option Int :=
  match operands, field with
  | .address nnn, .nnn => some nnn
  | .registerValue x _, .x => some x
  | .registerValue _ kk, .kk => some kk
  | .registerPair x _, .x => some x
  | .registerPair _ y, .y => some y
  | .register x, .x => some x
  | .sprite x _ _, .x => some x
  | .sprite _ y _, .y => some y
  | .sprite _ _ n, .n => some n
  | _, _ => none

end Operands

namespace Format

/-- The fields of a format. -/
def fields : Format → List Field
  | .bare => []
  | .address => [.nnn]
  | .registerValue => [.x, .kk]
  | .registerPair => [.x, .y]
  | .register => [.x]
  | .sprite => [.x, .y, .n]

/-- Operands with the value that a function gives to each field. -/
def operandsOf
    (format : Format)
    (value : Field → Int) :
    Operands format :=
  match format with
  | .bare => .bare
  | .address => .address (value .nnn)
  | .registerValue => .registerValue (value .x) (value .kk)
  | .registerPair => .registerPair (value .x) (value .y)
  | .register => .register (value .x)
  | .sprite => .sprite (value .x) (value .y) (value .n)

/-- The operands in an instruction word of a format. -/
def read
    (format : Format)
    (opcode : Int) :
    Operands format :=
  format.operandsOf fun field => field.read opcode

/-- The operands of a format have its fields and no others. -/
theorem isSome_value?_iff
    {format : Format}
    (operands : Operands format)
    (field : Field) :
    (operands.value? field).isSome ↔ field ∈ format.fields := by
  cases operands <;> cases field <;> simp [Operands.value?, fields]

end Format

end ChipEight
