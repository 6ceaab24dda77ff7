import ChipEight.Instruction.Operation
import ChipEight.Text.Numeral

namespace ChipEight

/-!
# Assembly text

Every operation has a template: the pieces of its assembly text, some of which
are placeholders for operands. The template itself can be shown, with its
placeholders in braces, and it can be written out with the operands of an
instruction.
-/

/-- A piece of the assembly text of an operation. -/
inductive Piece where
  /-- Text that does not depend on the operands. -/
  | words (text : String)
  /-- A field in decimal. -/
  | decimal (field : Field)
  /-- A field as capital hexadecimal digits. -/
  | capital (field : Field)
  /-- A field in hexadecimal, filled with zeros to a width. -/
  | hexadecimal (width : Nat) (field : Field)
  deriving DecidableEq, Repr

namespace Piece

/-- The field whose value a piece shows. -/
def field? : Piece → Option Field
  | .words _ => none
  | .decimal field => some field
  | .capital field => some field
  | .hexadecimal _ field => some field

/-- How a piece writes the value of its field. -/
def style : Piece → Text.NumeralStyle
  | .words _ => .decimal
  | .decimal _ => .decimal
  | .capital _ => .capitalHexadecimal
  | .hexadecimal width _ => .hexadecimal width

/-- A piece as it is shown in a template. -/
def shown : Piece → String
  | .words text => text
  | .decimal field => "\x7b" ++ field.name ++ "\x7d"
  | .capital field => "\x7b" ++ field.name ++ ":X\x7d"
  | .hexadecimal width field =>
      "\x7b" ++ field.name ++ ":0" ++ Text.decimal width ++ "x\x7d"

/-- A piece written with operands; a field that they lack is left out. -/
def write
    {format : Format}
    (operands : Operands format)
    (piece : Piece) :
    String :=
  match piece with
  | .words text => text
  | piece =>
      match piece.field?.bind operands.value? with
      | some value => piece.style.write value
      | none => ""

end Piece

namespace Operation

/-- An operation on a register, shown behind a word. -/
def onRegister
    (word : String) :
    List Piece :=
  [.words (word ++ " V"), .capital .x]

/-- The pieces of the assembly text of an operation. -/
def template : Operation → List Piece
  | .sys => [.words "SYS 0x", .hexadecimal 3 .nnn]
  | .cls => [.words "CLS"]
  | .ret => [.words "RET"]
  | .jp => [.words "JP 0x", .hexadecimal 3 .nnn]
  | .call => [.words "CALL 0x", .hexadecimal 3 .nnn]
  | .se => onRegister "SE" ++ [.words ", ", .decimal .kk]
  | .sne => onRegister "SNE" ++ [.words ", ", .decimal .kk]
  | .seReg => onRegister "SE" ++ [.words ", V", .capital .y]
  | .ld => onRegister "LD" ++ [.words ", ", .decimal .kk]
  | .add => onRegister "ADD" ++ [.words ", ", .decimal .kk]
  | .ldReg => onRegister "LD" ++ [.words ", V", .capital .y]
  | .or => onRegister "OR" ++ [.words ", V", .capital .y]
  | .and => onRegister "AND" ++ [.words ", V", .capital .y]
  | .xor => onRegister "XOR" ++ [.words ", V", .capital .y]
  | .addReg => onRegister "ADD" ++ [.words ", V", .capital .y]
  | .sub => onRegister "SUB" ++ [.words ", V", .capital .y]
  | .shr => onRegister "SHR"
  | .subn => onRegister "SUBN" ++ [.words ", V", .capital .y]
  | .shl => onRegister "SHL"
  | .sneReg => onRegister "SNE" ++ [.words ", V", .capital .y]
  | .ldI => [.words "LD I, 0x", .hexadecimal 3 .nnn]
  | .jpV0 => [.words "JP V0, 0x", .hexadecimal 3 .nnn]
  | .rnd => onRegister "RND" ++ [.words ", 0x", .hexadecimal 2 .kk]
  | .drw => onRegister "DRW" ++ [.words ", V", .capital .y, .words ", ", .decimal .n]
  | .skp => onRegister "SKP"
  | .sknp => onRegister "SKNP"
  | .ldVxDt => onRegister "LD" ++ [.words ", DT"]
  | .ldVxK => onRegister "LD" ++ [.words ", K"]
  | .ldDtVx => onRegister "LD DT,"
  | .ldStVx => onRegister "LD ST,"
  | .addI => onRegister "ADD I,"
  | .ldF => onRegister "LD F,"
  | .ldB => onRegister "LD B,"
  | .ldMemVx => onRegister "LD [I],"
  | .ldVxMem => onRegister "LD" ++ [.words ", [I]"]

/-- The template of an operation as text. -/
def templateText
    (operation : Operation) :
    String :=
  String.join (operation.template.map Piece.shown)

/-- Every placeholder of a template stands for a field of the operation's format. -/
theorem field_mem_of_mem_template
    (operation : Operation) :
    ∀ piece ∈ operation.template,
      ∀ field ∈ piece.field?, field ∈ operation.format.fields := by
  cases operation <;> decide

end Operation

namespace Instruction

/-- The assembly text of an instruction. -/
def assembly
    (instruction : Instruction) :
    String :=
  String.join (instruction.operation.template.map (Piece.write instruction.operands))

/-- No instruction lacks an operand that its template has a placeholder for. -/
theorem exists_value_of_mem_template
    (instruction : Instruction)
    {piece : Piece}
    (member : piece ∈ instruction.operation.template)
    {field : Field}
    (isShown : field ∈ piece.field?) :
    ∃ value, instruction.operands.value? field = some value := by
  have inFormat :=
    instruction.operation.field_mem_of_mem_template piece member field isShown
  rw [← Format.isSome_value?_iff instruction.operands] at inFormat
  exact Option.isSome_iff_exists.mp inFormat

end Instruction

end ChipEight
