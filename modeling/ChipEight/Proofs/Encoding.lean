import ChipEight.Proofs.Lookup

namespace ChipEight

/-!
# Putting instructions back into words

An instruction is put back into a word by adding its operands, each at its
place, to the pattern of its operation. What is decoded from an opcode has
exactly the fields of its format, with values that they have room for, and adds
up to the lowest sixteen bits of the opcode; in the other direction every
instruction whose operands have room is decoded from the word that it adds up
to. Only two operands of `sys` are missed, since they add up to the bare words.
-/

namespace Operands

variable {format : Format}

/-- The value of a field, which is zero for a field that the operands lack. -/
def valueOf
    (operands : Operands format)
    (field : Field) :
    Int :=
  (operands.value? field).getD 0

/-- Whether every field that the operands have has room for its value. -/
def InRange
    (operands : Operands format) :
    Prop :=
  ∀ field value,
    operands.value? field = some value →
    0 ≤ value ∧ value < field.range

/-- The weight of operands is made of the values of their fields at their places. -/
theorem weight_eq
    (operands : Operands format) :
    operands.weight =
      operands.valueOf .nnn + 0x100 * operands.valueOf .x +
        0x10 * operands.valueOf .y + operands.valueOf .kk +
        operands.valueOf .n := by
  cases operands <;> simp [weight, valueOf, value?]

theorem inRange_of_proper
    {operands : Operands format}
    (proper : operands.Proper) :
    operands.InRange := by
  have registers : registerCount = 0x10 := rfl
  intro field value found
  cases proper <;> cases field <;> cases found <;>
    simp only [Field.range] <;> omega

end Operands

/-- A number for which a field has room is one of its values. -/
theorem Field.exists_value
    {field : Field}
    {number : Int}
    (fits : 0 ≤ number ∧ number < field.range) :
    ∃ value : Fin field.range, number = (value : Nat) :=
  ⟨⟨number.toNat, by omega⟩, by simp only; omega⟩

theorem Operands.proper_of_inRange
    {format : Format}
    {operands : Operands format}
    (inRange : operands.InRange) :
    operands.Proper := by
  cases operands with
  | bare => exact .bare
  | address nnn =>
      obtain ⟨nnn, rfl⟩ := Field.exists_value (inRange .nnn _ rfl)
      exact .address nnn
  | registerValue x kk =>
      obtain ⟨x, rfl⟩ := Field.exists_value (inRange .x _ rfl)
      obtain ⟨kk, rfl⟩ := Field.exists_value (inRange .kk _ rfl)
      exact .registerValue x kk
  | registerPair x y =>
      obtain ⟨x, rfl⟩ := Field.exists_value (inRange .x _ rfl)
      obtain ⟨y, rfl⟩ := Field.exists_value (inRange .y _ rfl)
      exact .registerPair x y
  | register x =>
      obtain ⟨x, rfl⟩ := Field.exists_value (inRange .x _ rfl)
      exact .register x
  | sprite x y n =>
      obtain ⟨x, rfl⟩ := Field.exists_value (inRange .x _ rfl)
      obtain ⟨y, rfl⟩ := Field.exists_value (inRange .y _ rfl)
      obtain ⟨n, rfl⟩ := Field.exists_value (inRange .n _ rfl)
      exact .sprite x y n

/-- Operands are read from the lowest sixteen bits of an opcode. -/
theorem Format.read_lowWord
    (format : Format)
    (opcode : Int) :
    format.read (lowWord opcode) = format.read opcode := by
  rw [natCast_lowWord]
  cases format <;>
    simp only [read, operandsOf, Field.read, Operands.address.injEq,
      Operands.registerValue.injEq, Operands.registerPair.injEq,
      Operands.register.injEq, Operands.sprite.injEq] <;>
    omega

/-- There is room in a word for a pattern and the operands of its format. -/
theorem Entry.exists_word
    {entry : Entry}
    (member : entry ∈ instructionTable)
    {operands : Operands entry.operation.format}
    (proper : operands.Proper) :
    ∃ word < 0x10000,
      ((word : Nat) : Int) = entry.pattern + operands.weight := by
  have below := pattern_lt entry member
  have ofFormat := identity_of_mem entry member
  have room :
      0 ≤ operands.weight ∧ entry.pattern + operands.weight < 0x10000 := by
    have registers : registerCount = 0x10 := rfl
    revert operands ofFormat
    generalize entry.operation.format = format
    intro operands proper ofFormat
    cases proper <;>
      simp only [Operands.weight, Format.identity] at * <;>
      omega
  exact ⟨(entry.pattern + operands.weight).toNat, by omega, by omega⟩

namespace Instruction

/-- What is decoded has room for its operands and adds up to the opcode. -/
theorem sum_of_decode
    {opcode : Int}
    {instruction : Instruction}
    (decoded : decode opcode = .ok instruction) :
    ∃ entry,
      findEntry? instructionTable opcode = some entry ∧
        entry ∈ instructionTable ∧
        entry.operation = instruction.operation ∧
        instruction.operands.InRange ∧
        opcode % 0x10000 = entry.pattern + instruction.operands.weight := by
  rw [decode] at decoded
  split at decoded
  · next entry found =>
      obtain rfl := Except.ok.inj decoded
      obtain ⟨member, fits⟩ := fits_of_found (List.Perm.refl _) found
      refine ⟨entry, found, member, rfl,
        Operands.inRange_of_proper (Format.proper_read _ _), ?_⟩
      rw [← natCast_lowWord, ← (Entry.fits_iff_identity member opcode).mp fits,
        ← Format.read_lowWord, Format.identity_add_weight]
  · cases decoded

/-- What adds up to a word is decoded from it, the bare words apart. -/
theorem decode_sum
    {entry : Entry}
    (member : entry ∈ instructionTable)
    {operands : Operands entry.operation.format}
    (inRange : operands.InRange)
    (notBare :
      entry.operation = .sys →
      operands.valueOf .nnn ≠ 0x0E0 ∧ operands.valueOf .nnn ≠ 0x0EE) :
    decode (entry.pattern + operands.weight) =
      .ok ⟨entry.operation, operands⟩ := by
  have proper := Operands.proper_of_inRange inRange
  obtain ⟨word, small, weighed⟩ := Entry.exists_word member proper
  rw [← weighed, decode_eq_ok_iff small]
  refine ⟨proper, fun isSys => ?_, entry, member, rfl, weighed⟩
  obtain ⟨notCls, notRet⟩ := notBare isSys
  obtain rfl :=
    Entry.eq_of_operation_eq entry member ⟨.sys, 0x0000, 0xF000⟩ (by decide)
      isSys
  cases operands with
  | address nnn =>
      simp only [Operands.weight, Operands.valueOf, Operands.value?,
        Option.getD_some] at *
      omega

/-- Two words from which the same instruction is decoded are the same. -/
theorem eq_of_decode
    {first second : Int}
    {instruction : Instruction}
    (fromFirst : decode first = .ok instruction)
    (fromSecond : decode second = .ok instruction) :
    first % 0x10000 = second % 0x10000 := by
  obtain ⟨entry, -, member, isOperation, -, firstSum⟩ := sum_of_decode fromFirst
  obtain ⟨other, -, otherMember, isOther, -, secondSum⟩ :=
    sum_of_decode fromSecond
  obtain rfl :=
    Entry.eq_of_operation_eq entry member other otherMember
      (isOperation.trans isOther.symm)
  rw [firstSum, secondSum]

end Instruction

open Instruction in
/--
Decoding keeps all of a word, and every instruction has a word to be decoded from.

Whatever opcode is decoded, the operands are exactly the fields of the format,
each with a value that it has room for, and with the pattern they add up to the
lowest sixteen bits. So different words give different instructions. Operands
with room for their values are decoded from what they add up to; for `sys` the
two addresses that are left out add up to the bare words.
-/
theorem decoding_inverts_adding_up :
    (∀ opcode instruction,
      decode opcode = .ok instruction →
      ∃ entry,
        findEntry? instructionTable opcode = some entry ∧
          entry ∈ instructionTable ∧
          entry.operation = instruction.operation ∧
          (∀ field,
            (instruction.operands.value? field).isSome ↔
              field ∈ instruction.operation.format.fields) ∧
          (∀ field value,
            instruction.operands.value? field = some value →
            0 ≤ value ∧ value < field.range) ∧
          opcode % 0x10000 =
            entry.pattern + instruction.operands.valueOf .nnn +
              0x100 * instruction.operands.valueOf .x +
              0x10 * instruction.operands.valueOf .y +
              instruction.operands.valueOf .kk +
              instruction.operands.valueOf .n) ∧
    (∀ first second : Int,
      0 ≤ first ∧ first < 0x10000 →
      0 ≤ second ∧ second < 0x10000 →
      ∀ instruction,
        decode first = .ok instruction →
        decode second = .ok instruction →
        first = second) ∧
    (∀ entry ∈ instructionTable,
      ∀ operands : Operands entry.operation.format,
        (∀ field value,
          operands.value? field = some value →
          0 ≤ value ∧ value < field.range) →
        (entry.operation = .sys →
          operands.valueOf .nnn ≠ 0x0E0 ∧ operands.valueOf .nnn ≠ 0x0EE) →
        decode
            (entry.pattern + operands.valueOf .nnn +
              0x100 * operands.valueOf .x + 0x10 * operands.valueOf .y +
              operands.valueOf .kk + operands.valueOf .n) =
          .ok ⟨entry.operation, operands⟩) := by
  refine ⟨?adds, ?apart, ?inverts⟩
  case adds =>
    intro opcode instruction decoded
    obtain ⟨entry, found, member, isOperation, inRange, total⟩ :=
      sum_of_decode decoded
    rw [Operands.weight_eq] at total
    refine ⟨entry, found, member, isOperation,
      Format.isSome_value?_iff instruction.operands, inRange, ?_⟩
    omega
  case apart =>
    intro first second firstWord secondWord instruction fromFirst fromSecond
    have same := eq_of_decode fromFirst fromSecond
    omega
  case inverts =>
    intro entry member operands inRange notBare
    have decoded := decode_sum member inRange notBare
    rw [Operands.weight_eq] at decoded
    simpa only [Int.add_assoc] using decoded

/--
An opcode below zero draws, and its lowest sixteen bits are put together again.
-/
theorem decoding_inverts_adding_up_of_drawing :
    Instruction.decode (-0x2EDB) = .ok ⟨.drw, .sprite 1 2 5⟩ ∧
      (-0x2EDB : Int) % 0x10000 = 0xD000 + 0x100 * 1 + 0x10 * 2 + 5 ∧
      Instruction.decode 0xD125 = .ok ⟨.drw, .sprite 1 2 5⟩ := by
  obtain ⟨adds, -, inverts⟩ := decoding_inverts_adding_up
  have decoded : Instruction.decode (-0x2EDB) = .ok ⟨.drw, .sprite 1 2 5⟩ := rfl
  obtain ⟨entry, found, -, -, -, inRange, total⟩ := adds _ _ decoded
  obtain rfl : ⟨.drw, 0xD000, 0xF000⟩ = entry := Option.some.inj found
  exact ⟨decoded, total,
    inverts ⟨.drw, 0xD000, 0xF000⟩ (by decide) (.sprite 1 2 5) inRange nofun⟩

end ChipEight
