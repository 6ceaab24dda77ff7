import ChipEight.Machine.Cycle
import ChipEight.Proofs.Decoding
import ChipEight.Proofs.Effects

namespace ChipEight

/-!
# How a cycle runs

A cycle forgets whether the previous one drew, fetches the word at the program
counter, decodes it and executes the instruction. It fails before anything else
is changed when there is no whole word at the program counter or when the word
is that of no instruction; otherwise it fails as its instruction does.
-/

namespace Machine

/-- The byte at an address; behind the memory there are zeros. -/
def byteAt
    (machine : Machine)
    (address : Nat) :
    UInt8 :=
  machine.memory.cells[address]?.getD 0

theorem byteAt_val
    (machine : Machine)
    (cell : Fin memorySize) :
    machine.byteAt cell = machine.memory.byte cell := by
  rw [byteAt, Vector.getElem?_eq_getElem cell.isLt, Option.getD_some]
  rfl

/-- The word at the program counter. -/
def word
    (machine : Machine) :
    Nat :=
  0x100 * (machine.byteAt machine.programCounter.toNat).toNat +
    (machine.byteAt (machine.programCounter.toNat + 1)).toNat

theorem word_lt
    (machine : Machine) :
    machine.word < 0x10000 := by
  have high := (machine.byteAt machine.programCounter.toNat).toNat_lt
  have low := (machine.byteAt (machine.programCounter.toNat + 1)).toNat_lt
  simp only [word]
  omega

/-- A machine that has forgotten whether it drew. -/
def settled
    (machine : Machine) :
    Machine :=
  { machine with displayChanged := false }

end Machine

namespace Action

variable (machine : Machine)

theorem run_fetch
    (lower : 0 ≤ machine.programCounter)
    (inside : machine.programCounter < 4095) :
    fetch.run machine = .ok machine.word machine := by
  obtain ⟨place, atPlace⟩ := Int.eq_ofNat_of_zero_le lower
  have firstInside : place < memorySize := by
    simp only [memorySize]
    omega
  have secondInside : place + 1 < memorySize := by
    simp only [memorySize]
    omega
  have high := run_readByte ⟨place, firstInside⟩ machine
  have low := run_readByte ⟨place + 1, secondInside⟩ machine
  rw [← Machine.byteAt_val] at high low
  simp only [Int.natCast_add, Int.cast_ofNat_Int] at high low
  simp [-bind_pure_comp, fetch, atPlace, high, low, Machine.word, Int.mul_comm]

/-- No word is fetched where it is not wholly in memory. -/
theorem run_fetch_of_le
    (behind : 4095 ≤ machine.programCounter) :
    fetch.run machine =
      .error (Cells.beyond machine.programCounter .noSuchCell) machine := by
  by_cases atLast : machine.programCounter = 4095
  · have high := run_readByte ⟨4095, by decide⟩ machine
    have low : (readByte 4096).run machine = .error .noSuchCell machine :=
      run_readByte_of_size_le (Int.le_refl _) machine
    simp only [Int.cast_ofNat_Int] at high
    simp [-bind_pure_comp, fetch, atLast, high, low, Cells.beyond, wordLimit]
  · have refused :=
      run_readByte_of_size_le
        (by simp only [memorySize]; omega :
          memorySize ≤ machine.programCounter) machine
    simp [fetch, refused]

/-- A cycle fails where no word is wholly in memory. -/
theorem run_cycle_of_le
    (behind : 4095 ≤ machine.programCounter) :
    cycle.run machine =
      .error (Cells.beyond machine.programCounter .noSuchCell)
        machine.settled := by
  have refused := run_fetch_of_le machine.settled behind
  simp only [Machine.settled] at refused
  simp [cycle, refused, Machine.settled]

/-- A cycle at the last cell misses the second byte of its word. -/
theorem run_cycle_of_atLast
    {machine : Machine}
    (atLast : machine.programCounter = 4095) :
    cycle.run machine = .error .noSuchCell machine.settled := by
  rw [run_cycle_of_le machine (by omega), atLast]
  rfl

/-- A cycle fails at a word that is not decoded. -/
theorem run_cycle_of_unknown
    (lower : 0 ≤ machine.programCounter)
    (inside : machine.programCounter < 4095)
    {fault : Fault}
    (unknown : Instruction.decode machine.word = .error fault) :
    cycle.run machine = .error fault machine.settled := by
  have fetched := run_fetch machine.settled lower inside
  have sameWord : machine.settled.word = machine.word := rfl
  rw [sameWord] at fetched
  simp only [Machine.settled] at fetched
  simp [cycle, fetched, unknown, Machine.settled]

/-- A cycle that fetches and decodes an instruction ends as its instruction does. -/
theorem run_cycle_of_fetched
    {opcode : Int}
    (fetched : fetch.run machine.settled = .ok opcode machine.settled)
    {instruction : Instruction}
    (decoded : Instruction.decode opcode = .ok instruction) :
    cycle.run machine =
      match
        (execute instruction.operation instruction.operands).run
          machine.settled
      with
      | .ok _ next =>
          .ok
            { address := machine.programCounter, instruction := instruction }
            next
      | .error fault stopped => .error fault stopped := by
  simp only [Machine.settled] at fetched
  simp only [cycle, perform, EStateM.run_bind, EStateM.run_modify, fetched,
    decoded, run_attempt_ok, EStateM.run_get, EStateM.run_pure, Machine.settled]
  cases (execute instruction.operation instruction.operands).run _ <;> rfl

/-- A cycle at a word that is decoded ends as its instruction does. -/
theorem run_cycle_of_decoded
    (lower : 0 ≤ machine.programCounter)
    (inside : machine.programCounter < 4095)
    {instruction : Instruction}
    (decoded : Instruction.decode machine.word = .ok instruction) :
    cycle.run machine =
      match
        (execute instruction.operation instruction.operands).run
          machine.settled
      with
      | .ok _ next =>
          .ok
            { address := machine.programCounter, instruction := instruction }
            next
      | .error fault stopped => .error fault stopped :=
  run_cycle_of_fetched machine (run_fetch machine.settled lower inside) decoded

/-- A cycle stops before it executes anything, or there is an instruction for it. -/
theorem stops_or_decodes
    (lower : 0 ≤ machine.programCounter) :
    (∃ fault, cycle.run machine = .error fault machine.settled) ∨
      machine.programCounter < 4095 ∧
        ∃ instruction,
          Instruction.decode machine.word = .ok instruction := by
  by_cases inside : machine.programCounter < 4095
  · cases decoded : Instruction.decode machine.word with
    | error fault =>
        exact Or.inl ⟨fault, run_cycle_of_unknown machine lower inside decoded⟩
    | ok instruction =>
        exact Or.inr ⟨inside, instruction, rfl⟩
  · exact Or.inl ⟨_, run_cycle_of_le machine (Int.not_lt.mp inside)⟩

end Action

end ChipEight
