import ChipEight.Proofs.Histories

namespace ChipEight

/-!
# When a cycle fails

On a machine that keeps to its bounds a cycle fails for one of four reasons,
each of them with faults of its own: no instruction has the word at the program
counter, a return finds no open call, a call finds the stack full, or memory is
left by fetching, by storing digits or by moving a block of registers.
-/

namespace Machine

/-- Whether a cycle of a machine ends in a fault. -/
def FailsWith
    (machine : Machine)
    (fault : Fault) :
    Prop :=
  ∃ stopped, Action.cycle.run machine = .error fault stopped

/-- Whether no instruction has the word at the program counter. -/
def MeetsUnknownWord
    (machine : Machine) :
    Prop :=
  machine.programCounter < 4095 ∧
    ∀ entry ∈ instructionTable, machine.word &&& entry.mask ≠ entry.pattern

/-- Whether the next instruction is a return with no open call. -/
def ReturnsFromNoCall
    (machine : Machine) :
    Prop :=
  machine.programCounter < 4095 ∧
    machine.word = 0x00EE ∧
    machine.stackTop = -1

/-- Whether the next instruction is a call with the stack full. -/
def CallsTooDeep
    (machine : Machine) :
    Prop :=
  machine.programCounter < 4095 ∧
    (∃ nnn : Fin 0x1000, machine.word = 0x2000 + nnn) ∧
    machine.stackTop = 15

/-- Whether the next instruction, or a cell that it works on, is not in memory. -/
def LeavesMemory
    (machine : Machine) :
    Prop :=
  4095 ≤ machine.programCounter ∨
    machine.programCounter < 4095 ∧
      ∃ x : Fin 16,
        machine.word = 0xF033 + 0x100 * x ∧ 4093 < machine.indexRegister ∨
        (machine.word = 0xF055 + 0x100 * x ∨
            machine.word = 0xF065 + 0x100 * x) ∧
          4096 < machine.indexRegister + x + 1

variable {width height : Int} {machine : Machine}

/-- A cycle that fails at a decoded word meets the obstacle of its instruction. -/
theorem obstacle_of_failsWith
    (bounded : machine.Bounded width height)
    (inside : machine.programCounter < 4095)
    {instruction : Instruction}
    (decoded : Instruction.decode machine.word = .ok instruction)
    {fault : Fault}
    (fails : machine.FailsWith fault) :
    machine.Obstacle fault instruction.operation instruction.operands := by
  obtain ⟨stopped, ran⟩ := fails
  rcases Action.outcome_cycle bounded inside decoded with
    ⟨next, succeeded, -, -⟩ | ⟨found, halted, failed, -, obstacle⟩
  · rw [succeeded] at ran
    cases ran
  · rw [failed] at ran
    cases ran
    exact obstacle

/-- A cycle at a decoded word fails when its instruction meets an obstacle. -/
theorem failsWith_of_obstacle
    (bounded : machine.Bounded width height)
    (inside : machine.programCounter < 4095)
    {instruction : Instruction}
    (decoded : Instruction.decode machine.word = .ok instruction)
    {fault : Fault}
    (obstacle :
      machine.Obstacle fault instruction.operation instruction.operands) :
    ∃ found,
      machine.FailsWith found ∧
        machine.Obstacle found instruction.operation
          instruction.operands := by
  rcases Action.outcome_cycle bounded inside decoded with
    ⟨next, -, -, unobstructed⟩ | ⟨found, stopped, failed, -, reported⟩
  · exact (unobstructed fault obstacle).elim
  · exact ⟨found, ⟨stopped, failed⟩, reported⟩

theorem failsWith_noInstruction
    (bounded : machine.Bounded width height)
    (unknown : machine.MeetsUnknownWord) :
    machine.FailsWith (.noInstruction machine.word) := by
  have refused :=
    (Instruction.decode_eq_error_iff machine.word_lt).mpr ⟨rfl, unknown.2⟩
  exact ⟨_, Action.run_cycle_of_unknown machine bounded.programCounter.1
    unknown.1 refused⟩

theorem failsWith_noOpenCall
    (bounded : machine.Bounded width height)
    (returns : machine.ReturnsFromNoCall) :
    machine.FailsWith .noOpenCall := by
  obtain ⟨inside, atReturn, empty⟩ := returns
  have decoded := (Instruction.decode_eq_ret_iff machine.word_lt).mpr atReturn
  obtain ⟨fault, fails, -, rfl⟩ :=
    failsWith_of_obstacle bounded inside decoded ⟨empty, rfl⟩
  exact fails

/--
A machine just switched on meets a return at once in a program that
begins with one.
-/
theorem returnsFromNoCall_after_load
    {machine : Machine}
    (atStart : machine.programCounter = programStart)
    (noneOpen : machine.stackTop = -1) :
    (machine.after (.load [0x00, 0xEE])).ReturnsFromNoCall := by
  have sameCounter :
      (machine.after (.load [0x00, 0xEE])).programCounter = 0x200 :=
    (programCounter_after_load_pair machine 0x00 0xEE).trans atStart
  refine ⟨by omega, machine.word_after_load_pair atStart 0x00 0xEE, ?_⟩
  rw [after_load_pair]
  exact noneOpen

theorem failsWith_stackFull
    (bounded : machine.Bounded width height)
    (calls : machine.CallsTooDeep) :
    machine.FailsWith (.stackFull 16) := by
  obtain ⟨inside, ⟨nnn, atCall⟩, full⟩ := calls
  have decoded :=
    (Instruction.decode_eq_call_iff machine.word_lt nnn).mpr atCall
  obtain ⟨fault, fails, -, rfl⟩ :=
    failsWith_of_obstacle bounded inside decoded ⟨full, rfl⟩
  exact fails

theorem exists_failsWith_of_leavesMemory
    (bounded : machine.Bounded width height)
    (leaves : machine.LeavesMemory) :
    ∃ fault, machine.FailsWith fault ∧ fault.families = [.index, .lookup] := by
  rcases leaves with behind | ⟨inside, x, reason⟩
  · exact ⟨_, ⟨_, Action.run_cycle_of_le machine behind⟩, families_beyond _⟩
  · obtain ⟨instruction, decoded, obstacle, onlyLookups⟩ :
        ∃ instruction,
          Instruction.decode machine.word = .ok instruction ∧
            machine.Obstacle .noSuchCell instruction.operation
              instruction.operands ∧
            ∀ fault,
              machine.Obstacle fault instruction.operation
                instruction.operands →
              fault.families = [.index, .lookup] := by
      rcases reason with ⟨atWord, beyond⟩ | ⟨atWord | atWord, beyond⟩
      · exact ⟨_, (Instruction.decode_eq_ldB_iff machine.word_lt x).mpr atWord,
          ⟨beyond, rfl⟩, fun _ => And.right⟩
      · exact ⟨_, (Instruction.decode_eq_ldMemVx_iff machine.word_lt x).mpr
          atWord, ⟨beyond, rfl⟩, fun _ => And.right⟩
      · exact ⟨_, (Instruction.decode_eq_ldVxMem_iff machine.word_lt x).mpr
          atWord, ⟨beyond, rfl⟩, fun _ => And.right⟩
    obtain ⟨fault, fails, found⟩ :=
      failsWith_of_obstacle bounded inside decoded obstacle
    exact ⟨fault, fails, onlyLookups fault found⟩

/-- Every fault of a cycle has one of the four reasons. -/
theorem reason_of_failsWith
    (bounded : machine.Bounded width height)
    {fault : Fault}
    (fails : machine.FailsWith fault) :
    fault = .noInstruction machine.word ∧ machine.MeetsUnknownWord ∨
    fault = .noOpenCall ∧ machine.ReturnsFromNoCall ∨
    fault = .stackFull 16 ∧ machine.CallsTooDeep ∨
    fault.families = [.index, .lookup] ∧ machine.LeavesMemory := by
  rcases lt_or_ge machine.programCounter 4095 with inside | behind
  · cases decoded : Instruction.decode machine.word with
    | error refusal =>
        obtain ⟨stopped, ran⟩ := fails
        rw [Action.run_cycle_of_unknown machine bounded.programCounter.1
          inside decoded] at ran
        cases ran
        obtain ⟨isUnknown, misfits⟩ :=
          (Instruction.decode_eq_error_iff machine.word_lt).mp decoded
        exact Or.inl ⟨isUnknown, inside, misfits⟩
    | ok instruction =>
        have obstacle := obstacle_of_failsWith bounded inside decoded fails
        obtain ⟨operation, operands⟩ := instruction
        have proper :=
          ((Instruction.decode_eq_ok_iff machine.word_lt).mp decoded).1
        -- Only five operations have an obstacle, and it gives the reason.
        cases operation
        case ret =>
          cases proper
          obtain ⟨empty, isEmpty⟩ := obstacle
          have atWord :=
            (Instruction.decode_eq_ret_iff machine.word_lt).mp decoded
          exact Or.inr (Or.inl ⟨isEmpty, inside, atWord, empty⟩)
        case call =>
          cases proper with
          | address nnn =>
              obtain ⟨full, isFull⟩ := obstacle
              have atWord :=
                (Instruction.decode_eq_call_iff machine.word_lt nnn).mp decoded
              exact Or.inr (Or.inr (Or.inl
                ⟨isFull, inside, ⟨nnn, atWord⟩, full⟩))
        case ldB =>
          cases proper with
          | register x =>
              obtain ⟨beyond, families⟩ := obstacle
              have atWord :=
                (Instruction.decode_eq_ldB_iff machine.word_lt x).mp decoded
              exact Or.inr (Or.inr (Or.inr
                ⟨families, Or.inr ⟨inside, x, Or.inl ⟨atWord, beyond⟩⟩⟩))
        case ldMemVx =>
          cases proper with
          | register x =>
              obtain ⟨beyond, families⟩ := obstacle
              have atWord :=
                (Instruction.decode_eq_ldMemVx_iff machine.word_lt x).mp decoded
              exact Or.inr (Or.inr (Or.inr
                ⟨families,
                  Or.inr ⟨inside, x, Or.inr ⟨Or.inl atWord, beyond⟩⟩⟩))
        case ldVxMem =>
          cases proper with
          | register x =>
              obtain ⟨beyond, families⟩ := obstacle
              have atWord :=
                (Instruction.decode_eq_ldVxMem_iff machine.word_lt x).mp decoded
              exact Or.inr (Or.inr (Or.inr
                ⟨families,
                  Or.inr ⟨inside, x, Or.inr ⟨Or.inr atWord, beyond⟩⟩⟩))
        all_goals
          cases proper
          exact obstacle.elim
  · obtain ⟨stopped, ran⟩ := fails
    rw [Action.run_cycle_of_le machine behind] at ran
    cases ran
    exact Or.inr (Or.inr (Or.inr ⟨families_beyond _, Or.inl behind⟩))

/-- Drawing never fails, wherever the sprite lies and wherever it is drawn. -/
theorem not_failsWith_of_draw
    (bounded : machine.Bounded width height)
    (inside : machine.programCounter < 4095)
    {x y n : Fin 16}
    (atWord : machine.word = 0xD000 + 0x100 * x + 0x10 * y + n)
    (fault : Fault) :
    ¬ machine.FailsWith fault := by
  intro fails
  have decoded :=
    (Instruction.decode_eq_drw_iff machine.word_lt x y n).mpr (by omega)
  exact obstacle_of_failsWith bounded inside decoded fails

theorem not_failsWith_of_jump
    (lower : 0 ≤ machine.programCounter)
    (inside : machine.programCounter < 4095)
    (nnn : Fin 0x1000)
    (atWord : machine.word = 0x1000 + nnn)
    (fault : Fault) :
    ¬ machine.FailsWith fault := by
  rintro ⟨stopped, ran⟩
  have decoded :=
    (Instruction.decode_eq_jp_iff machine.word_lt nnn).mpr atWord
  rw [Action.run_cycle_of_decoded machine lower inside decoded] at ran
  cases ran

/-- A fault of a cycle is no unacceptable value and no side of length zero. -/
theorem families_of_failsWith
    (bounded : machine.Bounded width height)
    {fault : Fault}
    (fails : machine.FailsWith fault) :
    .value ∉ fault.families ∧ fault ≠ .zeroSide := by
  rcases reason_of_failsWith bounded fails with
    ⟨rfl, -⟩ | ⟨rfl, -⟩ | ⟨rfl, -⟩ | ⟨families, -⟩
  · exact ⟨by simp [Fault.families], nofun⟩
  · exact ⟨by simp [Fault.families], nofun⟩
  · exact ⟨by simp [Fault.families], nofun⟩
  · refine ⟨by simp [families], ?_⟩
    rintro rfl
    cases families

/--
When a cycle fails and with which fault, whatever happened before.

A failed look-up that is not reported as a fault of the program comes from
leaving memory, and every other fault names its reason.
-/
theorem cycle_fails_for_its_reasons
    (width height : Int)
    (wide : 1 ≤ width)
    (tall : 1 ≤ height)
    (random : RandomTape)
    (moves : List Move) :
    let machine := (fresh (Display.blank width height) random).afterAll moves
    ((∃ fault, machine.FailsWith fault) ↔
      machine.LeavesMemory ∨ machine.MeetsUnknownWord ∨
        machine.ReturnsFromNoCall ∨ machine.CallsTooDeep) ∧
    ((∃ fault,
        machine.FailsWith fault ∧ fault.families = [.index, .lookup]) ↔
      machine.LeavesMemory) ∧
    (∀ opcode,
      machine.FailsWith (.noInstruction opcode) ↔
        opcode = machine.word ∧ machine.MeetsUnknownWord) ∧
    (machine.FailsWith .noOpenCall ↔ machine.ReturnsFromNoCall) ∧
    (∀ capacity,
      machine.FailsWith (.stackFull capacity) ↔
        capacity = 16 ∧ machine.CallsTooDeep) ∧
    (∀ x y n : Fin 16,
      machine.programCounter < 4095 →
      machine.word = 0xD000 + 0x100 * x + 0x10 * y + n →
      ∀ fault, ¬ machine.FailsWith fault) ∧
    (∀ fault,
      machine.FailsWith fault →
      .value ∉ fault.families ∧ fault ≠ .zeroSide) := by
  intro machine
  have bounded : machine.Bounded width height :=
    (Bounded.fresh wide tall random).afterAll moves
  refine ⟨?anyFault, ?lookup, ?unknown, ?empty, ?full, ?draw, ?others⟩
  case anyFault =>
    constructor
    · rintro ⟨fault, fails⟩
      rcases reason_of_failsWith bounded fails with
        ⟨-, unknown⟩ | ⟨-, returns⟩ | ⟨-, calls⟩ | ⟨-, leaves⟩
      · exact Or.inr (Or.inl unknown)
      · exact Or.inr (Or.inr (Or.inl returns))
      · exact Or.inr (Or.inr (Or.inr calls))
      · exact Or.inl leaves
    · rintro (leaves | unknown | returns | calls)
      · obtain ⟨fault, fails, -⟩ :=
          exists_failsWith_of_leavesMemory bounded leaves
        exact ⟨fault, fails⟩
      · exact ⟨_, failsWith_noInstruction bounded unknown⟩
      · exact ⟨_, failsWith_noOpenCall bounded returns⟩
      · exact ⟨_, failsWith_stackFull bounded calls⟩
  case lookup =>
    constructor
    · rintro ⟨fault, fails, families⟩
      rcases reason_of_failsWith bounded fails with
        ⟨rfl, -⟩ | ⟨rfl, -⟩ | ⟨rfl, -⟩ | ⟨-, leaves⟩
      · cases families
      · cases families
      · cases families
      · exact leaves
    · exact exists_failsWith_of_leavesMemory bounded
  case unknown =>
    intro opcode
    constructor
    · intro fails
      rcases reason_of_failsWith bounded fails with
        ⟨same, unknown⟩ | ⟨other, -⟩ | ⟨other, -⟩ | ⟨families, -⟩
      · exact ⟨Fault.noInstruction.inj same, unknown⟩
      · cases other
      · cases other
      · cases families
    · rintro ⟨rfl, unknown⟩
      exact failsWith_noInstruction bounded unknown
  case empty =>
    constructor
    · intro fails
      rcases reason_of_failsWith bounded fails with
        ⟨other, -⟩ | ⟨-, returns⟩ | ⟨other, -⟩ | ⟨families, -⟩
      · cases other
      · exact returns
      · cases other
      · cases families
    · exact failsWith_noOpenCall bounded
  case full =>
    intro capacity
    constructor
    · intro fails
      rcases reason_of_failsWith bounded fails with
        ⟨other, -⟩ | ⟨other, -⟩ | ⟨same, calls⟩ | ⟨families, -⟩
      · cases other
      · cases other
      · exact ⟨Fault.stackFull.inj same, calls⟩
      · cases families
    · rintro ⟨rfl, calls⟩
      exact failsWith_stackFull bounded calls
  case draw =>
    intro x y n inside atWord
    exact not_failsWith_of_draw bounded inside atWord
  case others =>
    intro fault fails
    exact families_of_failsWith bounded fails

/-- A program that begins with a return fails at once. -/
theorem cycle_fails_for_its_reasons_at_first_return :
    let machine :=
      (fresh (Display.blank 64 32) (RandomTape.start [])).afterAll
        [.load [0x00, 0xEE]]
    (1 : Int) ≤ 64 ∧ (1 : Int) ≤ 32 ∧ machine.FailsWith .noOpenCall := by
  intro machine
  have wide : (1 : Int) ≤ 64 := by decide
  have tall : (1 : Int) ≤ 32 := by decide
  obtain ⟨-, -, -, empty, -⟩ :=
    cycle_fails_for_its_reasons 64 32 wide tall (RandomTape.start [])
      [.load [0x00, 0xEE]]
  exact ⟨wide, tall, empty.mpr (returnsFromNoCall_after_load rfl rfl)⟩

end Machine

end ChipEight
