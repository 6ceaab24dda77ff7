import ChipEight.Proofs.MemoryAccess
import ChipEight.Proofs.Opcodes
import ChipEight.Proofs.WriteSets

namespace ChipEight

/-!
# Blocks of registers in memory

The registers up to one of them are stored to as many cells from the index
register on, and loaded back from there. Both are refused alike when the cells
do not all lie in memory. What was stored stays in its cells for as long as no
instruction stores to them, wherever the index register goes in the meantime and
whatever becomes of the program counter. So the registers come back, all of them
or the first ones, once the index register is led back to where they are.
-/

namespace Machine

/--
What an instruction keeps to on any machine whose index register is an address.
-/
structure StoresWithin
    (instruction : Instruction)
    (before after : Machine) : Prop where
  indexRegister :
    0 ≤ after.indexRegister
  memory :
    ∀ cell,
      after.memory.byte cell ≠ before.memory.byte cell →
      instruction.StoresTo before.indexRegister cell

namespace StoresWithin

variable {machine after : Machine} {instruction : Instruction}

theorem of_same
    (lower : 0 ≤ after.indexRegister)
    (same : after.memory = machine.memory) :
    machine.StoresWithin instruction after where
  indexRegister := lower
  memory := by
    intro cell changed
    rw [same] at changed
    exact absurd rfl changed

theorem of_stored
    (lower : 0 ≤ machine.indexRegister)
    (stored :
      ∃ memory counter,
        after =
            { machine with memory := memory, programCounter := counter } ∧
          ∀ cell,
            memory.byte cell ≠ machine.memory.byte cell →
            instruction.StoresTo machine.indexRegister cell) :
    machine.StoresWithin instruction after := by
  obtain ⟨memory, counter, rfl, stores⟩ := stored
  exact ⟨lower, stores⟩

end StoresWithin

end Machine

namespace Action

open Machine

variable {machine : Machine}

/-! Instructions on machines that need not keep to their bounds. -/

theorem storesWithin_ret
    (lower : 0 ≤ machine.indexRegister) :
    machine.StoresWithin ⟨.ret, .bare⟩
      (machineOf ((execute .ret .bare).run machine)) := by
  rcases Int.lt_or_le machine.stackTop 0 with empty | notEmpty
  · rw [run_ret_of_empty machine empty]
    exact .of_same lower rfl
  · have inUse : ¬ machine.stackTop < 0 := Int.not_lt.mpr notEmpty
    cases located :
        Cells.locate stackCapacity machine.stackTop .noSuchPlace <;>
      refine .of_same ?_ ?_ <;>
      simp [execute, readStack, inUse, located, machineOf, lower]

theorem storesWithin_call
    (lower : 0 ≤ machine.indexRegister)
    (nnn : Int) :
    machine.StoresWithin ⟨.call, .address nnn⟩
      (machineOf ((execute .call (.address nnn)).run machine)) := by
  rcases Int.lt_or_le (machine.stackTop + 1) stackCapacity with room | full
  · have notFull : ¬ (stackCapacity : Int) ≤ machine.stackTop + 1 :=
      Int.not_le.mpr room
    cases located :
        Cells.locate stackCapacity (machine.stackTop + 1) .noPlaceToWrite <;>
      refine .of_same ?_ ?_ <;>
      simp [execute, writeStack, notFull, located, machineOf, lower]
  · rw [run_call_of_full machine nnn full]
    exact .of_same lower rfl

theorem storesWithin_drw
    (lower : 0 ≤ machine.indexRegister)
    (x y : Fin registerCount)
    (n : Nat) :
    machine.StoresWithin ⟨.drw, .sprite (x : Nat) (y : Nat) n⟩
      (machineOf
        ((execute .drw (.sprite (x : Nat) (y : Nat) n)).run machine)) := by
  cases drawing :
      machine.display.draw (indexedBytes machine n)
        (machine.registers.byte x).toNat (machine.registers.byte y).toNat with
  | ok result =>
      obtain ⟨drawn, erased⟩ := result
      rw [run_drw machine x y n lower drawing]
      exact .of_same lower rfl
  | error fault =>
      have rows := run_readBytes_indexed lower
        (rfl : machine.indexRegister + n = machine.indexRegister + n)
      simp only [indexedBytes, List.map_take, List.map_drop] at drawing
      refine .of_same ?_ ?_ <;>
        simp [execute, rows, draw, drawing, machineOf, lower]

theorem storesWithin_ldVxMem
    (lower : 0 ≤ machine.indexRegister)
    (x : Fin registerCount) :
    machine.StoresWithin ⟨.ldVxMem, .register (x : Nat)⟩
      (machineOf ((execute .ldVxMem (.register (x : Nat))).run machine)) := by
  rcases lt_or_ge 4096 (machine.indexRegister + (x : Nat) + 1) with
    beyond | fits
  · obtain ⟨fault, ran, -⟩ := exists_run_ldVxMem_error lower beyond
    rw [ran]
    exact .of_same lower rfl
  · obtain ⟨written, -, ran⟩ := exists_run_ldVxMem lower fits
    rw [ran]
    exact .of_same lower rfl

/-- An instruction changes only cells that it may store to, however it ends. -/
theorem storesWithin_execute
    (lower : 0 ≤ machine.indexRegister)
    {operation : Operation}
    {operands : Operands operation.format}
    (proper : operands.Proper) :
    machine.StoresWithin ⟨operation, operands⟩
      (machineOf ((execute operation operands).run machine)) := by
  cases operation
  case ret =>
    cases proper
    exact storesWithin_ret lower
  case call =>
    cases proper
    exact storesWithin_call lower _
  case drw =>
    cases proper
    exact storesWithin_drw lower _ _ _
  case ldB =>
    cases proper
    exact .of_stored lower (exists_stored_ldB lower _)
  case ldMemVx =>
    cases proper
    exact .of_stored lower (exists_stored_ldMemVx lower _)
  case ldVxMem =>
    cases proper
    exact storesWithin_ldVxMem lower _
  case ldI | addI | ldF =>
    cases proper
    simp only [run_ldI, run_addI, run_ldF, machineOf]
    refine .of_same ?_ rfl
    simp only [glyphStart, glyphSize]
    omega
  case ldVxK =>
    cases proper
    rw [run_ldVxK, machineOf]
    split <;> exact .of_same lower rfl
  all_goals
    cases proper
    simp only [run_sys, run_cls, run_jp, run_jpV0, run_se, run_sne, run_seReg,
      run_sneReg, run_skp, run_sknp, run_ld, run_add, run_ldReg, run_or,
      run_and, run_xor, run_addReg, run_sub, run_shr, run_subn, run_shl,
      run_writeFlagged, run_rnd, run_ldVxDt, run_ldDtVx, run_ldStVx, machineOf]
    exact .of_same lower rfl

end Action

namespace Machine

/-! Opcodes beside some cells. -/

/-- Whether the instruction of an opcode may store to a cell. -/
def StoresBy
    (machine : Machine)
    (opcode : Nat)
    (cell : Fin memorySize) :
    Prop :=
  ∃ instruction,
    Instruction.decode opcode = .ok instruction ∧
      instruction.StoresTo machine.indexRegister cell

/--
Opcodes lead from one machine to another, and none of them stores to a
cell that is kept.
-/
inductive ReachesBeside
    (kept : Fin memorySize → Prop)
    (start : Machine) :
    Machine →
    Prop
  | refl :
      ReachesBeside kept start start
  | step
      {reached next : Machine}
      {opcode : Nat}
      (earlier : ReachesBeside kept start reached)
      (executes : reached.Executes opcode next)
      (beside : ∀ cell, kept cell → ¬ reached.StoresBy opcode cell) :
      ReachesBeside kept start next

variable {machine next : Machine} {opcode : Nat}

theorem Executes.storesWithin
    (executes : machine.Executes opcode next)
    (lower : 0 ≤ machine.indexRegister) :
    ∃ instruction,
      Instruction.decode opcode = .ok instruction ∧
        machine.StoresWithin instruction next := by
  obtain ⟨instruction, decoded, ran⟩ := executes
  obtain ⟨entry, -, -, -, inRange, -⟩ := Instruction.sum_of_decode decoded
  have within :=
    Action.storesWithin_execute lower (Operands.proper_of_inRange inRange)
  rw [ran] at within
  exact ⟨instruction, decoded, within⟩

/-- An opcode keeps the byte of a cell that it may not store to. -/
theorem Executes.byte_eq
    (executes : machine.Executes opcode next)
    (lower : 0 ≤ machine.indexRegister)
    {cell : Fin memorySize}
    (notStored : ¬ machine.StoresBy opcode cell) :
    next.memory.byte cell = machine.memory.byte cell := by
  obtain ⟨instruction, decoded, within⟩ := executes.storesWithin lower
  by_contra changed
  exact notStored ⟨instruction, decoded, within.memory cell changed⟩

/--
Cells that are kept hold their bytes, however many opcodes execute beside them.
-/
theorem ReachesBeside.byte_eq
    {kept : Fin memorySize → Prop}
    {start reached : Machine}
    (reaches : start.ReachesBeside kept reached)
    (lower : 0 ≤ start.indexRegister) :
    0 ≤ reached.indexRegister ∧
      ∀ cell,
        kept cell →
        reached.memory.byte cell = start.memory.byte cell := by
  -- An instruction is only confined while the index register is an address.
  induction reaches with
  | refl => exact ⟨lower, fun cell isKept => rfl⟩
  | step earlier executes beside inductionHypothesis =>
      obtain ⟨lowerReached, same⟩ := inductionHypothesis
      obtain ⟨instruction, -, within⟩ := executes.storesWithin lowerReached
      refine ⟨within.indexRegister, fun cell isKept => ?_⟩
      rw [executes.byte_eq lowerReached (beside cell isKept), same cell isKept]

/-! Storing and loading a block. -/

/-- Whether a cell is one of those that the registers up to `x` are stored to. -/
def InBlock
    (machine : Machine)
    (x : Fin registerCount)
    (cell : Fin memorySize) :
    Prop :=
  machine.indexRegister ≤ (cell : Nat) ∧
    ((cell : Nat) : Int) ≤ machine.indexRegister + (x : Nat)

/-- A machine becomes another one by storing its registers up to `x`. -/
structure StoresBlock
    (before : Machine)
    (x : Fin registerCount)
    (after : Machine) : Prop where
  memoryOnly :
    after =
      { before with
        memory := after.memory,
        programCounter := before.programCounter + 2 }
  inside :
    ∀ (register : Fin registerCount) (cell : Fin memorySize),
      register ≤ x →
      ((cell : Nat) : Int) = before.indexRegister + (register : Nat) →
      after.memory.byte cell = before.registers.byte register
  outside :
    ∀ cell,
      ¬ before.InBlock x cell →
      after.memory.byte cell = before.memory.byte cell

/-- A machine becomes another one by loading its registers up to `x`. -/
structure LoadsBlock
    (before : Machine)
    (x : Fin registerCount)
    (after : Machine) : Prop where
  registersOnly :
    after =
      { before with
        registers := after.registers,
        programCounter := before.programCounter + 2 }
  inside :
    ∀ (register : Fin registerCount) (cell : Fin memorySize),
      register ≤ x →
      ((cell : Nat) : Int) = before.indexRegister + (register : Nat) →
      after.registers.byte register = before.memory.byte cell
  outside :
    ∀ register,
      x < register →
      after.registers.byte register = before.registers.byte register

theorem StoresBlock.indexRegister_eq
    {x : Fin registerCount}
    (storesBlock : machine.StoresBlock x next) :
    next.indexRegister = machine.indexRegister := by
  rw [storesBlock.memoryOnly]

theorem LoadsBlock.indexRegister_eq
    {x : Fin registerCount}
    (loadsBlock : machine.LoadsBlock x next) :
    next.indexRegister = machine.indexRegister := by
  rw [loadsBlock.registersOnly]

theorem LoadsBlock.memory_eq
    {x : Fin registerCount}
    (loadsBlock : machine.LoadsBlock x next) :
    next.memory = machine.memory := by
  rw [loadsBlock.registersOnly]

/-- An opcode is decoded, but its instruction fails and changes nothing. -/
def Refuses
    (machine : Machine)
    (opcode : Nat) :
    Prop :=
  ∃ instruction fault,
    Instruction.decode opcode = .ok instruction ∧
      (Action.execute instruction.operation instruction.operands).run
          machine =
        .error fault machine

theorem Refuses.not_executes
    (refuses : machine.Refuses opcode) :
    ¬ machine.Executes opcode next := by
  rintro ⟨instruction, decoded, ran⟩
  obtain ⟨refused, fault, decodedToo, failed⟩ := refuses
  obtain rfl := Except.ok.inj (decoded.symm.trans decodedToo)
  cases failed.symm.trans ran

section Blocks

variable {x : Fin registerCount} (lower : 0 ≤ machine.indexRegister)

include lower

/-- Every register of a block that lies in memory has its cell. -/
theorem exists_cell_of_fits
    (fits : machine.indexRegister + (x : Nat) + 1 ≤ 4096)
    {register : Fin registerCount}
    (upTo : register ≤ x) :
    ∃ cell : Fin memorySize,
      machine.InBlock x cell ∧
        ((cell : Nat) : Int) =
          machine.indexRegister + (register : Nat) := by
  have notBehind : (register : Nat) ≤ x := upTo
  have inMemory :
      (machine.indexRegister + (register : Nat)).toNat < memorySize := by
    simp only [memorySize]
    omega
  refine ⟨⟨_, inMemory⟩, ⟨?_, ?_⟩, ?_⟩ <;> simp only <;> omega

theorem exists_storesBlock
    (fits : machine.indexRegister + (x : Nat) + 1 ≤ 4096) :
    ∃ next,
      machine.Executes (0xF055 + 0x100 * x) next ∧
        machine.StoresBlock x next := by
  obtain ⟨written, accepted, ran⟩ := Action.exists_run_ldMemVx lower fits
  have ordered :
      machine.indexRegister ≤ machine.indexRegister + (x : Nat) + 1 := by
    omega
  refine ⟨_,
    executes_of_mem .ldMemVx 0xF055 0xF0FF (by decide) (by decide)
      (.register x) rfl ran,
    rfl, ?inside, ?outside⟩
  case inside =>
    intro register cell upTo atCell
    have notBehind : (register : Nat) ≤ x := upTo
    have inValues :
        (register : Nat) <
          (Action.firstRegisters machine (x + 1)).length := by
      rw [Action.length_firstRegisters]
      omega
    rw [Memory.byte_writeSpan_between lower ordered accepted inValues atCell,
      Action.getElem_firstRegisters, Memory.ofInt_toNat]
  case outside =>
    intro cell outside
    refine
      Memory.byte_writeSpan_between_of_outside lower ordered accepted ?_
    rintro ⟨notBefore, notBehind⟩
    exact outside ⟨notBefore, by omega⟩

theorem exists_loadsBlock
    (fits : machine.indexRegister + (x : Nat) + 1 ≤ 4096) :
    ∃ next,
      machine.Executes (0xF065 + 0x100 * x) next ∧
        machine.LoadsBlock x next := by
  obtain ⟨written, accepted, ran⟩ := Action.exists_run_ldVxMem lower fits
  have ordered : (0 : Int) ≤ (x : Nat) + 1 := by
    omega
  refine ⟨_,
    executes_of_mem .ldVxMem 0xF065 0xF0FF (by decide) (by decide)
      (.register x) rfl ran,
    rfl, ?inside, ?outside⟩
  case inside =>
    intro register cell upTo atCell
    have notBehind : (register : Nat) ≤ x := upTo
    have inMemory : (cell : Nat) < memorySize := cell.isLt
    have inValues :
        (register : Nat) <
          (Action.indexedBytes machine (x + 1)).length := by
      rw [Action.length_indexedBytes]
      omega
    rw [Memory.byte_writeSpan_between (Int.le_refl 0) ordered accepted
        inValues (Int.zero_add _).symm,
      Action.getElem_indexedBytes lower inValues atCell, Memory.ofInt_toNat]
  case outside =>
    intro register behind
    have isBehind : (x : Nat) < register := behind
    exact
      Memory.byte_writeSpan_between_of_outside (Int.le_refl 0) ordered
        accepted (by omega)

/-- A block that does not lie in memory is neither stored nor loaded. -/
theorem refuses_of_beyond
    (beyond : 4096 < machine.indexRegister + (x : Nat) + 1) :
    machine.Refuses (0xF055 + 0x100 * x) ∧
      machine.Refuses (0xF065 + 0x100 * x) := by
  obtain ⟨storeFault, notStored, -⟩ :=
    Action.exists_run_ldMemVx_error lower beyond
  obtain ⟨loadFault, notLoaded, -⟩ :=
    Action.exists_run_ldVxMem_error lower beyond
  exact
    ⟨⟨⟨.ldMemVx, .register (x : Nat)⟩, storeFault,
        Instruction.decode_of_mem .ldMemVx 0xF055 0xF0FF (by decide)
          (by decide) (.register x) rfl,
        notStored⟩,
      ⟨⟨.ldVxMem, .register (x : Nat)⟩, loadFault,
        Instruction.decode_of_mem .ldVxMem 0xF065 0xF0FF (by decide)
          (by decide) (.register x) rfl,
        notLoaded⟩⟩

/-- Where registers are stored, their block lies in memory and holds them. -/
theorem StoresBlock.of_executes
    (executes : machine.Executes (0xF055 + 0x100 * x) next) :
    machine.indexRegister + (x : Nat) + 1 ≤ 4096 ∧
      machine.StoresBlock x next := by
  have fits : machine.indexRegister + (x : Nat) + 1 ≤ 4096 := by
    by_contra beyond
    exact (refuses_of_beyond lower (Int.not_le.mp beyond)).1.not_executes
      executes
  obtain ⟨stored, executesToo, storesBlock⟩ := exists_storesBlock lower fits
  obtain rfl := executes.unique executesToo
  exact ⟨fits, storesBlock⟩

theorem LoadsBlock.of_executes
    (executes : machine.Executes (0xF065 + 0x100 * x) next) :
    machine.indexRegister + (x : Nat) + 1 ≤ 4096 ∧
      machine.LoadsBlock x next := by
  have fits : machine.indexRegister + (x : Nat) + 1 ≤ 4096 := by
    by_contra beyond
    exact (refuses_of_beyond lower (Int.not_le.mp beyond)).2.not_executes
      executes
  obtain ⟨loaded, executesToo, loadsBlock⟩ := exists_loadsBlock lower fits
  obtain rfl := executes.unique executesToo
  exact ⟨fits, loadsBlock⟩

end Blocks

/--
What was stored is loaded again, as long as no opcode stored to its
cells since then.
-/
theorem StoresBlock.exists_loaded
    {x : Fin registerCount}
    {stored reached ready : Machine}
    (storesBlock : machine.StoresBlock x stored)
    (lower : 0 ≤ machine.indexRegister)
    (fits : machine.indexRegister + (x : Nat) + 1 ≤ 4096)
    (reaches : stored.ReachesBeside (machine.InBlock x) reached)
    (sameMemory : ready.memory = reached.memory)
    (sameIndex : ready.indexRegister = machine.indexRegister)
    {y : Fin registerCount}
    (upTo : y ≤ x) :
    ∃ loaded,
      ready.Executes (0xF065 + 0x100 * y) loaded ∧
        (∀ register,
          register ≤ y →
          loaded.registers.byte register =
            machine.registers.byte register) ∧
        ∀ register,
          y < register →
          loaded.registers.byte register = ready.registers.byte register := by
  have lowerStored : 0 ≤ stored.indexRegister := by
    rw [storesBlock.indexRegister_eq]
    exact lower
  have lowerReady : 0 ≤ ready.indexRegister := by
    rw [sameIndex]
    exact lower
  have fitsReady : ready.indexRegister + (y : Nat) + 1 ≤ 4096 := by
    have notBehind : (y : Nat) ≤ x := upTo
    omega
  obtain ⟨-, sameBytes⟩ := reaches.byte_eq lowerStored
  obtain ⟨loaded, executes, loadsBlock⟩ :=
    exists_loadsBlock lowerReady fitsReady
  refine ⟨loaded, executes, fun register upToY => ?_, loadsBlock.outside⟩
  have upToX : register ≤ x := le_trans upToY upTo
  obtain ⟨cell, inBlock, atCell⟩ := exists_cell_of_fits lower fits upToX
  have atReady :
      ((cell : Nat) : Int) = ready.indexRegister + (register : Nat) := by
    rw [sameIndex, atCell]
  calc
    loaded.registers.byte register
        = ready.memory.byte cell :=
          loadsBlock.inside register cell upToY atReady
    _ = stored.memory.byte cell := by
          rw [sameMemory, sameBytes cell inBlock]
    _ = machine.registers.byte register :=
          storesBlock.inside register cell upToX atCell

/-- What was just loaded is stored where it came from, so memory stays as it is. -/
theorem LoadsBlock.exists_stored
    {x : Fin registerCount}
    {loaded : Machine}
    (loadsBlock : machine.LoadsBlock x loaded)
    (lower : 0 ≤ machine.indexRegister)
    (fits : machine.indexRegister + (x : Nat) + 1 ≤ 4096) :
    ∃ stored,
      loaded.Executes (0xF055 + 0x100 * x) stored ∧
        stored.memory = machine.memory := by
  have sameIndex := loadsBlock.indexRegister_eq
  obtain ⟨stored, executes, storesBlock⟩ :=
    exists_storesBlock (lower.trans_eq sameIndex.symm)
      (sameIndex.symm ▸ fits)
  refine ⟨stored, executes, Memory.eq_of_byte fun cell => ?_⟩
  by_cases inBlock : loaded.InBlock x cell
  · obtain ⟨notBefore, notBehind⟩ := inBlock
    have small : (x : Nat) < registerCount := x.isLt
    let register : Fin registerCount :=
      ⟨((cell : Nat) - loaded.indexRegister).toNat, by omega⟩
    have upTo : register ≤ x := by
      rw [Fin.le_def]
      simp only [register]
      omega
    have atCell :
        ((cell : Nat) : Int) = loaded.indexRegister + (register : Nat) := by
      simp only [register]
      omega
    rw [storesBlock.inside register cell upTo atCell,
      loadsBlock.inside register cell upTo (by rw [← sameIndex, atCell])]
  · rw [storesBlock.outside cell inBlock, loadsBlock.memory_eq]

/--
Registers that are stored to memory come back from there.

Storing and loading the registers up to `x` succeed under the same condition and
leave the index register alone; beyond memory both fail and change nothing.
Between the two any opcodes may execute that do not store to the block, and as
many of its registers come back as are asked for. Loading and then storing the
same registers leaves memory as it was.
-/
theorem stored_registers_come_back
    (width height : Int)
    (wide : 1 ≤ width)
    (tall : 1 ≤ height)
    (random : RandomTape)
    (moves : List Move)
    (x : Fin registerCount) :
    let machine := (fresh (Display.blank width height) random).afterAll moves
    let fits := machine.indexRegister + (x : Nat) + 1 ≤ 4096
    ((∃ stored, machine.Executes (0xF055 + 0x100 * x) stored) ↔ fits) ∧
    ((∃ loaded, machine.Executes (0xF065 + 0x100 * x) loaded) ↔ fits) ∧
    (∀ stored,
      machine.Executes (0xF055 + 0x100 * x) stored →
      stored.indexRegister = machine.indexRegister ∧
        ∀ (reached ready : Machine) (y : Fin registerCount),
          stored.ReachesBeside (machine.InBlock x) reached →
          ready.memory = reached.memory →
          ready.indexRegister = machine.indexRegister →
          y ≤ x →
          ∃ loaded,
            ready.Executes (0xF065 + 0x100 * y) loaded ∧
              (∀ register,
                register ≤ y →
                loaded.registers.byte register =
                  machine.registers.byte register) ∧
              ∀ register,
                y < register →
                loaded.registers.byte register =
                  ready.registers.byte register) ∧
    (∀ loaded,
      machine.Executes (0xF065 + 0x100 * x) loaded →
      loaded.indexRegister = machine.indexRegister ∧
        ∃ stored,
          loaded.Executes (0xF055 + 0x100 * x) stored ∧
            stored.memory = machine.memory) ∧
    (4096 < machine.indexRegister + (x : Nat) + 1 →
      machine.Refuses (0xF055 + 0x100 * x) ∧
        machine.Refuses (0xF065 + 0x100 * x)) := by
  intro machine fits
  have bounded : machine.Bounded width height :=
    (Bounded.fresh wide tall random).afterAll moves
  have lower : 0 ≤ machine.indexRegister := bounded.indexRegister
  refine ⟨⟨?storesOnly, ?stores⟩, ⟨?loadsOnly, ?loads⟩, ?restored, ?unchanged,
    refuses_of_beyond lower⟩
  case storesOnly =>
    rintro ⟨stored, executes⟩
    exact (StoresBlock.of_executes lower executes).1
  case stores =>
    intro inMemory
    obtain ⟨stored, executes, -⟩ := exists_storesBlock lower inMemory
    exact ⟨stored, executes⟩
  case loadsOnly =>
    rintro ⟨loaded, executes⟩
    exact (LoadsBlock.of_executes lower executes).1
  case loads =>
    intro inMemory
    obtain ⟨loaded, executes, -⟩ := exists_loadsBlock lower inMemory
    exact ⟨loaded, executes⟩
  case restored =>
    intro stored executes
    obtain ⟨inMemory, storesBlock⟩ := StoresBlock.of_executes lower executes
    refine ⟨storesBlock.indexRegister_eq, ?_⟩
    intro reached ready y reaches sameMemory sameIndex upTo
    exact storesBlock.exists_loaded lower inMemory reaches sameMemory sameIndex
      upTo
  case unchanged =>
    intro loaded executes
    obtain ⟨inMemory, loadsBlock⟩ := LoadsBlock.of_executes lower executes
    exact ⟨loadsBlock.indexRegister_eq,
      loadsBlock.exists_stored lower inMemory⟩

theorem run_cycle_of_ldI
    (lower : 0 ≤ machine.programCounter)
    (inside : machine.programCounter < 4095)
    (nnn : Fin 0x1000)
    (atWord : machine.word = 0xA000 + nnn) :
    Action.cycle.run machine =
      .ok
        { address := machine.programCounter,
          instruction := ⟨.ldI, .address (nnn : Nat)⟩ }
        { machine.settled with
          indexRegister := (nnn : Nat),
          programCounter := machine.programCounter + 2 } := by
  have decoded :
      Instruction.decode machine.word = .ok ⟨.ldI, .address (nnn : Nat)⟩ := by
    rw [atWord]
    exact Instruction.decode_of_mem .ldI 0xA000 0xF000 (by decide) (by decide)
      (.address nnn) rfl
  rw [Action.run_cycle_of_decoded machine lower inside decoded]
  rfl

/-- A program may begin by leading the index register to any address. -/
theorem run_cycle_after_load_ldI
    (machine : Machine)
    (atStart : machine.programCounter = programStart)
    (high low : UInt8)
    (nnn : Fin 0x1000)
    (isLdI : 0x100 * high.toNat + low.toNat = 0xA000 + nnn) :
    let ready := machine.after (.load [high, low])
    Action.cycle.run ready =
      .ok
        { address := ready.programCounter,
          instruction := ⟨.ldI, .address (nnn : Nat)⟩ }
        { ready.settled with
          indexRegister := (nnn : Nat),
          programCounter := ready.programCounter + 2 } := by
  have atWord := machine.word_after_load_pair atStart high low
  rw [isLdI] at atWord
  have counter :
      (machine.after (.load [high, low])).programCounter = 0x200 :=
    (programCounter_after_load_pair machine high low).trans atStart
  exact run_cycle_of_ldI (by omega) (by omega) nnn atWord

/--
Two registers come back after one was loaded with 7; at the last cell
there is no room.
-/
theorem stored_registers_come_back_after_load :
    let machine := fresh (Display.blank 64 32) (RandomTape.start [])
    (1 : Int) ≤ 64 ∧ (1 : Int) ≤ 32 ∧
      (∃ stored reached loaded,
        machine.Executes 0xF155 stored ∧
          stored.Executes 0x6007 reached ∧
          reached.Executes 0xF165 loaded ∧
          loaded.registers.byte first = machine.registers.byte first) ∧
      (∃ loaded stored,
        machine.Executes 0xF165 loaded ∧
          loaded.Executes 0xF155 stored ∧
          stored.memory = machine.memory) ∧
      ∃ atLast,
        machine.afterAll [.load [0xAF, 0xFF], .cycle] = atLast ∧
          4096 < atLast.indexRegister + 1 + 1 ∧
          atLast.Refuses 0xF155 := by
  intro machine
  have wide : (1 : Int) ≤ 64 := by decide
  have tall : (1 : Int) ≤ 32 := by decide
  obtain ⟨stores, loads, restored, unchanged, -⟩ :=
    stored_registers_come_back 64 32 wide tall (RandomTape.start []) []
      ⟨1, by decide⟩
  refine ⟨wide, tall, ?restored, ?unchanged, ?refused⟩
  case restored =>
    obtain ⟨stored, executes⟩ := stores.mpr (by decide)
    obtain ⟨sameIndex, comesBack⟩ := restored stored executes
    have overwrites :
        stored.Executes 0x6007 { stored with
          registers := stored.registers.set first 7,
          programCounter := stored.programCounter + 2 } :=
      executes_of_mem .ld 0x6000 0xF000 (by decide) (by decide)
        (.registerValue first ⟨7, by decide⟩) rfl (Action.run_ld stored first 7)
    have storesNothing (cell : Fin memorySize) :
        ¬ stored.StoresBy 0x6007 cell := by
      rintro ⟨instruction, decoded, stores⟩
      obtain rfl : (⟨.ld, .registerValue 0 7⟩ : Instruction) = instruction :=
        Except.ok.inj decoded
      exact stores
    obtain ⟨loaded, executesLoad, same, -⟩ :=
      comesBack _ _ ⟨1, by decide⟩
        (.step .refl overwrites fun cell _ => storesNothing cell) rfl
        sameIndex (Fin.le_refl _)
    exact ⟨stored, _, loaded, executes, overwrites, executesLoad,
      same first (by decide)⟩
  case unchanged =>
    obtain ⟨loaded, executes⟩ := loads.mpr (by decide)
    obtain ⟨-, stored, executesStore, sameMemory⟩ := unchanged loaded executes
    exact ⟨loaded, stored, executes, executesStore, sameMemory⟩
  case refused =>
    obtain ⟨-, -, -, -, refuses⟩ :=
      stored_registers_come_back 64 32 wide tall (RandomTape.start [])
        [.load [0xAF, 0xFF], .cycle] ⟨1, by decide⟩
    have ran :=
      run_cycle_after_load_ldI machine rfl 0xAF 0xFF ⟨0xFFF, by decide⟩ rfl
    rw [afterAll_cons, afterAll_cons, afterAll_nil] at refuses ⊢
    generalize machine.after (.load [0xAF, 0xFF]) = ready at *
    rw [after, ran] at refuses ⊢
    have beyond : (4096 : Int) < 0xFFF + 1 + 1 := by decide
    exact ⟨_, rfl, beyond, (refuses beyond).1⟩

end Machine

end ChipEight
