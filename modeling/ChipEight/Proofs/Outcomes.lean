import ChipEight.Proofs.Bounds
import ChipEight.Proofs.Cycles

namespace ChipEight

/-!
# How instructions end

Most instructions leave most of a machine alone, and only five of them meet an
obstacle: returning without an open call, calling with the stack full, and going
beyond memory with digits or with a block of registers. On a machine that keeps
to its bounds an instruction fails exactly when it meets its obstacle, and it
spares what it is not about whether it fails or not. One theorem says so with a
case for each instruction; what is argued about runs afterwards needs no further
look at the effects, save at those of the few instructions it is about.
-/

namespace Machine

/-- What is left alone when an operation turns one machine into another. -/
structure Spared
    (operation : Operation)
    (before after : Machine) : Prop where
  memory :
    operation ≠ .ldB →
    operation ≠ .ldMemVx →
    after.memory = before.memory
  stack :
    operation ≠ .call →
    after.stack = before.stack
  stackTop :
    operation ≠ .call →
    operation ≠ .ret →
    after.stackTop = before.stackTop
  indexRegister :
    operation ≠ .ldI →
    operation ≠ .addI →
    operation ≠ .ldF →
    after.indexRegister = before.indexRegister
  delayTimer :
    operation ≠ .ldDtVx →
    after.delayTimer = before.delayTimer
  soundTimer :
    operation ≠ .ldStVx →
    after.soundTimer = before.soundTimer
  display :
    operation ≠ .cls →
    operation ≠ .drw →
    after.display = before.display
  sides :
    after.display.width = before.display.width ∧
      after.display.height = before.display.height
  keypad :
    after.keypad = before.keypad
  programCounter :
    operation ≠ .jp →
    operation ≠ .jpV0 →
    operation ≠ .call →
    operation ≠ .ret →
    before.programCounter ≤ after.programCounter ∧
      after.programCounter ≤ before.programCounter + 4

/-- Whether an operation meets an obstacle that it may report by a fault. -/
def Obstacle
    (machine : Machine)
    (fault : Fault) :
    (operation : Operation) →
    Operands operation.format →
    Prop
  | .ret, .bare =>
      machine.stackTop = -1 ∧ fault = .noOpenCall
  | .call, .address _ =>
      machine.stackTop = 15 ∧ fault = .stackFull 16
  | .ldB, .register _ =>
      4093 < machine.indexRegister ∧ fault.families = [.index, .lookup]
  | .ldMemVx, .register x =>
      4096 < machine.indexRegister + x + 1 ∧
        fault.families = [.index, .lookup]
  | .ldVxMem, .register x =>
      4096 < machine.indexRegister + x + 1 ∧
        fault.families = [.index, .lookup]
  | _, _ =>
      False

/-- How an operation ends: it spares much, and fails when it meets an obstacle. -/
def Outcome
    (machine : Machine)
    (operation : Operation)
    (operands : Operands operation.format) :
    EStateM.Result Fault Machine Unit →
    Prop
  | .ok _ after =>
      machine.Spared operation after ∧
        ∀ fault, ¬ machine.Obstacle fault operation operands
  | .error fault after =>
      machine.Spared operation after ∧
        machine.Obstacle fault operation operands

variable {machine : Machine} {operation : Operation}

/-- A failure that changes nothing spares everything. -/
theorem Spared.refl : machine.Spared operation machine := by
  constructor <;> simp

/-- Loading registers and going on spares the rest. -/
theorem Spared.forward
    {registers : Memory registerCount}
    {random : RandomTape}
    {counter : Int}
    (lower : machine.programCounter ≤ counter)
    (upper : counter ≤ machine.programCounter + 4) :
    machine.Spared operation
      { machine with
        registers := registers,
        random := random,
        programCounter := counter } := by
  constructor <;> simp
  exact fun _ _ _ _ => ⟨lower, upper⟩

theorem families_beyond
    (address : Int) :
    (Cells.beyond address .noSuchCell).families = [.index, .lookup] := by
  rw [Cells.beyond]
  split <;> rfl

/-- Where the three cells for the digits of a number lie. -/
inductive DigitCells
    (index : Int) :
    Prop
  | inside
      (hundreds tens units : Fin memorySize)
      (atHundreds : index = (hundreds : Nat))
      (atTens : index + 1 = (tens : Nat))
      (atUnits : index + 2 = (units : Nat))
  | beforeLast
      (hundreds tens : Fin memorySize)
      (atHundreds : index = (hundreds : Nat))
      (atTens : index + 1 = (tens : Nat))
      (last : index + 2 = memorySize)
  | atLast
      (hundreds : Fin memorySize)
      (atHundreds : index = (hundreds : Nat))
      (last : index + 1 = memorySize)
  | behind
      (outside : memorySize ≤ index)

/-- The cells for digits lie in memory, or the end of memory cuts them off. -/
theorem digitCells
    {index : Int}
    (lower : 0 ≤ index) :
    DigitCells index := by
  obtain ⟨place, rfl⟩ := Int.eq_ofNat_of_zero_le lower
  rcases Nat.lt_or_ge place memorySize with hundreds | behind
  · rcases Nat.lt_or_ge (place + 1) memorySize with tens | last
    · rcases Nat.lt_or_ge (place + 2) memorySize with units | last
      · exact .inside ⟨place, hundreds⟩ ⟨place + 1, tens⟩ ⟨place + 2, units⟩
          rfl rfl rfl
      · exact .beforeLast ⟨place, hundreds⟩ ⟨place + 1, tens⟩ rfl rfl (by omega)
    · exact .atLast ⟨place, hundreds⟩ rfl (by omega)
  · exact .behind (by omega)

end Machine

namespace Action

open Machine

variable {width height : Int} {machine : Machine}

theorem outcome_ret
    (bounded : machine.Bounded width height) :
    machine.Outcome .ret .bare ((execute .ret .bare).run machine) := by
  rcases bounded.empty_or_top with empty | ⟨place, top⟩
  · rw [run_ret_of_empty machine (by omega)]
    exact ⟨.refl, empty, rfl⟩
  · rw [run_ret machine top]
    refine ⟨by constructor <;> simp, ?_⟩
    rintro fault ⟨empty, -⟩
    omega

theorem outcome_call
    (bounded : machine.Bounded width height)
    (nnn : Int) :
    machine.Outcome .call (.address nnn)
      ((execute .call (.address nnn)).run machine) := by
  rcases bounded.full_or_free with full | ⟨place, free⟩
  · rw [run_call_of_full machine nnn (by simp [full, stackCapacity])]
    exact ⟨.refl, full, rfl⟩
  · rw [run_call machine nnn free]
    refine ⟨by constructor <;> simp, ?_⟩
    rintro fault ⟨full, -⟩
    have inside : (place : Nat) < 16 := place.isLt
    omega

/-- Drawing meets no obstacle, wherever the sprite lies and is drawn. -/
theorem outcome_drw
    (bounded : machine.Bounded width height)
    (x y : Fin registerCount)
    (n : Nat) :
    machine.Outcome .drw (.sprite (x : Nat) (y : Nat) n)
      ((execute .drw (.sprite (x : Nat) (y : Nat) n)).run machine) := by
  have ⟨sameWidth, sameHeight⟩ := bounded.display
  have ⟨wide, tall⟩ := bounded.visible
  obtain ⟨drawn, erased, drawing, struck⟩ :=
    machine.display.struck_draw (by omega) (by omega)
      (indexedBytes machine n)
      (machine.registers.byte x).toNat (machine.registers.byte y).toNat
  rw [run_drw machine x y n bounded.indexRegister drawing]
  refine ⟨?_, fun _ => id⟩
  constructor <;> simp [struck.width, struck.height]

/-- Storing digits beyond memory meets its obstacle. -/
theorem outcome_ldB
    (bounded : machine.Bounded width height)
    (x : Fin registerCount) :
    machine.Outcome .ldB (.register (x : Nat))
      ((execute .ldB (.register (x : Nat))).run machine) := by
  cases digitCells bounded.indexRegister with
  | inside hundreds tens units atHundreds atTens atUnits =>
      rw [run_ldB machine x atHundreds atTens atUnits]
      refine ⟨by constructor <;> simp, ?_⟩
      rintro fault ⟨beyond, -⟩
      have inside : (units : Nat) < 4096 := units.isLt
      omega
  | beforeLast hundreds tens atHundreds atTens last =>
      rw [run_ldB_before_last machine x atHundreds atTens last]
      simp only [memorySize] at last
      exact ⟨by constructor <;> simp, by omega, rfl⟩
  | atLast hundreds atHundreds last =>
      rw [run_ldB_at_last machine x atHundreds last]
      simp only [memorySize] at last
      exact ⟨by constructor <;> simp, by omega, rfl⟩
  | behind outside =>
      rw [run_ldB_of_size_le machine x outside]
      simp only [memorySize] at outside
      exact ⟨.refl, by omega, families_beyond _⟩

/-- Storing registers beyond memory fails and changes nothing. -/
theorem exists_run_ldMemVx_error
    (lower : 0 ≤ machine.indexRegister)
    {x : Fin registerCount}
    (beyond : 4096 < machine.indexRegister + (x : Nat) + 1) :
    ∃ fault,
      (execute .ldMemVx (.register (x : Nat))).run machine =
          .error fault machine ∧
        fault.families = [.index, .lookup] := by
  have counted := length_firstRegisters machine x
  have outside : ¬ machine.indexRegister + x + 1 ≤ memorySize :=
    Int.not_le.mpr beyond
  obtain ⟨selected, refused⟩ :=
    machine.memory.writeSpan_between_error machine.indexRegister
      (machine.indexRegister + x + 1) (firstRegisters machine (x + 1))
      lower (by omega) (by omega)
  exact ⟨_, run_ldMemVx_error machine x refused, rfl⟩

/-- Storing registers within memory writes over their cells. -/
theorem exists_run_ldMemVx
    (lower : 0 ≤ machine.indexRegister)
    {x : Fin registerCount}
    (fits : machine.indexRegister + (x : Nat) + 1 ≤ 4096) :
    ∃ written,
      machine.memory.writeSpan
          (.between machine.indexRegister (machine.indexRegister + x + 1))
          (firstRegisters machine (x + 1)) =
          .ok written ∧
        (execute .ldMemVx (.register (x : Nat))).run machine =
          .ok () { machine with
            memory := written,
            programCounter := machine.programCounter + 2 } := by
  have counted := length_firstRegisters machine x
  obtain ⟨written, accepted⟩ :=
    machine.memory.writeSpan_between machine.indexRegister
      (machine.indexRegister + x + 1) (firstRegisters machine (x + 1))
      lower fits (by omega)
  exact ⟨written, accepted, run_ldMemVx machine x accepted⟩

theorem outcome_ldMemVx
    (bounded : machine.Bounded width height)
    (x : Fin registerCount) :
    machine.Outcome .ldMemVx (.register (x : Nat))
      ((execute .ldMemVx (.register (x : Nat))).run machine) := by
  rcases lt_or_ge 4096 (machine.indexRegister + (x : Nat) + 1) with
    beyond | fits
  · obtain ⟨fault, ran, families⟩ :=
      exists_run_ldMemVx_error bounded.indexRegister beyond
    rw [ran]
    exact ⟨.refl, beyond, families⟩
  · obtain ⟨written, -, ran⟩ := exists_run_ldMemVx bounded.indexRegister fits
    rw [ran]
    refine ⟨by constructor <;> simp, ?_⟩
    rintro fault ⟨beyond, -⟩
    omega

/-- Loading registers from beyond memory fails and changes nothing. -/
theorem exists_run_ldVxMem_error
    (lower : 0 ≤ machine.indexRegister)
    {x : Fin registerCount}
    (beyond : 4096 < machine.indexRegister + (x : Nat) + 1) :
    ∃ fault,
      (execute .ldVxMem (.register (x : Nat))).run machine =
          .error fault machine ∧
        fault.families = [.index, .lookup] := by
  have counted := length_indexedBytes machine (x + 1)
  have register : (x : Nat) < registerCount := x.isLt
  have outside : ¬ machine.indexRegister + x + 1 ≤ memorySize :=
    Int.not_le.mpr beyond
  obtain ⟨selected, refused⟩ :=
    machine.registers.writeSpan_between_error 0 ((x : Nat) + 1)
      (indexedBytes machine (x + 1)) (Int.le_refl 0) (by omega) (by omega)
  rw [← Memory.writeSpan_before] at refused
  exact ⟨_, run_ldVxMem_error machine x lower refused, rfl⟩

/-- Loading registers from within memory writes over them. -/
theorem exists_run_ldVxMem
    (lower : 0 ≤ machine.indexRegister)
    {x : Fin registerCount}
    (fits : machine.indexRegister + (x : Nat) + 1 ≤ 4096) :
    ∃ written,
      machine.registers.writeSpan (.between 0 ((x : Nat) + 1))
          (indexedBytes machine (x + 1)) =
          .ok written ∧
        (execute .ldVxMem (.register (x : Nat))).run machine =
          .ok () { machine with
            registers := written,
            programCounter := machine.programCounter + 2 } := by
  have counted := length_indexedBytes machine (x + 1)
  have register : (x : Nat) < registerCount := x.isLt
  have inMemory : machine.indexRegister + x + 1 ≤ memorySize := fits
  obtain ⟨written, accepted⟩ :=
    machine.registers.writeSpan_between 0 ((x : Nat) + 1)
      (indexedBytes machine (x + 1)) (Int.le_refl 0) (by omega) (by omega)
  refine ⟨written, accepted, ?_⟩
  rw [← Memory.writeSpan_before] at accepted
  exact run_ldVxMem machine x lower accepted

theorem outcome_ldVxMem
    (bounded : machine.Bounded width height)
    (x : Fin registerCount) :
    machine.Outcome .ldVxMem (.register (x : Nat))
      ((execute .ldVxMem (.register (x : Nat))).run machine) := by
  rcases lt_or_ge 4096 (machine.indexRegister + (x : Nat) + 1) with
    beyond | fits
  · obtain ⟨fault, ran, families⟩ :=
      exists_run_ldVxMem_error bounded.indexRegister beyond
    rw [ran]
    exact ⟨.refl, beyond, families⟩
  · obtain ⟨written, -, ran⟩ := exists_run_ldVxMem bounded.indexRegister fits
    rw [ran]
    refine ⟨.forward (by omega) (by omega), ?_⟩
    rintro fault ⟨beyond, -⟩
    omega

/-- Within the bounds an operation fails exactly when it meets its obstacle. -/
theorem outcome_execute
    (bounded : machine.Bounded width height)
    {operation : Operation}
    {operands : Operands operation.format}
    (proper : operands.Proper) :
    machine.Outcome operation operands
      ((execute operation operands).run machine) := by
  cases operation
  case ret =>
    cases proper
    exact outcome_ret bounded
  case call =>
    cases proper
    exact outcome_call bounded _
  case drw =>
    cases proper
    exact outcome_drw bounded _ _ _
  case ldB =>
    cases proper
    exact outcome_ldB bounded _
  case ldMemVx =>
    cases proper
    exact outcome_ldMemVx bounded _
  case ldVxMem =>
    cases proper
    exact outcome_ldVxMem bounded _
  case sys | ld | add | ldReg | or | and | xor | rnd | ldVxDt
      | addReg | sub | shr | subn | shl =>
    cases proper
    simp only [run_sys, run_ld, run_add, run_ldReg, run_or, run_and, run_xor,
      run_rnd, run_ldVxDt, run_addReg, run_sub, run_shr, run_subn, run_shl,
      run_writeFlagged]
    exact ⟨.forward (by omega) (by omega), fun _ => id⟩
  case se | sne | seReg | sneReg | skp | sknp =>
    cases proper
    simp only [run_se, run_sne, run_seReg, run_sneReg, run_skp, run_sknp]
    exact ⟨.forward (by split <;> omega) (by split <;> omega), fun _ => id⟩
  case ldVxK =>
    cases proper
    rw [run_ldVxK]
    split
    · exact ⟨.forward (by omega) (by omega), fun _ => id⟩
    · exact ⟨.refl, fun _ => id⟩
  case cls | jp | jpV0 | ldDtVx | ldStVx | ldI | addI | ldF =>
    cases proper
    simp only [run_cls, run_jp, run_jpV0, run_ldDtVx, run_ldStVx, run_ldI,
      run_addI, run_ldF]
    refine ⟨?_, fun _ => id⟩
    constructor <;> simp [Display.cleared, Display.blank]

/-- A cycle at a decoded word ends as its instruction does. -/
theorem outcome_cycle
    (bounded : machine.Bounded width height)
    (inside : machine.programCounter < 4095)
    {instruction : Instruction}
    (decoded : Instruction.decode machine.word = .ok instruction) :
    (∃ next,
      cycle.run machine =
          .ok
            { address := machine.programCounter, instruction := instruction }
            next ∧
        machine.Spared instruction.operation next ∧
        ∀ fault,
          ¬ machine.Obstacle fault instruction.operation
            instruction.operands) ∨
    ∃ fault stopped,
      cycle.run machine = .error fault stopped ∧
        machine.Spared instruction.operation stopped ∧
        machine.Obstacle fault instruction.operation
          instruction.operands := by
  have proper := ((Instruction.decode_eq_ok_iff machine.word_lt).mp decoded).1
  have settled : machine.settled.Bounded width height := bounded.settled
  have outcome := outcome_execute settled proper
  rw [run_cycle_of_decoded machine bounded.programCounter.1 inside decoded]
  cases result :
      (execute instruction.operation instruction.operands).run
        machine.settled with
  | ok _ next =>
      rw [result] at outcome
      exact Or.inl ⟨next, rfl, { outcome.1 with }, outcome.2⟩
  | error fault stopped =>
      rw [result] at outcome
      exact Or.inr ⟨fault, stopped, rfl, { outcome.1 with }, outcome.2⟩

end Action

end ChipEight
