import ChipEight.Proofs.Histories

namespace ChipEight

/-!
# What an instruction may change

The registers that an instruction may load and the cells that it may store to
are read off the instruction and the index register alone. Within the bounds an
instruction changes nothing beyond them, calls apart puts nothing on the stack,
and shows that it drew exactly when it is one of the two that draw. What one
cycle may write adds up over a history: a cell that no cycle may write and that
no program is loaded over keeps its byte.
-/

namespace Instruction

/-- Whether an instruction may load a register. -/
def Loads
    (register : Fin registerCount) :
    Instruction →
    Prop
  | ⟨.ld, .registerValue x _⟩
  | ⟨.add, .registerValue x _⟩
  | ⟨.rnd, .registerValue x _⟩
  | ⟨.ldReg, .registerPair x _⟩
  | ⟨.or, .registerPair x _⟩
  | ⟨.and, .registerPair x _⟩
  | ⟨.xor, .registerPair x _⟩
  | ⟨.ldVxDt, .register x⟩
  | ⟨.ldVxK, .register x⟩ => x = (register : Nat)
  | ⟨.addReg, .registerPair x _⟩
  | ⟨.sub, .registerPair x _⟩
  | ⟨.shr, .registerPair x _⟩
  | ⟨.subn, .registerPair x _⟩
  | ⟨.shl, .registerPair x _⟩ => x = (register : Nat) ∨ flag = register
  | ⟨.drw, .sprite _ _ _⟩ => flag = register
  | ⟨.ldVxMem, .register x⟩ => (register : Nat) ≤ x
  | _ => False

/--
Whether an instruction may store to a cell with the given index register.

A block of registers is stored as a whole or not at all.
-/
def StoresTo
    (index : Int)
    (cell : Fin memorySize) :
    Instruction →
    Prop
  | ⟨.ldB, .register _⟩ =>
      index ≤ (cell : Nat) ∧ (cell : Nat) ≤ index + 2
  | ⟨.ldMemVx, .register x⟩ =>
      index ≤ (cell : Nat) ∧ (cell : Nat) ≤ index + x ∧
        index + x < memorySize
  | _ => False

end Instruction

namespace Memory

variable
  {size : Nat}
  {memory : Memory size}
  {first second third other : Fin size}
  {firstValue secondValue thirdValue : Int}

theorem eq_of_byte_set_ne
    (changed :
      (memory.set first firstValue).byte other ≠ memory.byte other) :
    first = other := by
  by_contra apart
  rw [byte_set, if_neg apart] at changed
  exact changed rfl

theorem eq_of_byte_set_set_ne
    (changed :
      ((memory.set first firstValue).set second secondValue).byte other ≠
        memory.byte other) :
    first = other ∨ second = other := by
  by_contra apart
  obtain ⟨notFirst, notSecond⟩ := not_or.mp apart
  rw [byte_set, if_neg notSecond] at changed
  exact notFirst (eq_of_byte_set_ne changed)

theorem eq_of_byte_set_set_set_ne
    (changed :
      (((memory.set first firstValue).set second secondValue).set third
          thirdValue).byte other ≠
        memory.byte other) :
    first = other ∨ second = other ∨ third = other := by
  by_contra apart
  obtain ⟨notFirst, notOthers⟩ := not_or.mp apart
  obtain ⟨notSecond, notThird⟩ := not_or.mp notOthers
  rw [byte_set, if_neg notThird] at changed
  rcases eq_of_byte_set_set_ne changed with isFirst | isSecond
  · exact notFirst isFirst
  · exact notSecond isSecond

end Memory

namespace Machine

/-- What changes when an instruction turns one machine into another. -/
structure Confined
    (instruction : Instruction)
    (before after : Machine) : Prop where
  memory :
    ∀ cell,
      after.memory.byte cell ≠ before.memory.byte cell →
      instruction.StoresTo before.indexRegister cell
  registers :
    ∀ register,
      after.registers.byte register ≠ before.registers.byte register →
      instruction.Loads register
  stack :
    ∀ place : Fin stackCapacity,
      after.stack.get place ≠ before.stack.get place →
      instruction.operation = .call ∧ before.stackTop + 1 = (place : Nat)
  displayChanged :
    after.displayChanged = true ↔
      instruction.operation = .cls ∨ instruction.operation = .drw
  random :
    after.random =
      if instruction.operation = .rnd then
        before.random.advanced
      else
        before.random

namespace Confined

variable {machine : Machine} {instruction : Instruction}

/-- An instruction that leaves all of this alone is confined. -/
theorem of_same
    {after : Machine}
    (settled : machine.displayChanged = false)
    (memory : after.memory = machine.memory)
    (registers : after.registers = machine.registers)
    (stack : after.stack = machine.stack)
    (displayChanged : after.displayChanged = machine.displayChanged)
    (random : after.random = machine.random)
    (plain : instruction.operation ∉ [.cls, .drw, .rnd]) :
    machine.Confined instruction after := by
  simp only [List.mem_cons, List.not_mem_nil, or_false, not_or] at plain
  obtain ⟨notCls, notDrw, notRnd⟩ := plain
  constructor <;> simp_all

/-- An instruction that loads registers is confined to those that it may load. -/
theorem of_loads
    {registers : Memory registerCount}
    {counter : Int}
    (settled : machine.displayChanged = false)
    (loads :
      ∀ register,
        registers.byte register ≠ machine.registers.byte register →
        instruction.Loads register)
    (plain : instruction.operation ∉ [.cls, .drw, .rnd]) :
    machine.Confined instruction
      { machine with
        registers := registers,
        programCounter := counter } := by
  simp only [List.mem_cons, List.not_mem_nil, or_false, not_or] at plain
  obtain ⟨notCls, notDrw, notRnd⟩ := plain
  constructor
  case registers => exact loads
  all_goals simp_all

/--
An instruction that stores bytes is confined to the cells that it may store to.
-/
theorem of_stores
    {memory : Memory memorySize}
    {counter : Int}
    (settled : machine.displayChanged = false)
    (stores :
      ∀ cell,
        memory.byte cell ≠ machine.memory.byte cell →
        instruction.StoresTo machine.indexRegister cell)
    (plain : instruction.operation ∉ [.cls, .drw, .rnd]) :
    machine.Confined instruction
      { machine with
        memory := memory,
        programCounter := counter } := by
  simp only [List.mem_cons, List.not_mem_nil, or_false, not_or] at plain
  obtain ⟨notCls, notDrw, notRnd⟩ := plain
  constructor
  case memory => exact stores
  all_goals simp_all

end Confined

end Machine

namespace Action

open Machine

variable {width height : Int} {machine : Machine}

theorem confined_ret
    (bounded : machine.Bounded width height)
    (settled : machine.displayChanged = false) :
    machine.Confined ⟨.ret, .bare⟩
      (machineOf ((execute .ret .bare).run machine)) := by
  rcases bounded.empty_or_top with empty | ⟨place, top⟩
  · rw [run_ret_of_empty machine (by omega)]
    exact .of_same settled rfl rfl rfl rfl rfl (by decide)
  · rw [run_ret machine top]
    exact .of_same settled rfl rfl rfl rfl rfl (by decide)

theorem confined_call
    (bounded : machine.Bounded width height)
    (settled : machine.displayChanged = false)
    (nnn : Int) :
    machine.Confined ⟨.call, .address nnn⟩
      (machineOf ((execute .call (.address nnn)).run machine)) := by
  rcases bounded.full_or_free with full | ⟨place, free⟩
  · rw [run_call_of_full machine nnn (by simp [full, stackCapacity])]
    exact .of_same settled rfl rfl rfl rfl rfl (by simp)
  · rw [run_call machine nnn free]
    constructor
    case stack =>
      intro other changed
      refine ⟨rfl, ?_⟩
      rw [free]
      by_contra apart
      rw [machineOf, get_set_place, if_neg (fun same => apart (by rw [same]))]
        at changed
      exact changed rfl
    all_goals simp [machineOf, settled]

theorem confined_drw
    (bounded : machine.Bounded width height)
    (x y : Fin registerCount)
    (n : Nat) :
    machine.Confined ⟨.drw, .sprite (x : Nat) (y : Nat) n⟩
      (machineOf
        ((execute .drw (.sprite (x : Nat) (y : Nat) n)).run machine)) := by
  have ⟨sameWidth, sameHeight⟩ := bounded.display
  have ⟨wide, tall⟩ := bounded.visible
  obtain ⟨drawn, erased, drawing, -⟩ :=
    machine.display.struck_draw (by omega) (by omega)
      (indexedBytes machine n)
      (machine.registers.byte x).toNat (machine.registers.byte y).toNat
  rw [run_drw machine x y n bounded.indexRegister drawing]
  constructor
  case registers => exact fun register => Memory.eq_of_byte_set_ne
  all_goals simp [machineOf]

/-- The digits of a register go to cells from the index register on, if anywhere. -/
theorem exists_stored_ldB
    (lower : 0 ≤ machine.indexRegister)
    (x : Fin registerCount) :
    ∃ memory counter,
      machineOf ((execute .ldB (.register (x : Nat))).run machine) =
          { machine with memory := memory, programCounter := counter } ∧
        ∀ cell,
          memory.byte cell ≠ machine.memory.byte cell →
          Instruction.StoresTo machine.indexRegister cell
            ⟨.ldB, .register (x : Nat)⟩ := by
  cases digitCells lower with
  | inside hundreds tens units atHundreds atTens atUnits =>
      rw [run_ldB machine x atHundreds atTens atUnits]
      refine ⟨_, _, rfl, fun cell changed => ?_⟩
      rcases Memory.eq_of_byte_set_set_set_ne changed with rfl | rfl | rfl
      all_goals exact ⟨by omega, by omega⟩
  | beforeLast hundreds tens atHundreds atTens last =>
      rw [run_ldB_before_last machine x atHundreds atTens last]
      refine ⟨_, _, rfl, fun cell changed => ?_⟩
      rcases Memory.eq_of_byte_set_set_ne changed with rfl | rfl
      all_goals exact ⟨by omega, by omega⟩
  | atLast hundreds atHundreds last =>
      rw [run_ldB_at_last machine x atHundreds last]
      refine ⟨_, _, rfl, fun cell changed => ?_⟩
      obtain rfl := Memory.eq_of_byte_set_ne changed
      exact ⟨by omega, by omega⟩
  | behind outside =>
      rw [run_ldB_of_size_le machine x outside]
      exact ⟨_, _, rfl, fun cell changed => absurd rfl changed⟩

theorem confined_ldB
    (bounded : machine.Bounded width height)
    (settled : machine.displayChanged = false)
    (x : Fin registerCount) :
    machine.Confined ⟨.ldB, .register (x : Nat)⟩
      (machineOf ((execute .ldB (.register (x : Nat))).run machine)) := by
  obtain ⟨memory, counter, same, stores⟩ :=
    exists_stored_ldB bounded.indexRegister x
  rw [same]
  exact .of_stores settled stores (by simp)

/-- A block of registers goes to cells from the index register on, if anywhere. -/
theorem exists_stored_ldMemVx
    (lower : 0 ≤ machine.indexRegister)
    (x : Fin registerCount) :
    ∃ memory counter,
      machineOf ((execute .ldMemVx (.register (x : Nat))).run machine) =
          { machine with memory := memory, programCounter := counter } ∧
        ∀ cell,
          memory.byte cell ≠ machine.memory.byte cell →
          Instruction.StoresTo machine.indexRegister cell
            ⟨.ldMemVx, .register (x : Nat)⟩ := by
  rcases lt_or_ge 4096 (machine.indexRegister + (x : Nat) + 1) with
    beyond | fits
  · obtain ⟨fault, ran, -⟩ := exists_run_ldMemVx_error lower beyond
    rw [ran]
    exact ⟨_, _, rfl, fun cell changed => absurd rfl changed⟩
  · obtain ⟨written, accepted, ran⟩ := exists_run_ldMemVx lower fits
    rw [ran]
    refine ⟨_, _, rfl, fun cell changed => ?_⟩
    have ⟨notBefore, notBehind⟩ :
        machine.indexRegister ≤ (cell : Nat) ∧
          (cell : Nat) < machine.indexRegister + x + 1 := by
      by_contra outside
      exact changed
        (Memory.byte_writeSpan_between_of_outside lower (by omega) accepted
          outside)
    exact ⟨notBefore, by omega, Int.lt_of_add_one_le fits⟩

theorem confined_ldMemVx
    (bounded : machine.Bounded width height)
    (settled : machine.displayChanged = false)
    (x : Fin registerCount) :
    machine.Confined ⟨.ldMemVx, .register (x : Nat)⟩
      (machineOf ((execute .ldMemVx (.register (x : Nat))).run machine)) := by
  obtain ⟨memory, counter, same, stores⟩ :=
    exists_stored_ldMemVx bounded.indexRegister x
  rw [same]
  exact .of_stores settled stores (by simp)

/-- A block of registers is loaded from the first one on. -/
theorem confined_ldVxMem
    (bounded : machine.Bounded width height)
    (settled : machine.displayChanged = false)
    (x : Fin registerCount) :
    machine.Confined ⟨.ldVxMem, .register (x : Nat)⟩
      (machineOf ((execute .ldVxMem (.register (x : Nat))).run machine)) := by
  rcases lt_or_ge 4096 (machine.indexRegister + (x : Nat) + 1) with
    beyond | fits
  · obtain ⟨fault, ran, -⟩ :=
      exists_run_ldVxMem_error bounded.indexRegister beyond
    rw [ran]
    exact .of_same settled rfl rfl rfl rfl rfl (by simp)
  · obtain ⟨written, accepted, ran⟩ :=
      exists_run_ldVxMem bounded.indexRegister fits
    rw [ran]
    refine .of_loads settled (fun other changed => ?_) (by simp)
    change ((other : Nat) : Int) ≤ (x : Nat)
    by_contra behind
    exact changed
      (Memory.byte_writeSpan_between_of_outside (Int.le_refl 0) (by omega)
        accepted (by omega))

/-- Within the bounds an instruction is confined, also when it fails. -/
theorem confined_execute
    (bounded : machine.Bounded width height)
    (settled : machine.displayChanged = false)
    {operation : Operation}
    {operands : Operands operation.format}
    (proper : operands.Proper) :
    machine.Confined ⟨operation, operands⟩
      (machineOf ((execute operation operands).run machine)) := by
  cases operation
  case ret =>
    cases proper
    exact confined_ret bounded settled
  case call =>
    cases proper
    exact confined_call bounded settled _
  case drw =>
    cases proper
    exact confined_drw bounded _ _ _
  case ldB =>
    cases proper
    exact confined_ldB bounded settled _
  case ldMemVx =>
    cases proper
    exact confined_ldMemVx bounded settled _
  case ldVxMem =>
    cases proper
    exact confined_ldVxMem bounded settled _
  case ld | add | ldReg | or | and | xor | ldVxDt =>
    cases proper
    simp only [run_ld, run_add, run_ldReg, run_or, run_and, run_xor,
      run_ldVxDt]
    refine .of_loads settled (fun other changed => ?_) (by simp)
    obtain rfl := Memory.eq_of_byte_set_ne changed
    rfl
  case addReg | sub | shr | subn | shl =>
    cases proper
    simp only [run_addReg, run_sub, run_shr, run_subn, run_shl,
      run_writeFlagged]
    refine .of_loads settled (fun other changed => ?_) (by simp)
    rcases Memory.eq_of_byte_set_set_ne changed with rfl | rfl
    · exact Or.inr rfl
    · exact Or.inl rfl
  case rnd =>
    cases proper
    rw [run_rnd]
    constructor
    case registers =>
      intro other changed
      obtain rfl := Memory.eq_of_byte_set_ne changed
      rfl
    all_goals simp [machineOf, settled]
  case ldVxK =>
    cases proper
    rw [run_ldVxK]
    simp only [machineOf]
    split
    · refine .of_loads settled (fun other changed => ?_) (by simp)
      obtain rfl := Memory.eq_of_byte_set_ne changed
      rfl
    · exact .of_same settled rfl rfl rfl rfl rfl (by simp)
  case cls =>
    cases proper
    rw [run_cls]
    constructor <;> simp [machineOf]
  case sys | jp | jpV0 | se | sne | seReg | sneReg | skp | sknp
      | ldI | addI | ldF | ldDtVx | ldStVx =>
    cases proper
    simp only [run_sys, run_jp, run_jpV0, run_se, run_sne, run_seReg,
      run_sneReg, run_skp, run_sknp, run_ldI, run_addI, run_ldF, run_ldDtVx,
      run_ldStVx]
    exact .of_same settled rfl rfl rfl rfl rfl (by simp)

/-- A cycle at a decoded word is confined as its instruction is. -/
theorem confined_cycle
    (bounded : machine.Bounded width height)
    (inside : machine.programCounter < 4095)
    {instruction : Instruction}
    (decoded : Instruction.decode machine.word = .ok instruction) :
    machine.Confined instruction (machineOf (cycle.run machine)) := by
  have proper := ((Instruction.decode_eq_ok_iff machine.word_lt).mp decoded).1
  have settled : machine.settled.Bounded width height := bounded.settled
  have confined := confined_execute settled rfl proper
  rw [run_cycle_of_decoded machine bounded.programCounter.1 inside decoded]
  revert confined
  cases (execute instruction.operation instruction.operands).run
    machine.settled <;> exact fun confined => { confined with }

end Action

namespace Machine

/-- Whether a move may store to a cell of a machine. -/
def MayStore
    (machine : Machine)
    (cell : Fin memorySize) :
    Move →
    Prop
  | .load program =>
      program.length ≤ programRoom ∧
        programStart ≤ (cell : Nat) ∧
        (cell : Nat) < programStart + program.length
  | .cycle =>
      machine.programCounter < 4095 ∧
        ∃ instruction,
          Instruction.decode machine.word = .ok instruction ∧
            instruction.StoresTo machine.indexRegister cell
  | .tick | .press _ | .release _ => False

namespace Bounded

variable {width height : Int} {machine : Machine} {cell : Fin memorySize}

/--
A cycle that succeeds executes an instruction, which is confined and
spares the rest.
-/
theorem confined_of_run
    (bounded : machine.Bounded width height)
    {executed : Executed}
    {next : Machine}
    (ran : Action.cycle.run machine = .ok executed next) :
    Instruction.decode machine.word = .ok executed.instruction ∧
      machine.Spared executed.instruction.operation next ∧
      machine.Confined executed.instruction next := by
  rcases Action.stops_or_decodes machine bounded.programCounter.1 with
    ⟨fault, stopped⟩ | ⟨inside, instruction, decoded⟩
  · rw [stopped] at ran
    cases ran
  · have confined := Action.confined_cycle bounded inside decoded
    rcases Action.outcome_cycle bounded inside decoded with
      ⟨found, succeeded, spared, -⟩ | ⟨fault, stopped, failed, -⟩
    · rw [succeeded] at ran confined
      cases ran
      exact ⟨decoded, spared, confined⟩
    · rw [failed] at ran
      cases ran

theorem byte_after_load
    (program : List UInt8)
    (notStored : ¬ machine.MayStore cell (.load program)) :
    (machine.after (.load program)).memory.byte cell =
      machine.memory.byte cell := by
  rcases Nat.lt_or_ge programRoom program.length with tooLong | fits
  · rw [Machine.after, Action.run_load_of_tooLong tooLong, machineOf]
  · obtain ⟨written, accepted, ran⟩ :=
      Action.exists_run_load_of_writeSpan fits machine
    rw [Machine.after, ran]
    refine Memory.byte_writeSpan_between_of_outside (Int.natCast_nonneg _)
      (by omega) accepted ?_
    rintro ⟨notBefore, notBehind⟩
    exact notStored ⟨fits, by omega, by omega⟩

theorem byte_after_cycle
    (bounded : machine.Bounded width height)
    (notStored : ¬ machine.MayStore cell .cycle) :
    (machine.after .cycle).memory.byte cell = machine.memory.byte cell := by
  rcases Action.stops_or_decodes machine bounded.programCounter.1 with
    ⟨fault, stopped⟩ | ⟨inside, instruction, decoded⟩
  · rw [Machine.after, stopped]
    rfl
  · by_contra changed
    have confined := Action.confined_cycle bounded inside decoded
    exact notStored
      ⟨inside, instruction, decoded, confined.memory cell changed⟩

/-- A move keeps the byte of a cell that it may not store to. -/
theorem byte_after
    (bounded : machine.Bounded width height)
    (move : Move)
    (notStored : ¬ machine.MayStore cell move) :
    (machine.after move).memory.byte cell = machine.memory.byte cell := by
  cases move with
  | load program => exact byte_after_load program notStored
  | cycle => exact bounded.byte_after_cycle notStored
  | tick => rfl
  | press key => rfl
  | release key => rfl

/-- A history keeps the byte of a cell that none of its moves may store to. -/
theorem byte_afterAll
    (bounded : machine.Bounded width height)
    {moves : List Move}
    (neverStored :
      ∀ earlier move,
        earlier ++ [move] <+: moves →
        ¬ (machine.afterAll earlier).MayStore cell move) :
    (machine.afterAll moves).memory.byte cell = machine.memory.byte cell := by
  induction moves generalizing machine with
  | nil => rfl
  | cons move rest inductionHypothesis =>
      have notNow : ¬ machine.MayStore cell move :=
        neverStored [] move (List.prefix_append [move] rest)
      have notLater :
          ∀ earlier later,
            earlier ++ [later] <+: rest →
            ¬ ((machine.after move).afterAll earlier).MayStore cell later :=
        fun earlier later isPrefix =>
          neverStored (move :: earlier) later
            (List.cons_prefix_cons.mpr ⟨rfl, isPrefix⟩)
      calc
        (machine.afterAll (move :: rest)).memory.byte cell
            = (machine.after move).memory.byte cell :=
              inductionHypothesis (bounded.after move) notLater
        _ = machine.memory.byte cell := bounded.byte_after move notNow

end Bounded

/--
An instruction changes only what it is meant to change.

Which registers it may load and which cells it may store to is read off the
instruction and the index register. A cell that no cycle may store to and no
program is loaded over keeps its byte, however long the machine goes on and
whether its cycles fail or not.
-/
theorem instruction_changes_only_its_own
    (width height : Int)
    (wide : 1 ≤ width)
    (tall : 1 ≤ height)
    (random : RandomTape)
    (moves : List Move) :
    let machine := (fresh (Display.blank width height) random).afterAll moves
    (∀ executed next,
      Action.cycle.run machine = .ok executed next →
      let instruction := executed.instruction
      let operation := instruction.operation
      Instruction.decode machine.word = .ok instruction ∧
      (∀ cell,
        next.memory.byte cell ≠ machine.memory.byte cell →
        instruction.StoresTo machine.indexRegister cell) ∧
      (∀ place : Fin stackCapacity,
        next.stack.get place ≠ machine.stack.get place →
        operation = .call ∧ machine.stackTop + 1 = (place : Nat)) ∧
      (next.stackTop ≠ machine.stackTop →
        operation = .call ∨ operation = .ret) ∧
      (next.indexRegister ≠ machine.indexRegister →
        operation = .ldI ∨ operation = .addI ∨ operation = .ldF) ∧
      (next.delayTimer ≠ machine.delayTimer → operation = .ldDtVx) ∧
      (next.soundTimer ≠ machine.soundTimer → operation = .ldStVx) ∧
      (next.display ≠ machine.display →
        operation = .cls ∨ operation = .drw) ∧
      next.keypad = machine.keypad ∧
      (∀ register,
        next.registers.byte register ≠ machine.registers.byte register →
        instruction.Loads register) ∧
      (next.displayChanged = true ↔ operation = .cls ∨ operation = .drw) ∧
      next.random =
        if operation = .rnd then machine.random.advanced else machine.random) ∧
    ∀ cell later,
      (∀ earlier move,
        earlier ++ [move] <+: later →
        ¬ (machine.afterAll earlier).MayStore cell move) →
      (machine.afterAll later).memory.byte cell =
        machine.memory.byte cell := by
  intro machine
  have bounded : machine.Bounded width height :=
    (Bounded.fresh wide tall random).afterAll moves
  refine ⟨?cycle, fun cell later => bounded.byte_afterAll⟩
  case cycle =>
    intro executed next ran instruction operation
    obtain ⟨decoded, spared, confined⟩ := bounded.confined_of_run ran
    refine ⟨decoded, confined.memory, confined.stack, ?stackTop,
      ?indexRegister, ?delayTimer, ?soundTimer, ?display, spared.keypad,
      confined.registers, confined.displayChanged, confined.random⟩
    case stackTop =>
      intro changed
      by_contra neither
      obtain ⟨notCall, notRet⟩ := not_or.mp neither
      exact changed (spared.stackTop notCall notRet)
    case indexRegister =>
      intro changed
      by_contra none
      obtain ⟨notLdI, notOthers⟩ := not_or.mp none
      obtain ⟨notAddI, notLdF⟩ := not_or.mp notOthers
      exact changed (spared.indexRegister notLdI notAddI notLdF)
    case delayTimer =>
      exact fun changed => by_contra fun other =>
        changed (spared.delayTimer other)
    case soundTimer =>
      exact fun changed => by_contra fun other =>
        changed (spared.soundTimer other)
    case display =>
      intro changed
      by_contra neither
      obtain ⟨notCls, notDrw⟩ := not_or.mp neither
      exact changed (spared.display notCls notDrw)

/--
A program that stores two registers where the glyphs are leaves their
sixth byte alone.
-/
theorem instruction_changes_only_its_own_of_two_registers :
    let machine :=
      (fresh (Display.blank 64 32) (RandomTape.start [])).afterAll
        [.load [0xF1, 0x55]]
    let cell : Fin memorySize := ⟨5, by decide⟩
    (1 : Int) ≤ 64 ∧ (1 : Int) ≤ 32 ∧
      (machine.afterAll [.cycle]).memory.byte cell =
        machine.memory.byte cell ∧
      ∃ executed next,
        Action.cycle.run machine = .ok executed next ∧
          executed.instruction = ⟨.ldMemVx, .register 1⟩ ∧
          next.displayChanged = false := by
  intro machine cell
  have wide : (1 : Int) ≤ 64 := by decide
  have tall : (1 : Int) ≤ 32 := by decide
  have bounded : machine.Bounded 64 32 :=
    (Bounded.fresh wide tall _).afterAll [.load [0xF1, 0x55]]
  have inside : machine.programCounter < 4095 := by
    have atStart : machine.programCounter = programStart :=
      programCounter_after_load_pair _ 0xF1 0x55
    rw [atStart]
    decide
  have atBottom : machine.indexRegister = 0 := by
    change ((fresh _ _).after (.load [0xF1, 0x55])).indexRegister = 0
    rw [Machine.after, Action.run_load_pair]
    rfl
  have decoded :
      Instruction.decode machine.word = .ok ⟨.ldMemVx, .register 1⟩ :=
    (Instruction.decode_eq_ldMemVx_iff machine.word_lt ⟨1, by decide⟩).mpr
      (word_after_load_pair _ rfl 0xF1 0x55)
  obtain ⟨ofCycle, kept⟩ :=
    instruction_changes_only_its_own 64 32 wide tall (RandomTape.start [])
      [.load [0xF1, 0x55]]
  refine ⟨wide, tall, kept cell [.cycle] ?_, ?_⟩
  · intro earlier move isPrefix stored
    obtain ⟨rfl, rfl⟩ : earlier = [] ∧ move = .cycle := by
      have length := isPrefix.length_le
      cases earlier with
      | nil => exact ⟨rfl, (List.cons_prefix_cons.mp isPrefix).1⟩
      | cons => simp at length
    rw [afterAll_nil] at stored
    obtain ⟨-, instruction, found, stores⟩ := stored
    rw [decoded] at found
    cases found
    obtain ⟨-, notBehind, -⟩ := stores
    rw [atBottom] at notBehind
    exact absurd notBehind (by decide)
  · rcases Action.outcome_cycle bounded inside decoded with
      ⟨next, ran, -⟩ | ⟨fault, stopped, -, -, beyond, -⟩
    · obtain ⟨-, -, -, -, -, -, -, -, -, -, shown, -⟩ := ofCycle _ next ran
      refine ⟨_, next, ran, rfl, ?_⟩
      cases drew : next.displayChanged with
      | false => rfl
      | true => exact absurd (shown.mp drew) (by decide)
    · rw [atBottom] at beyond
      exact absurd beyond (by decide)

end Machine

end ChipEight
