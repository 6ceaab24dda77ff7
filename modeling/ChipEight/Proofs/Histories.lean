import ChipEight.Proofs.Outcomes

namespace ChipEight

/-!
# What may happen to a machine

A history of a machine is a list of moves: programs are loaded, cycles are run,
the timers tick, keys are pressed and let go. A move that fails leaves the
machine as it was at the failure, and the history goes on from there. Every
move keeps the machine within its bounds, hence every history does.
-/

/-- Something that happens to a machine. -/
inductive Move where
  /-- A program is loaded. -/
  | load (program : List UInt8)
  /-- A cycle is run. -/
  | cycle
  /-- The timers tick. -/
  | tick
  /-- A key is pressed. -/
  | press (key : Fin 16)
  /-- A key is let go. -/
  | release (key : Fin 16)

namespace Machine

/-- The machine after a move, whether the move fails or not. -/
def after
    (machine : Machine) :
    Move →
    Machine
  | .load program => machineOf ((Action.load program).run machine)
  | .cycle => machineOf (Action.cycle.run machine)
  | .tick => machine.countDownTimers
  | .press key => { machine with keypad := machine.keypad.press key }
  | .release key => { machine with keypad := machine.keypad.release key }

/-- The machine after some moves. -/
def afterAll
    (machine : Machine)
    (moves : List Move) :
    Machine :=
  moves.foldl after machine

@[simp] theorem afterAll_nil
    (machine : Machine) :
    machine.afterAll [] = machine :=
  rfl

@[simp] theorem afterAll_cons
    (machine : Machine)
    (move : Move)
    (rest : List Move) :
    machine.afterAll (move :: rest) = (machine.after move).afterAll rest :=
  rfl

/-- What happens in two parts happens one after the other. -/
@[simp] theorem afterAll_append
    (machine : Machine)
    (earlier later : List Move) :
    machine.afterAll (earlier ++ later) =
      (machine.afterAll earlier).afterAll later :=
  List.foldl_append

/-- What came of each cycle of a history, in order. -/
def cycleResults
    (machine : Machine) :
    List Move →
    List (EStateM.Result Fault Machine Executed)
  | [] => []
  | .cycle :: rest =>
      Action.cycle.run machine :: (machine.after .cycle).cycleResults rest
  | move :: rest => (machine.after move).cycleResults rest

theorem cycleResults_append
    (machine : Machine)
    (earlier later : List Move) :
    machine.cycleResults (earlier ++ later) =
      machine.cycleResults earlier ++
        (machine.afterAll earlier).cycleResults later := by
  induction earlier generalizing machine with
  | nil => rfl
  | cons move rest inductionHypothesis =>
      cases move <;>
        simp only [List.cons_append, cycleResults, afterAll_cons,
          inductionHypothesis]

/-- A program of two bytes is the word that a machine just switched on meets. -/
theorem word_after_load_pair
    (machine : Machine)
    (atStart : machine.programCounter = programStart)
    (high low : UInt8) :
    (machine.after (.load [high, low])).word =
      0x100 * high.toNat + low.toNat := by
  have apart :
      (⟨0x201, by decide⟩ : Fin memorySize) ≠ ⟨0x200, by decide⟩ := by
    decide
  have sameCounter : machine.programCounter.toNat = 0x200 := by
    rw [atStart]
    rfl
  rw [after, Action.run_load_pair, machineOf, word]
  simp only [sameCounter]
  rw [byteAt_val _ ⟨0x200, by decide⟩, byteAt_val _ ⟨0x201, by decide⟩,
    Memory.byte_set, if_neg apart, Memory.byte_set, if_pos rfl,
    Memory.byte_set, if_pos rfl, Memory.ofInt_toNat, Memory.ofInt_toNat]

/-- A program of two bytes is put into the memory and nowhere else. -/
theorem after_load_pair
    (machine : Machine)
    (high low : UInt8) :
    machine.after (.load [high, low]) =
      { machine with
        memory := (machine.after (.load [high, low])).memory } := by
  rw [after, Action.run_load_pair]
  rfl

theorem programCounter_after_load_pair
    (machine : Machine)
    (high low : UInt8) :
    (machine.after (.load [high, low])).programCounter =
      machine.programCounter := by
  rw [after_load_pair]

/-- A jump goes to its target and changes nothing else. -/
theorem run_cycle_of_jump
    {machine : Machine}
    (lower : 0 ≤ machine.programCounter)
    (inside : machine.programCounter < 4095)
    (nnn : Fin 0x1000)
    (atWord : machine.word = 0x1000 + nnn) :
    Action.cycle.run machine =
      .ok
        { address := machine.programCounter,
          instruction := ⟨.jp, .address (nnn : Nat)⟩ }
        { machine.settled with programCounter := (nnn : Nat) } := by
  have decoded :=
    (Instruction.decode_eq_jp_iff machine.word_lt nnn).mpr atWord
  rw [Action.run_cycle_of_decoded machine lower inside decoded]
  rfl

theorem after_cycle_of_jump
    {machine : Machine}
    (lower : 0 ≤ machine.programCounter)
    (inside : machine.programCounter < 4095)
    (nnn : Fin 0x1000)
    (atWord : machine.word = 0x1000 + nnn) :
    machine.after .cycle =
      { machine.settled with programCounter := (nnn : Nat) } := by
  rw [after, run_cycle_of_jump lower inside nnn atWord]
  rfl

/--
A program that begins with a jump takes a machine just switched on to
its target.
-/
theorem programCounter_after_load_jump
    (machine : Machine)
    (atStart : machine.programCounter = programStart)
    (high low : UInt8)
    (nnn : Fin 0x1000)
    (isJump : 0x100 * high.toNat + low.toNat = 0x1000 + nnn) :
    (machine.afterAll [.load [high, low], .cycle]).programCounter =
      (nnn : Nat) := by
  have atWord := machine.word_after_load_pair atStart high low
  rw [isJump] at atWord
  have sameCounter :
      (machine.after (.load [high, low])).programCounter = 0x200 :=
    (programCounter_after_load_pair machine high low).trans atStart
  rw [afterAll_cons, afterAll_cons, afterAll_nil,
    after_cycle_of_jump (by omega) (by omega) nnn atWord]

theorem Outcome.spared
    {machine : Machine}
    {operation : Operation}
    {operands : Operands operation.format}
    {result : EStateM.Result Fault Machine Unit}
    (outcome : machine.Outcome operation operands result) :
    machine.Spared operation (machineOf result) := by
  cases result with
  | ok _ after => exact outcome.1
  | error fault after => exact outcome.1

namespace Bounded

variable {width height : Int} {machine : Machine}

/-- An operation that spares everything bounded keeps to the bounds. -/
theorem of_spared
    (bounded : machine.Bounded width height)
    (inside : machine.programCounter ≤ 4094)
    {operation : Operation}
    {after : Machine}
    (spared : machine.Spared operation after)
    (plain :
      operation ∉
        [.call, .ret, .jp, .jpV0, .ldI, .addI, .ldF, .ldDtVx, .ldStVx]) :
    after.Bounded width height := by
  simp only [List.mem_cons, List.not_mem_nil, or_false, not_or] at plain
  obtain ⟨notCall, notRet, notJp, notJpV0, notLdI, notAddI, notLdF,
    notLdDtVx, notLdStVx⟩ := plain
  have ⟨lower, upper⟩ :=
    spared.programCounter notJp notJpV0 notCall notRet
  have notNegative := bounded.programCounter.1
  exact
    { stack := by
        rw [spared.stack notCall]
        exact bounded.stack
      stackTop := by
        rw [spared.stackTop notCall notRet]
        exact bounded.stackTop
      programCounter := by
        omega
      indexRegister := by
        rw [spared.indexRegister notLdI notAddI notLdF]
        exact bounded.indexRegister
      delayTimer := by
        rw [spared.delayTimer notLdDtVx]
        exact bounded.delayTimer
      soundTimer := by
        rw [spared.soundTimer notLdStVx]
        exact bounded.soundTimer
      display := by
        rw [spared.sides.1, spared.sides.2]
        exact bounded.display
      visible :=
        bounded.visible
      keypad := by
        rw [spared.keypad]
        exact bounded.keypad }

theorem ret
    (bounded : machine.Bounded width height) :
    (machineOf ((Action.execute .ret .bare).run machine)).Bounded
      width height := by
  rcases bounded.empty_or_top with empty | ⟨place, top⟩
  · rw [Action.run_ret_of_empty machine (by omega)]
    exact bounded
  · have below :
        -1 ≤ ((place : Nat) : Int) - 1 ∧ ((place : Nat) : Int) - 1 ≤ 15 := by
      have inside : (place : Nat) < 16 := place.isLt
      omega
    have ⟨notNegative, fetched⟩ := bounded.stack place
    rw [Action.run_ret machine top]
    exact
      { bounded with
        stackTop := below
        programCounter := ⟨notNegative, Int.le_trans fetched (by decide)⟩ }

/-- A call puts the address that it was fetched from on the stack. -/
theorem call
    (bounded : machine.Bounded width height)
    (fetched : machine.programCounter ≤ 4094)
    {nnn : Int}
    (target : 0 ≤ nnn ∧ nnn ≤ 0x10FE) :
    (machineOf ((Action.execute .call (.address nnn)).run machine)).Bounded
      width height := by
  rcases bounded.full_or_free with full | ⟨place, free⟩
  · rw [Action.run_call_of_full machine _ (by simp [full, stackCapacity])]
    exact bounded
  · have above : -1 ≤ ((place : Nat) : Int) ∧ ((place : Nat) : Int) ≤ 15 := by
      have inside : (place : Nat) < 16 := place.isLt
      omega
    have stack (other : Fin stackCapacity) :
        0 ≤ (machine.stack.set place machine.programCounter
            place.isLt).get other ∧
          (machine.stack.set place machine.programCounter
            place.isLt).get other ≤ 4094 := by
      rw [get_set_place]
      split
      · exact ⟨bounded.programCounter.1, fetched⟩
      · exact bounded.stack other
    rw [Action.run_call machine _ free]
    exact
      { bounded with
        stack := stack
        stackTop := above
        programCounter := target }

theorem execute
    (bounded : machine.Bounded width height)
    (inside : machine.programCounter ≤ 4094)
    {operation : Operation}
    {operands : Operands operation.format}
    (proper : operands.Proper) :
    (machineOf ((Action.execute operation operands).run machine)).Bounded
      width height := by
  have spared := (Action.outcome_execute bounded proper).spared
  have indexed := bounded.indexRegister
  have lower := bounded.programCounter.1
  have next :
      0 ≤ machine.programCounter + 2 ∧
        machine.programCounter + 2 ≤ 0x10FE := by
    omega
  have value (x : Fin registerCount) :
      0 ≤ ((machine.registers.byte x).toNat : Int) ∧
        ((machine.registers.byte x).toNat : Int) ≤ 255 := by
    have isByte := (machine.registers.byte x).toNat_lt
    omega
  have target (nnn : Fin 0x1000) :
      0 ≤ ((nnn : Nat) : Int) ∧ ((nnn : Nat) : Int) ≤ 0x10FE := by
    omega
  cases operation
  case ret =>
    cases proper
    exact ret bounded
  case call =>
    cases proper with
    | address nnn => exact call bounded inside (target nnn)
  case jp =>
    cases proper with
    | address nnn =>
        rw [Action.run_jp]
        exact { bounded with programCounter := target nnn }
  case jpV0 =>
    cases proper with
    | address nnn =>
        have ⟨nonnegative, isByte⟩ := value first
        have farther :
            0 ≤ (nnn : Nat) + ((machine.registers.byte first).toNat : Int) ∧
              (nnn : Nat) + ((machine.registers.byte first).toNat : Int) ≤
                0x10FE := by
          omega
        rw [Action.run_jpV0]
        exact { bounded with programCounter := farther }
  case ldI =>
    cases proper with
    | address nnn =>
        rw [Action.run_ldI]
        exact
          { bounded with
            indexRegister := (target nnn).1
            programCounter := next }
  case addI =>
    cases proper with
    | register x =>
        rw [Action.run_addI]
        exact
          { bounded with
            indexRegister := Int.add_nonneg indexed (value x).1
            programCounter := next }
  case ldF =>
    cases proper with
    | register x =>
        have glyph := Int.mul_nonneg (value x).1 (Int.natCast_nonneg glyphSize)
        rw [Action.run_ldF]
        exact
          { bounded with
            indexRegister := Int.add_nonneg (Int.natCast_nonneg _) glyph
            programCounter := next }
  case ldDtVx =>
    cases proper with
    | register x =>
        rw [Action.run_ldDtVx]
        exact
          { bounded with
            delayTimer := value x
            programCounter := next }
  case ldStVx =>
    cases proper with
    | register x =>
        rw [Action.run_ldStVx]
        exact
          { bounded with
            soundTimer := value x
            programCounter := next }
  all_goals exact of_spared bounded inside spared (by decide)

theorem cycle
    (bounded : machine.Bounded width height) :
    (machineOf (Action.cycle.run machine)).Bounded width height := by
  have settled : machine.settled.Bounded width height := bounded.settled
  have lower := bounded.programCounter.1
  rcases Action.stops_or_decodes machine lower with
    ⟨fault, ran⟩ | ⟨inside, instruction, decoded⟩
  · rw [ran]
    exact settled
  · have proper :=
      ((Instruction.decode_eq_ok_iff machine.word_lt).mp decoded).1
    have executed := settled.execute (Int.le_of_lt_add_one inside) proper
    rw [Action.run_cycle_of_decoded machine lower inside decoded]
    revert executed
    cases (Action.execute instruction.operation instruction.operands).run
      machine.settled <;> exact id

theorem after
    (bounded : machine.Bounded width height)
    (move : Move) :
    (machine.after move).Bounded width height := by
  cases move with
  | load program => exact bounded.load program
  | cycle => exact bounded.cycle
  | tick => exact bounded.countDownTimers
  | press key => exact bounded.withKeypad (bounded.keypad.press key)
  | release key => exact bounded.withKeypad (bounded.keypad.release key)

/-- Every history keeps to the bounds. -/
theorem afterAll
    (bounded : machine.Bounded width height)
    (moves : List Move) :
    (machine.afterAll moves).Bounded width height := by
  induction moves generalizing machine with
  | nil => exact bounded
  | cons move rest inductionHypothesis =>
      exact inductionHypothesis (bounded.after move)

end Bounded

/-- A cycle executes nothing, or it spares what its instruction spares. -/
theorem Bounded.spared_after_cycle
    {width height : Int}
    {machine : Machine}
    (bounded : machine.Bounded width height) :
    machine.after .cycle = machine.settled ∨
      ∃ instruction,
        Instruction.decode machine.word = .ok instruction ∧
          machine.Spared instruction.operation (machine.after .cycle) := by
  rcases Action.stops_or_decodes machine bounded.programCounter.1 with
    ⟨fault, ran⟩ | ⟨inside, instruction, decoded⟩
  · rw [Machine.after, ran]
    exact Or.inl rfl
  · refine Or.inr ⟨instruction, decoded, ?_⟩
    rcases Action.outcome_cycle bounded inside decoded with
      ⟨next, ran, spared, -⟩ | ⟨fault, stopped, ran, spared, -⟩
    · rw [Machine.after, ran]
      exact spared
    · rw [Machine.after, ran]
      exact spared

/--
Whatever happens to a machine, it stays within its bounds.

Loading and running may fail on the way as often as they like. The numbers of
cells, registers and places are part of what a machine is, and so are bytes and
pixels; the pointers, the timers and the keypad are whole numbers that are kept
in range by what can be done with them.
-/
theorem history_keeps_bounds
    (width height : Int)
    (wide : 1 ≤ width)
    (tall : 1 ≤ height)
    (random : RandomTape)
    (moves : List Move) :
    let machine := (fresh (Display.blank width height) random).afterAll moves
    (machine.memory.toList.length = 4096 ∧
      ∀ byte ∈ machine.memory.toList, byte.toNat ≤ 255) ∧
    (machine.registers.toList.length = 16 ∧
      ∀ value ∈ machine.registers.toList, value.toNat ≤ 255) ∧
    (machine.stack.toList.length = 16 ∧
      ∀ address ∈ machine.stack.toList, 0 ≤ address ∧ address ≤ 4094) ∧
    (-1 ≤ machine.stackTop ∧ machine.stackTop ≤ 15) ∧
    (0 ≤ machine.programCounter ∧ machine.programCounter ≤ 0x10FE) ∧
    0 ≤ machine.indexRegister ∧
    (0 ≤ machine.delayTimer ∧ machine.delayTimer ≤ 255) ∧
    (0 ≤ machine.soundTimer ∧ machine.soundTimer ≤ 255) ∧
    ((machine.display.toLists.length : Int) = height ∧
      ∀ line ∈ machine.display.toLists,
        (line.length : Int) = width ∧
          ∀ pixel ∈ line, pixel.toNat = 0 ∨ pixel.toNat = 1) ∧
    (0 ≤ machine.keypad.held ∧ machine.keypad.held < 2 ^ 16) ∧
    (-1 ≤ machine.keypad.lastPressed ∧ machine.keypad.lastPressed ≤ 15) ∧
    (machine.keypad.held ≠ 0 → 0 ≤ machine.keypad.lastPressed) := by
  intro machine
  have bounded : machine.Bounded width height :=
    (Bounded.fresh wide tall random).afterAll moves
  have ⟨sameWidth, sameHeight⟩ := bounded.display
  refine ⟨⟨machine.memory.length_toList, ?_⟩,
    ⟨machine.registers.length_toList, ?_⟩, ⟨Vector.length_toList, ?_⟩,
    bounded.stackTop, bounded.programCounter, bounded.indexRegister,
    bounded.delayTimer, bounded.soundTimer, ⟨?_, ?_⟩, bounded.keypad.held,
    bounded.keypad.lastPressed, bounded.keypad.pressed⟩
  · exact fun byte _ => Nat.le_of_lt_succ byte.toNat_lt
  · exact fun value _ => Nat.le_of_lt_succ value.toNat_lt
  · intro address member
    obtain ⟨place, inside, rfl⟩ := List.mem_iff_getElem.mp member
    exact bounded.stack ⟨place, by simpa using inside⟩
  · rw [Display.length_toLists]
    omega
  · intro line member
    refine ⟨?_, fun pixel _ => ?_⟩
    · rw [Display.length_of_mem_toLists member]
      omega
    · exact Nat.le_one_iff_eq_zero_or_eq_one.mp pixel.toNat_le

/-- A program that calls itself for ever leaves the stack pointer in range. -/
theorem history_keeps_bounds_of_endless_calls :
    (1 : Int) ≤ 1 ∧
      let machine :=
        (fresh (Display.blank 1 1) (RandomTape.start [])).afterAll
          (.load [0x22, 0x00] :: List.replicate 100 .cycle)
      machine.stackTop ≤ 15 ∧ -1 ≤ machine.stackTop := by
  have positive : (1 : Int) ≤ 1 := by decide
  have bounds :=
    history_keeps_bounds 1 1 positive positive (RandomTape.start [])
      (.load [0x22, 0x00] :: List.replicate 100 .cycle)
  obtain ⟨-, -, -, stackTop, -⟩ := bounds
  exact ⟨positive, stackTop.2, stackTop.1⟩

end Machine

end ChipEight
