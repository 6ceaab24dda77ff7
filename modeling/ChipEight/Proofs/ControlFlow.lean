import ChipEight.Proofs.Histories
import ChipEight.Proofs.Opcodes

namespace ChipEight

/-!
# Where a cycle leads

Every instruction moves the program counter itself. Eleven of them choose where
it goes: jumps, calls and returns, the skips, and waiting for a key. All others
go on with the next word. The choice is made by the registers, the stack and the
keypad as they are before the cycle. Each skip has an opposite that skips in all
other cases.
-/

/-- The words whose instructions choose where the program goes on. -/
inductive Steers :
    Nat →
    Prop where
  | ret :
      Steers 0x00EE
  | jump (nnn : Fin 0x1000) :
      Steers (0x1000 + nnn)
  | call (nnn : Fin 0x1000) :
      Steers (0x2000 + nnn)
  | jumpAhead (nnn : Fin 0x1000) :
      Steers (0xB000 + nnn)
  | skipValue (x : Fin registerCount) (kk : Fin 0x100) :
      Steers (0x3000 + (0x100 * x + kk))
  | skipOtherValue (x : Fin registerCount) (kk : Fin 0x100) :
      Steers (0x4000 + (0x100 * x + kk))
  | skipSame (x y : Fin registerCount) :
      Steers (0x5000 + (0x100 * x + 0x10 * y))
  | skipDifferent (x y : Fin registerCount) :
      Steers (0x9000 + (0x100 * x + 0x10 * y))
  | skipHeld (x : Fin registerCount) :
      Steers (0xE09E + 0x100 * x)
  | skipNotHeld (x : Fin registerCount) :
      Steers (0xE0A1 + 0x100 * x)
  | wait (x : Fin registerCount) :
      Steers (0xF00A + 0x100 * x)

/-- Two skips with the same operands and opposite conditions. -/
inductive Opposite :
    Nat →
    Nat →
    Prop where
  | value (x : Fin registerCount) (kk : Fin 0x100) :
      Opposite (0x3000 + (0x100 * x + kk)) (0x4000 + (0x100 * x + kk))
  | same (x y : Fin registerCount) :
      Opposite (0x5000 + (0x100 * x + 0x10 * y))
        (0x9000 + (0x100 * x + 0x10 * y))
  | held (x : Fin registerCount) :
      Opposite (0xE09E + 0x100 * x) (0xE0A1 + 0x100 * x)

namespace Machine

/-- Where the next word leads, given the machine before it is executed. -/
structure Follows
    (machine : Machine)
    (counter : Int) : Prop where
  ret :
    machine.word = 0x00EE →
    ∃ place : Fin stackCapacity,
      machine.stackTop = (place : Nat) ∧
        counter = machine.stack.get place
  jump :
    ∀ nnn : Fin 0x1000,
      machine.word = 0x1000 + nnn →
      counter = (nnn : Nat)
  call :
    ∀ nnn : Fin 0x1000,
      machine.word = 0x2000 + nnn →
      counter = (nnn : Nat)
  jumpAhead :
    ∀ nnn : Fin 0x1000,
      machine.word = 0xB000 + nnn →
      counter = (nnn : Nat) + (machine.registers.byte first).toNat
  skipValue :
    ∀ (x : Fin registerCount) (kk : Fin 0x100),
      machine.word = 0x3000 + (0x100 * x + kk) →
      counter =
        machine.programCounter +
          if (machine.registers.byte x).toNat = kk then 4 else 2
  skipOtherValue :
    ∀ (x : Fin registerCount) (kk : Fin 0x100),
      machine.word = 0x4000 + (0x100 * x + kk) →
      counter =
        machine.programCounter +
          if (machine.registers.byte x).toNat ≠ kk then 4 else 2
  skipSame :
    ∀ x y : Fin registerCount,
      machine.word = 0x5000 + (0x100 * x + 0x10 * y) →
      counter =
        machine.programCounter +
          if machine.registers.byte x = machine.registers.byte y then 4 else 2
  skipDifferent :
    ∀ x y : Fin registerCount,
      machine.word = 0x9000 + (0x100 * x + 0x10 * y) →
      counter =
        machine.programCounter +
          if machine.registers.byte x ≠ machine.registers.byte y then 4 else 2
  skipHeld :
    ∀ x : Fin registerCount,
      machine.word = 0xE09E + 0x100 * x →
      counter =
        machine.programCounter +
          if machine.keypad.isHeld (machine.registers.byte x).toNat then
            4
          else
            2
  skipNotHeld :
    ∀ x : Fin registerCount,
      machine.word = 0xE0A1 + 0x100 * x →
      counter =
        machine.programCounter +
          if machine.keypad.isHeld (machine.registers.byte x).toNat then
            2
          else
            4
  wait :
    ∀ x : Fin registerCount,
      machine.word = 0xF00A + 0x100 * x →
      counter =
        machine.programCounter + if machine.keypad.held = 0 then 0 else 2
  otherwise :
    ¬ Steers machine.word →
    counter = machine.programCounter + 2

end Machine

/-- Whether an operation chooses where the program goes on. -/
def Operation.steers : Operation → Bool
  | .ret | .jp | .call | .jpV0 | .se | .sne | .seReg | .sneReg | .skp | .sknp
  | .ldVxK => true
  | _ => false

/-- Operations that choose where the program goes on have words for it. -/
theorem steers_of_decoded
    {word : Nat}
    (small : word < 0x10000)
    {operation : Operation}
    {operands : Operands operation.format}
    (decoded : Instruction.decode word = .ok ⟨operation, operands⟩)
    (steers : operation.steers = true) :
    Steers word := by
  have proper := ((Instruction.decode_eq_ok_iff small).mp decoded).1
  have atWord
      (pattern mask : Nat)
      (member : ⟨operation, pattern, mask⟩ ∈ instructionTable)
      (notSys : operation ≠ .sys)
      {weight : Nat}
      (weighs : operands.weight = weight) :
      word = pattern + weight :=
    (Instruction.decode_eq_ok_iff_of_mem operation pattern mask member notSys
      proper weighs small).mp decoded
  cases operation
  case ret =>
    cases proper
    rw [atWord 0x00EE 0xFFFF (by decide) (by decide) rfl]
    exact .ret
  case jp =>
    cases proper with
    | address nnn =>
        rw [atWord 0x1000 0xF000 (by decide) (by decide) rfl]
        exact .jump nnn
  case call =>
    cases proper with
    | address nnn =>
        rw [atWord 0x2000 0xF000 (by decide) (by decide) rfl]
        exact .call nnn
  case jpV0 =>
    cases proper with
    | address nnn =>
        rw [atWord 0xB000 0xF000 (by decide) (by decide) rfl]
        exact .jumpAhead nnn
  case se =>
    cases proper with
    | registerValue x kk =>
        rw [atWord 0x3000 0xF000 (by decide) (by decide) rfl]
        exact .skipValue x kk
  case sne =>
    cases proper with
    | registerValue x kk =>
        rw [atWord 0x4000 0xF000 (by decide) (by decide) rfl]
        exact .skipOtherValue x kk
  case seReg =>
    cases proper with
    | registerPair x y =>
        rw [atWord 0x5000 0xF00F (by decide) (by decide) rfl]
        exact .skipSame x y
  case sneReg =>
    cases proper with
    | registerPair x y =>
        rw [atWord 0x9000 0xF00F (by decide) (by decide) rfl]
        exact .skipDifferent x y
  case skp =>
    cases proper with
    | register x =>
        rw [atWord 0xE09E 0xF0FF (by decide) (by decide) rfl]
        exact .skipHeld x
  case sknp =>
    cases proper with
    | register x =>
        rw [atWord 0xE0A1 0xF0FF (by decide) (by decide) rfl]
        exact .skipNotHeld x
  case ldVxK =>
    cases proper with
    | register x =>
        rw [atWord 0xF00A 0xF0FF (by decide) (by decide) rfl]
        exact .wait x
  all_goals cases steers

namespace Action

open Machine

variable {width height : Int} {machine next : Machine}

/-- Whatever else an operation does, it goes on behind itself unless it steers. -/
theorem counter_of_execute
    (bounded : machine.Bounded width height)
    {operation : Operation}
    {operands : Operands operation.format}
    (proper : operands.Proper)
    (goesOn : operation.steers = false)
    (ran : (execute operation operands).run machine = .ok () next) :
    next.programCounter = machine.programCounter + 2 := by
  cases operation
  case drw =>
    cases proper with
    | sprite x y n =>
        have ⟨sameWidth, sameHeight⟩ := bounded.display
        have ⟨wide, tall⟩ := bounded.visible
        obtain ⟨drawn, erased, drawing, -⟩ :=
          machine.display.struck_draw (by omega) (by omega)
            (indexedBytes machine n) (machine.registers.byte x).toNat
            (machine.registers.byte y).toNat
        rw [run_drw machine x y n bounded.indexRegister drawing] at ran
        cases ran
        rfl
  case ldB =>
    cases proper with
    | register x =>
        cases digitCells bounded.indexRegister with
        | inside hundreds tens units atHundreds atTens atUnits =>
            rw [run_ldB machine x atHundreds atTens atUnits] at ran
            cases ran
            rfl
        | beforeLast hundreds tens atHundreds atTens last =>
            rw [run_ldB_before_last machine x atHundreds atTens last] at ran
            cases ran
        | atLast hundreds atHundreds last =>
            rw [run_ldB_at_last machine x atHundreds last] at ran
            cases ran
        | behind outside =>
            rw [run_ldB_of_size_le machine x outside] at ran
            cases ran
  case ldMemVx =>
    cases proper with
    | register x =>
        rcases lt_or_ge 4096 (machine.indexRegister + (x : Nat) + 1) with
          beyond | fits
        · obtain ⟨fault, failed, -⟩ :=
            exists_run_ldMemVx_error bounded.indexRegister beyond
          rw [failed] at ran
          cases ran
        · obtain ⟨written, -, stored⟩ :=
            exists_run_ldMemVx bounded.indexRegister fits
          rw [stored] at ran
          cases ran
          rfl
  case ldVxMem =>
    cases proper with
    | register x =>
        rcases lt_or_ge 4096 (machine.indexRegister + (x : Nat) + 1) with
          beyond | fits
        · obtain ⟨fault, failed, -⟩ :=
            exists_run_ldVxMem_error bounded.indexRegister beyond
          rw [failed] at ran
          cases ran
        · obtain ⟨written, -, loaded⟩ :=
            exists_run_ldVxMem bounded.indexRegister fits
          rw [loaded] at ran
          cases ran
          rfl
  case sys | cls | ld | add | ldReg | or | and | xor | addReg | sub | shr
      | subn | shl | ldI | rnd | ldVxDt | ldDtVx | ldStVx | addI | ldF =>
    cases proper
    simp only [run_sys, run_cls, run_ld, run_add, run_ldReg, run_or, run_and,
      run_xor, run_addReg, run_sub, run_shr, run_subn, run_shl,
      run_writeFlagged, run_ldI, run_rnd, run_ldVxDt, run_ldDtVx, run_ldStVx,
      run_addI, run_ldF] at ran
    cases ran
    rfl
  all_goals cases goesOn

end Action

namespace Machine

variable {width height : Int} {machine next : Machine}

/-- A cycle that succeeds leads where its word does. -/
theorem follows_of_run_cycle
    (bounded : machine.Bounded width height)
    {executed : Executed}
    (ran : Action.cycle.run machine = .ok executed next) :
    machine.Follows next.programCounter := by
  have executes := executes_of_run_cycle bounded.programCounter.1 ran
  have leads
      {opcode : Nat}
      {reached : Machine}
      (atWord : machine.word = opcode)
      (executesToo : machine.settled.Executes opcode reached) :
      next.programCounter = reached.programCounter := by
    rw [atWord] at executes
    rw [executes.unique executesToo]
  constructor
  case ret =>
    intro atWord
    rcases bounded.empty_or_top with empty | ⟨place, top⟩
    · have isEmpty : machine.settled.stackTop < 0 :=
        Int.lt_of_le_sub_one empty.le
      rw [atWord] at executes
      exact absurd executes <|
        not_executes_of_mem .ret 0x00EE 0xFFFF (by decide) (by decide) .bare
          rfl (Action.run_ret_of_empty machine.settled isEmpty)
    · have moved := leads atWord <|
        executes_of_mem .ret 0x00EE 0xFFFF (by decide) (by decide) .bare rfl
          (Action.run_ret machine.settled top)
      exact ⟨place, top, moved⟩
  case jump =>
    intro nnn atWord
    exact leads atWord <|
      executes_of_mem .jp 0x1000 0xF000 (by decide) (by decide)
        (.address nnn) rfl (Action.run_jp machine.settled (nnn : Nat))
  case call =>
    intro nnn atWord
    rcases bounded.full_or_free with full | ⟨place, free⟩
    · have isFull : (stackCapacity : Int) ≤ machine.settled.stackTop + 1 := by
        simp [settled, stackCapacity, full]
      rw [atWord] at executes
      exact absurd executes <|
        not_executes_of_mem .call 0x2000 0xF000 (by decide) (by decide)
          (.address nnn) rfl
          (Action.run_call_of_full machine.settled (nnn : Nat) isFull)
    · exact leads atWord <|
        executes_of_mem .call 0x2000 0xF000 (by decide) (by decide)
          (.address nnn) rfl
          (Action.run_call machine.settled (nnn : Nat) free)
  case jumpAhead =>
    intro nnn atWord
    exact leads atWord <|
      executes_of_mem .jpV0 0xB000 0xF000 (by decide) (by decide)
        (.address nnn) rfl (Action.run_jpV0 machine.settled (nnn : Nat))
  case skipValue =>
    intro x kk atWord
    have moved := leads atWord <|
      executes_of_mem .se 0x3000 0xF000 (by decide) (by decide)
        (.registerValue x kk) rfl
        (Action.run_se machine.settled x (kk : Nat))
    simp only [Int.natCast_inj] at moved
    exact moved
  case skipOtherValue =>
    intro x kk atWord
    have moved := leads atWord <|
      executes_of_mem .sne 0x4000 0xF000 (by decide) (by decide)
        (.registerValue x kk) rfl
        (Action.run_sne machine.settled x (kk : Nat))
    simp only [ne_eq, Int.natCast_inj] at moved
    exact moved
  case skipSame =>
    intro x y atWord
    exact leads atWord <|
      executes_of_mem .seReg 0x5000 0xF00F (by decide) (by decide)
        (.registerPair x y) rfl (Action.run_seReg machine.settled x y)
  case skipDifferent =>
    intro x y atWord
    exact leads atWord <|
      executes_of_mem .sneReg 0x9000 0xF00F (by decide) (by decide)
        (.registerPair x y) rfl (Action.run_sneReg machine.settled x y)
  case skipHeld =>
    intro x atWord
    exact leads atWord <|
      executes_of_mem .skp 0xE09E 0xF0FF (by decide) (by decide)
        (.register x) rfl (Action.run_skp machine.settled x)
  case skipNotHeld =>
    intro x atWord
    exact leads atWord <|
      executes_of_mem .sknp 0xE0A1 0xF0FF (by decide) (by decide)
        (.register x) rfl (Action.run_sknp machine.settled x)
  case wait =>
    intro x atWord
    have moved := leads atWord <|
      executes_of_mem .ldVxK 0xF00A 0xF0FF (by decide) (by decide)
        (.register x) rfl (Action.run_ldVxK machine.settled x)
    rw [moved]
    by_cases noneHeld : machine.keypad.held = 0
    · simp [settled, Keypad.anyHeld, noneHeld]
    · simp [settled, Keypad.anyHeld, noneHeld]
  case otherwise =>
    intro notSteers
    obtain ⟨⟨operation, operands⟩, decoded, succeeded⟩ := executes
    have proper :=
      ((Instruction.decode_eq_ok_iff machine.word_lt).mp decoded).1
    have goesOn : operation.steers = false :=
      Bool.eq_false_iff.mpr fun steers =>
        notSteers (steers_of_decoded machine.word_lt decoded steers)
    have settled : machine.settled.Bounded width height := bounded.settled
    have goesBehind :=
      Action.counter_of_execute settled proper goesOn succeeded
    exact goesBehind

/--
Two opcodes of which one moves by two and the other one by four,
whatever memory holds.
-/
def MovesApart
    (machine : Machine)
    (memory : Memory memorySize)
    (opcode other : Nat) :
    Prop :=
  ∃ distance : Int,
    (distance = 2 ∨ distance = 4) ∧
      machine.Executes opcode
        { machine with
          programCounter := machine.programCounter + distance } ∧
      { machine with memory := memory }.Executes other
        { machine with
          memory := memory,
          programCounter := machine.programCounter + (6 - distance) }

theorem movesApart_of_condition
    {memory : Memory memorySize}
    {opcode other : Nat}
    (condition : Prop)
    [Decidable condition]
    (skips :
      machine.Executes opcode
        { machine with
          programCounter :=
            machine.programCounter + if condition then 4 else 2 })
    (skipsOther :
      { machine with memory := memory }.Executes other
        { machine with
          memory := memory,
          programCounter :=
            machine.programCounter + if condition then 2 else 4 }) :
    machine.MovesApart memory opcode other := by
  by_cases holds : condition
  · rw [if_pos holds] at skips skipsOther
    exact ⟨4, .inr rfl, skips, skipsOther⟩
  · rw [if_neg holds] at skips skipsOther
    exact ⟨2, .inl rfl, skips, skipsOther⟩

/-- Opposite skips move apart on every machine. -/
theorem movesApart_of_opposite
    (machine : Machine)
    (memory : Memory memorySize)
    {opcode other : Nat}
    (opposite : Opposite opcode other) :
    machine.MovesApart memory opcode other := by
  let changed : Machine := { machine with memory := memory }
  cases opposite with
  | value x kk =>
      have skips :=
        executes_of_mem .se 0x3000 0xF000 (by decide) (by decide)
          (.registerValue x kk) rfl (Action.run_se machine x (kk : Nat))
      have skipsOther :=
        executes_of_mem .sne 0x4000 0xF000 (by decide) (by decide)
          (.registerValue x kk) rfl (Action.run_sne changed x (kk : Nat))
      simp only [ne_eq, ite_not] at skipsOther
      exact movesApart_of_condition _ skips skipsOther
  | same x y =>
      have skips :=
        executes_of_mem .seReg 0x5000 0xF00F (by decide) (by decide)
          (.registerPair x y) rfl (Action.run_seReg machine x y)
      have skipsOther :=
        executes_of_mem .sneReg 0x9000 0xF00F (by decide) (by decide)
          (.registerPair x y) rfl (Action.run_sneReg changed x y)
      simp only [ne_eq, ite_not] at skipsOther
      exact movesApart_of_condition _ skips skipsOther
  | held x =>
      have skips :=
        executes_of_mem .skp 0xE09E 0xF0FF (by decide) (by decide)
          (.register x) rfl (Action.run_skp machine x)
      have skipsOther :=
        executes_of_mem .sknp 0xE0A1 0xF0FF (by decide) (by decide)
          (.register x) rfl (Action.run_sknp changed x)
      exact movesApart_of_condition _ skips skipsOther

/--
Where a cycle leads, and that opposite skips lead to different places.

In every history a cycle that succeeds goes where its word says, by the
registers, the stack and the keypad before it. Where memory holds the opposite
skip instead, the cycle goes to the other one of the next two words, on any
machine that has a word to fetch.
-/
theorem cycle_follows_word :
    (∀ (width height : Int) (random : RandomTape) (moves : List Move),
      1 ≤ width →
      1 ≤ height →
        let machine :=
          (fresh (Display.blank width height) random).afterAll moves
        ∀ executed next,
          Action.cycle.run machine = .ok executed next →
          machine.Follows next.programCounter) ∧
    ∀ (machine : Machine) (memory : Memory memorySize),
      let other := { machine with memory := memory }
      0 ≤ machine.programCounter →
      machine.programCounter < 4095 →
      Opposite machine.word other.word →
      ∃ executed next executedToo nextToo,
        ∃ distance : Int,
          Action.cycle.run machine = .ok executed next ∧
            Action.cycle.run other = .ok executedToo nextToo ∧
            (distance = 2 ∨ distance = 4) ∧
            next.programCounter = machine.programCounter + distance ∧
            nextToo.programCounter =
              machine.programCounter + (6 - distance) := by
  constructor
  · intro width height random moves wide tall machine executed next ran
    have bounded : machine.Bounded width height :=
      (Bounded.fresh wide tall random).afterAll moves
    exact follows_of_run_cycle bounded ran
  · intro machine memory other lower inside opposite
    obtain ⟨distance, twoOrFour, executes, executesToo⟩ :=
      movesApart_of_opposite machine.settled memory opposite
    obtain ⟨executed, ran⟩ := executes.run_cycle lower inside
    have executesOther : other.settled.Executes other.word _ := executesToo
    obtain ⟨executedToo, ranToo⟩ := executesOther.run_cycle lower inside
    exact ⟨executed, _, executedToo, _, distance, ran, ranToo, twoOrFour, rfl,
      rfl⟩

/--
A jump to the start of its program, and a skip in one program with its
opposite in another.
-/
theorem cycle_follows_word_of_first_words :
    let start := fresh (Display.blank 64 32) (RandomTape.start [])
    let jumping := start.afterAll [.load [0x12, 0x00]]
    let skipping := start.after (.load [0x30, 0x00])
    let other :=
      { skipping with memory := (start.after (.load [0x40, 0x00])).memory }
    (∃ executed next,
      Action.cycle.run jumping = .ok executed next ∧
        next.programCounter = 0x200) ∧
    ∃ executed next executedToo nextToo,
      Action.cycle.run skipping = .ok executed next ∧
        Action.cycle.run other = .ok executedToo nextToo ∧
        next.programCounter + nextToo.programCounter = 0x202 + 0x204 := by
  intro start jumping skipping other
  constructor
  · have atJump : jumping.word = 0x1000 + (⟨0x200, by decide⟩ : Fin 0x1000) :=
      word_after_load_pair start rfl 0x12 0x00
    have atStart : jumping.programCounter = 0x200 := rfl
    have ran := run_cycle_of_jump (by omega) (by omega) _ atJump
    have follows :=
      cycle_follows_word.1 64 32 (RandomTape.start []) [.load [0x12, 0x00]]
        (by decide) (by decide) _ _ ran
    exact ⟨_, _, ran, follows.jump _ atJump⟩
  · have atSkip : skipping.word = 0x3000 :=
      word_after_load_pair start rfl 0x30 0x00
    -- The two programs are loaded to machines that differ in memory only.
    have sameMachine : other = start.after (.load [0x40, 0x00]) := by
      obtain ⟨memory, loaded⟩ := Action.exists_load [0x30, 0x00] start
      obtain ⟨memoryToo, loadedToo⟩ := Action.exists_load [0x40, 0x00] start
      simp only [other, skipping, after, loaded, loadedToo]
    have atOther : other.word = 0x4000 := by
      rw [sameMachine]
      exact word_after_load_pair start rfl 0x40 0x00
    have opposite : Opposite skipping.word other.word := by
      rw [atSkip, atOther]
      exact .value ⟨0, by decide⟩ ⟨0, by decide⟩
    have atStart : skipping.programCounter = 0x200 := rfl
    obtain ⟨executed, next, executedToo, nextToo, distance, ran, ranToo, -,
      moved, movedToo⟩ :=
      cycle_follows_word.2 skipping
        (start.after (.load [0x40, 0x00])).memory (by omega) (by omega)
        opposite
    exact ⟨executed, next, executedToo, nextToo, ran, ranToo, by omega⟩

end Machine

end ChipEight
