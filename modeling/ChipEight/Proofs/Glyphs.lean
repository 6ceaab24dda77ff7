import ChipEight.Proofs.RegisterBlocks

namespace ChipEight

/-!
# Digits and their glyphs

The glyphs of the hexadecimal digits lie at the bottom of memory, in front of
where programs are loaded. Only two instructions store to memory at all, so the
glyphs stay whole for as long as these two store elsewhere, whatever else a
program does. As long as they are whole the index register can be led to the
glyph of any digit in a register. A register of any value is shown in decimals
when its digits are stored, loaded back into the first three registers and
looked up there one by one.
-/

/-- The rows of the glyph of a digit. -/
def glyph
    (digit : Nat) :
    List UInt8 :=
  (glyphs.toList.drop (glyphSize * digit)).take glyphSize

/--
The decimal digits of a number below a thousand, the hundreds at the
first place.
-/
def decimalDigit
    (number place : Nat) :
    Nat :=
  number / 10 ^ (2 - place) % 10

theorem decimalDigit_lt
    (number place : Nat) :
    decimalDigit number place < 10 :=
  Nat.mod_lt _ (by decide)

theorem sum_decimalDigit
    {number : Nat}
    (small : number < 1000) :
    100 * decimalDigit number 0 + 10 * decimalDigit number 1 +
        decimalDigit number 2 =
      number := by
  simp only [decimalDigit]
  omega

namespace Machine

/-- Whether the glyphs are whole. -/
def HoldsGlyphs
    (machine : Machine) :
    Prop :=
  ∀ (cell : Fin memorySize) (inGlyphs : (cell : Nat) < glyphs.size),
    machine.memory.byte cell = glyphs[(cell : Nat)]

/-- Whether the index register is where the glyph of a digit lies. -/
def PointsToGlyph
    (machine : Machine)
    (digit : Nat) :
    Prop :=
  machine.memory.readSpan
      (.between machine.indexRegister (machine.indexRegister + glyphSize)) =
    .ok (glyph digit)

/--
Whether no cycle of a history stores digits or registers below the end
of the glyphs.
-/
def StoresBehindGlyphs
    (machine : Machine)
    (moves : List Move) :
    Prop :=
  ∀ earlier executed next,
    earlier ++ [.cycle] <+: moves →
    Action.cycle.run (machine.afterAll earlier) = .ok executed next →
    executed.instruction.operation = .ldB ∨
      executed.instruction.operation = .ldMemVx →
    80 ≤ (machine.afterAll earlier).indexRegister

theorem holdsGlyphs_fresh
    (display : Display)
    (random : RandomTape) :
    (fresh display random).HoldsGlyphs := by
  intro cell inGlyphs
  have isByte :
      (fresh display random).memory.byte cell = glyphs.getD cell 0 :=
    Vector.getElem_ofFn cell.isLt
  rw [isByte, Array.getD_eq_getD_getElem?, Array.getElem?_eq_getElem inGlyphs,
    Option.getD_some]

namespace Bounded

variable {width height : Int} {machine : Machine}

/-- Where an instruction stores among the glyphs, its cycle succeeds. -/
theorem exists_run_of_storesTo
    (bounded : machine.Bounded width height)
    (inside : machine.programCounter < 4095)
    {instruction : Instruction}
    (decoded : Instruction.decode machine.word = .ok instruction)
    {cell : Fin memorySize}
    (stores : instruction.StoresTo machine.indexRegister cell)
    (inGlyphs : (cell : Nat) < glyphs.size) :
    ∃ executed next,
      Action.cycle.run machine = .ok executed next ∧
        (executed.instruction.operation = .ldB ∨
          executed.instruction.operation = .ldMemVx) ∧
        machine.indexRegister < 80 := by
  have size : glyphs.size = 80 := rfl
  have registers : registerCount = 16 := rfl
  have proper := ((Instruction.decode_eq_ok_iff machine.word_lt).mp decoded).1
  obtain ⟨operation, operands⟩ := instruction
  have low :
      (operation = .ldB ∨ operation = .ldMemVx) ∧
        machine.indexRegister < 80 := by
    cases operation
    case ldB =>
      cases proper
      obtain ⟨notBefore, -⟩ := stores
      exact ⟨Or.inl rfl, by omega⟩
    case ldMemVx =>
      cases proper
      obtain ⟨notBefore, -⟩ := stores
      exact ⟨Or.inr rfl, by omega⟩
    all_goals
      cases proper
      exact stores.elim
  rcases Action.outcome_cycle bounded inside decoded with
    ⟨next, ran, -⟩ | ⟨fault, stopped, -, -, obstacle⟩
  · exact ⟨_, next, ran, low⟩
  · -- What these instructions may fail at lies at the other end of memory.
    obtain ⟨isStoring, below⟩ := low
    rcases isStoring with rfl | rfl <;> cases proper <;>
      obtain ⟨beyond, -⟩ := obstacle <;> omega

theorem holdsGlyphs_afterAll
    (bounded : machine.Bounded width height)
    (holds : machine.HoldsGlyphs)
    {moves : List Move}
    (behind : machine.StoresBehindGlyphs moves) :
    (machine.afterAll moves).HoldsGlyphs := by
  intro cell inGlyphs
  have size : glyphs.size = 80 := rfl
  refine (bounded.byte_afterAll fun earlier move isPrefix mayStore => ?_).trans
    (holds cell inGlyphs)
  cases move with
  | load program =>
      obtain ⟨-, notBefore, -⟩ := mayStore
      simp only [programStart] at notBefore
      omega
  | cycle =>
      obtain ⟨inside, instruction, decoded, stores⟩ := mayStore
      obtain ⟨executed, next, ran, storing, low⟩ :=
        (bounded.afterAll earlier).exists_run_of_storesTo inside decoded stores
          inGlyphs
      have notLow := behind earlier executed next isPrefix ran storing
      omega
  | tick | press | release => exact mayStore

end Bounded

/--
With its glyphs whole a machine reads the rows of a digit where its
glyph belongs.
-/
theorem HoldsGlyphs.readSpan_eq
    {machine : Machine}
    (holds : machine.HoldsGlyphs)
    {digit : Nat}
    (isDigit : digit ≤ 15)
    {start : Int}
    (atGlyph : start = glyphStart + digit * glyphSize) :
    machine.memory.readSpan (.between start (start + glyphSize)) =
      .ok (glyph digit) := by
  have size : glyphs.size = 80 := rfl
  have cells : memorySize = 4096 := rfl
  simp only [glyphStart, glyphSize] at atGlyph ⊢
  have startPlace : start.toNat = 5 * digit := by omega
  have count : (start + (5 : Nat) - start).toNat = 5 := by omega
  rw [Memory.readSpan_between _ (by omega) (by omega), glyph, startPlace, count]
  refine congrArg Except.ok (List.ext_getElem ?length ?rows)
  case length =>
    simp only [List.length_take, List.length_drop, Memory.length_toList,
      Array.length_toList, glyphSize]
    omega
  case rows =>
    intro row inMemory inGlyph
    simp only [List.length_take, glyphSize] at inGlyph
    have inGlyphs : 5 * digit + row < glyphs.size := by omega
    simp only [List.getElem_take, List.getElem_drop, Memory.toList,
      Vector.getElem_toList, glyphSize, Array.getElem_toList]
    exact holds ⟨5 * digit + row, by omega⟩ inGlyphs

theorem HoldsGlyphs.of_sameMemory
    {machine other : Machine}
    (holds : machine.HoldsGlyphs)
    (same : other.memory = machine.memory) :
    other.HoldsGlyphs := by
  intro cell inGlyphs
  rw [same]
  exact holds cell inGlyphs

theorem HoldsGlyphs.exists_pointsToGlyph
    {machine : Machine}
    (holds : machine.HoldsGlyphs)
    {x : Fin registerCount}
    (isDigit : (machine.registers.byte x).toNat ≤ 15) :
    ∃ next,
      machine.Executes (0xF029 + 0x100 * x) next ∧
        next.PointsToGlyph (machine.registers.byte x).toNat ∧
        next.memory = machine.memory ∧
        next.registers = machine.registers :=
  ⟨_,
    executes_of_mem .ldF 0xF029 0xF0FF (by decide) (by decide) (.register x)
      rfl (Action.run_ldF machine x),
    holds.readSpan_eq isDigit rfl, rfl, rfl⟩

/-- A machine becomes another one by storing the decimal digits of a register. -/
structure StoresDecimals
    (before : Machine)
    (x : Fin registerCount)
    (after : Machine) : Prop where
  memoryOnly :
    after =
      { before with
        memory := after.memory,
        programCounter := before.programCounter + 2 }
  digits :
    ∀ (place : Nat) (cell : Fin memorySize),
      place ≤ 2 →
      ((cell : Nat) : Int) = before.indexRegister + place →
      (after.memory.byte cell).toNat =
        decimalDigit (before.registers.byte x).toNat place
  before :
    ∀ cell : Fin memorySize,
      ((cell : Nat) : Int) < before.indexRegister →
      after.memory.byte cell = before.memory.byte cell

theorem exists_storesDecimals
    {machine : Machine}
    (lower : 0 ≤ machine.indexRegister)
    (upper : machine.indexRegister ≤ 4093)
    (x : Fin registerCount) :
    ∃ next,
      machine.Executes (0xF033 + 0x100 * x) next ∧
        machine.StoresDecimals x next := by
  have cells : memorySize = 4096 := rfl
  cases digitCells lower with
  | inside hundreds tens units atHundreds atTens atUnits =>
      refine ⟨_,
        executes_of_mem .ldB 0xF033 0xF0FF (by decide) (by decide)
          (.register x) rfl
          (Action.run_ldB machine x atHundreds atTens atUnits),
        rfl, ?digits, ?before⟩
      case digits =>
        intro place cell inDigits atCell
        have small : (machine.registers.byte x).toNat < 256 :=
          (machine.registers.byte x).toNat_lt
        obtain rfl | rfl | rfl : place = 0 ∨ place = 1 ∨ place = 2 := by
          omega
        · obtain rfl : cell = hundreds := Fin.ext (by omega)
          rw [Memory.byte_set_of_ne _ _ (Fin.ne_of_val_ne (by omega)),
            Memory.byte_set_of_ne _ _ (Fin.ne_of_val_ne (by omega))]
          exact Memory.toNat_byte_set_self (by simp only [decimalDigit]; omega)
        · obtain rfl : cell = tens := Fin.ext (by omega)
          rw [Memory.byte_set_of_ne _ _ (Fin.ne_of_val_ne (by omega))]
          exact Memory.toNat_byte_set_self (by simp only [decimalDigit]; omega)
        · obtain rfl : cell = units := Fin.ext (by omega)
          exact Memory.toNat_byte_set_self (by simp only [decimalDigit]; omega)
      case before =>
        intro cell isBefore
        rw [Memory.byte_set_of_ne _ _ (Fin.ne_of_val_ne (by omega)),
          Memory.byte_set_of_ne _ _ (Fin.ne_of_val_ne (by omega)),
          Memory.byte_set_of_ne _ _ (Fin.ne_of_val_ne (by omega))]
  | beforeLast | atLast | behind => omega

/--
The digits of a register come into the first three registers by way of memory.
-/
theorem HoldsGlyphs.exists_loadsDecimals
    {machine : Machine}
    (holds : machine.HoldsGlyphs)
    (lower : 80 ≤ machine.indexRegister)
    (upper : machine.indexRegister ≤ 4093)
    (x : Fin registerCount) :
    ∃ stored loaded,
      machine.Executes (0xF033 + 0x100 * x) stored ∧
        stored.Executes 0xF265 loaded ∧
        loaded.HoldsGlyphs ∧
        ∀ register : Fin registerCount,
          (register : Nat) ≤ 2 →
          (loaded.registers.byte register).toNat =
            decimalDigit (machine.registers.byte x).toNat register := by
  have size : glyphs.size = 80 := rfl
  obtain ⟨stored, executesStore, storesDecimals⟩ :=
    exists_storesDecimals (by omega) upper x
  have sameIndex : stored.indexRegister = machine.indexRegister := by
    rw [storesDecimals.memoryOnly]
  have lowerStored : 0 ≤ stored.indexRegister := by
    omega
  have fits : stored.indexRegister + (2 : Nat) + 1 ≤ 4096 := by
    omega
  let last : Fin registerCount := ⟨2, by decide⟩
  obtain ⟨loaded, executesLoad, loadsBlock⟩ :=
    exists_loadsBlock (x := last) lowerStored fits
  have holdsStored : stored.HoldsGlyphs := by
    intro cell inGlyphs
    rw [storesDecimals.before cell (by omega)]
    exact holds cell inGlyphs
  refine ⟨stored, loaded, executesStore, executesLoad,
    holdsStored.of_sameMemory loadsBlock.memory_eq,
    fun register isDigit => ?_⟩
  have upTo : register ≤ last := isDigit
  obtain ⟨cell, -, atCell⟩ := exists_cell_of_fits lowerStored fits upTo
  rw [loadsBlock.inside register cell upTo atCell,
    storesDecimals.digits register cell isDigit (by rw [← sameIndex, atCell])]

/--
Digits are shown by their glyphs, and numbers by the glyphs of their digits.

The glyphs are found in every state of a machine that never stored over them.
There the decimal digits of a register, whichever it is, go into the first three
registers when they are stored behind the glyphs and loaded back, and each is
found by its glyph, before or after the others.
-/
theorem digits_are_found_by_their_glyphs
    (width height : Int)
    (wide : 1 ≤ width)
    (tall : 1 ≤ height)
    (random : RandomTape)
    (moves : List Move)
    (behind :
      (fresh (Display.blank width height) random).StoresBehindGlyphs moves) :
    let machine := (fresh (Display.blank width height) random).afterAll moves
    (∀ x : Fin registerCount,
      (machine.registers.byte x).toNat ≤ 15 →
      ∃ next,
        machine.Executes (0xF029 + 0x100 * x) next ∧
          next.PointsToGlyph (machine.registers.byte x).toNat) ∧
    (80 ≤ machine.indexRegister →
      machine.indexRegister ≤ 4093 →
      ∀ x : Fin registerCount,
        ∃ stored loaded,
          machine.Executes (0xF033 + 0x100 * x) stored ∧
            stored.Executes 0xF265 loaded ∧
            let digit (place : Fin 3) : Nat :=
              (loaded.registers.byte (place.castLE (by decide))).toNat
            (∀ place, digit place ≤ 9) ∧
              100 * digit 0 + 10 * digit 1 + digit 2 =
                (machine.registers.byte x).toNat ∧
              ∀ (place : Fin 3) (ready : Machine),
                ready.memory = loaded.memory →
                ready.registers = loaded.registers →
                ∃ shown,
                  ready.Executes (0xF029 + 0x100 * place) shown ∧
                    shown.PointsToGlyph (digit place) ∧
                    shown.memory = ready.memory ∧
                    shown.registers = ready.registers) := by
  intro machine
  have bounded : (fresh (Display.blank width height) random).Bounded width
      height :=
    Bounded.fresh wide tall random
  have holds : machine.HoldsGlyphs :=
    bounded.holdsGlyphs_afterAll (holdsGlyphs_fresh _ _) behind
  refine ⟨?single, ?decimals⟩
  case single =>
    intro x isDigit
    obtain ⟨next, executes, points, -⟩ := holds.exists_pointsToGlyph isDigit
    exact ⟨next, executes, points⟩
  case decimals =>
    intro lower upper x
    obtain ⟨stored, loaded, executesStore, executesLoad, holdsLoaded,
      digits⟩ := holds.exists_loadsDecimals lower upper x
    refine ⟨stored, loaded, executesStore, executesLoad, ?_⟩
    intro digit
    have isDecimal (place : Fin 3) :
        digit place =
          decimalDigit (machine.registers.byte x).toNat place :=
      digits _ (Nat.le_of_lt_succ place.isLt)
    have small (place : Fin 3) : digit place ≤ 9 := by
      rw [isDecimal]
      exact Nat.le_of_lt_succ (decimalDigit_lt _ _)
    refine ⟨small, ?sum, ?shown⟩
    case sum =>
      have isByte : (machine.registers.byte x).toNat < 256 :=
        (machine.registers.byte x).toNat_lt
      rw [isDecimal, isDecimal, isDecimal]
      exact sum_decimalDigit (by omega)
    case shown =>
      intro place ready sameMemory sameRegisters
      have isDigit :
          (ready.registers.byte (place.castLE (by decide))).toNat ≤ 15 := by
        rw [sameRegisters]
        exact Nat.le_trans (small place) (by decide)
      obtain ⟨shown, executes, points, kept⟩ :=
        (holdsLoaded.of_sameMemory sameMemory).exists_pointsToGlyph isDigit
      rw [sameRegisters] at points
      exact ⟨shown, executes, points, kept⟩

/-- Zeros are shown in decimals by a program that stores their digits at 0x300. -/
theorem digits_are_found_by_their_glyphs_at_0x300 :
    let start := fresh (Display.blank 64 32) (RandomTape.start [])
    let moves : List Move := [.load [0xA3, 0x00], .cycle]
    (1 : Int) ≤ 64 ∧ (1 : Int) ≤ 32 ∧
      start.StoresBehindGlyphs moves ∧
      ∃ machine,
        start.afterAll moves = machine ∧
          machine.indexRegister = 0x300 ∧
          (∃ next,
            machine.Executes 0xF029 next ∧
              next.PointsToGlyph (machine.registers.byte first).toNat) ∧
          ∃ stored loaded shown,
            machine.Executes 0xF033 stored ∧
              stored.Executes 0xF265 loaded ∧
              loaded.Executes 0xF129 shown ∧
              shown.PointsToGlyph
                (loaded.registers.byte ⟨1, by decide⟩).toNat := by
  intro start moves
  have wide : (1 : Int) ≤ 64 := by decide
  have tall : (1 : Int) ≤ 32 := by decide
  have onlyCycle (earlier : List Move) (isPrefix : earlier ++ [.cycle] <+: moves) :
      earlier = [.load [0xA3, 0x00]] := by
    have length := isPrefix.length_le
    rcases earlier with _ | ⟨move, _ | ⟨second, rest⟩⟩
    · cases (List.cons_prefix_cons.mp isPrefix).1
    · rw [(List.cons_prefix_cons.mp isPrefix).1]
    · simp [moves] at length
  have ran :=
    run_cycle_after_load_ldI start rfl 0xA3 0x00 ⟨0x300, by decide⟩ rfl
  have behind : start.StoresBehindGlyphs moves := by
    intro earlier executed next isPrefix ranToo storing
    rw [onlyCycle earlier isPrefix, afterAll_cons, afterAll_nil, ran] at ranToo
    cases ranToo
    rcases storing with isLdB | isLdMemVx
    · cases isLdB
    · cases isLdMemVx
  obtain ⟨machine, isReached, atIndex, sameRegisters⟩ :
      ∃ machine,
        start.afterAll moves = machine ∧
          machine.indexRegister = 0x300 ∧
          machine.registers = start.registers := by
    have sameRegisters :
        (start.after (.load [0xA3, 0x00])).registers = start.registers := by
      rw [after_load_pair]
    rw [afterAll_cons, afterAll_cons, afterAll_nil]
    generalize start.after (.load [0xA3, 0x00]) = ready at *
    rw [after, ran]
    exact ⟨_, rfl, rfl, sameRegisters⟩
  obtain ⟨single, decimals⟩ :=
    digits_are_found_by_their_glyphs 64 32 wide tall (RandomTape.start [])
      moves behind
  rw [isReached] at single decimals
  have isDigit : (machine.registers.byte first).toNat ≤ 15 := by
    rw [sameRegisters]
    decide
  obtain ⟨stored, loaded, executesStore, executesLoad, -, -, shows⟩ :=
    decimals (by omega) (by omega) first
  obtain ⟨shown, executes, points, -⟩ := shows 1 loaded rfl rfl
  exact ⟨wide, tall, behind, machine, isReached, atIndex, single first isDigit,
    stored, loaded, shown, executesStore, executesLoad, executes, points⟩

end Machine

end ChipEight
