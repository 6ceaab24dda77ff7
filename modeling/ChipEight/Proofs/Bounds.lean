import ChipEight.Machine.Cycle
import ChipEight.Machine.Program
import ChipEight.Proofs.Actions

namespace ChipEight

/-!
# The bounds of a machine

The bounds that a machine keeps to whatever program it runs. They depend on each
other: the addresses on the stack bound the targets of returns, and the program
counter of a word that is fetched bounds what a call puts on the stack. Here
they are shown for a machine just switched on and for what its surroundings do
to it; the instructions follow with what they do.
-/

/-- A keypad on which only its sixteen keys were pressed and let go. -/
structure Keypad.Bounded (keypad : Keypad) : Prop where
  held :
    0 ≤ keypad.held ∧ keypad.held < 0x10000
  lastPressed :
    -1 ≤ keypad.lastPressed ∧ keypad.lastPressed ≤ 15
  pressed :
    keypad.held ≠ 0 →
    0 ≤ keypad.lastPressed

/-- A machine that keeps to its bounds, with a display of the given sides. -/
structure Machine.Bounded
    (width height : Int)
    (machine : Machine) : Prop where
  stack :
    ∀ place : Fin stackCapacity,
      0 ≤ machine.stack.get place ∧ machine.stack.get place ≤ 4094
  stackTop :
    -1 ≤ machine.stackTop ∧ machine.stackTop ≤ 15
  programCounter :
    0 ≤ machine.programCounter ∧ machine.programCounter ≤ 0x10FE
  indexRegister :
    0 ≤ machine.indexRegister
  delayTimer :
    0 ≤ machine.delayTimer ∧ machine.delayTimer ≤ 255
  soundTimer :
    0 ≤ machine.soundTimer ∧ machine.soundTimer ≤ 255
  display :
    machine.display.width = width ∧ machine.display.height = height
  visible :
    1 ≤ width ∧ 1 ≤ height
  keypad :
    machine.keypad.Bounded

namespace Keypad

theorem isHeld_iff
    (keypad : Keypad)
    (key : Nat) :
    keypad.isHeld key ↔ keypad.held / bitOf key % 2 = 1 := by
  rw [isHeld, decide_eq_true_iff, Int.shiftRight_eq_div_pow, bitOf,
    Nat.one_shiftLeft]

theorem bitOf_pos
    (key : Nat) :
    0 < bitOf key := by
  rw [bitOf, Nat.one_shiftLeft]
  exact_mod_cast Nat.two_pow_pos key

/-- An even multiple of the number of a key is what sixteen keys need. -/
theorem bitOf_mul_bitOf :
    ∀ key : Fin 16, bitOf key * (2 * bitOf (15 - key)) = 0x10000 := by
  decide

/-- The number of a key that is held is part of the keys that are. -/
theorem bitOf_le_held
    {keypad : Keypad}
    (lower : 0 ≤ keypad.held)
    {key : Nat}
    (held : keypad.isHeld key) :
    bitOf key ≤ keypad.held := by
  rw [isHeld_iff] at held
  have positive := bitOf_pos key
  have quotient : 1 ≤ keypad.held / bitOf key := by
    have nonnegative := Int.ediv_nonneg lower (Int.le_of_lt positive)
    omega
  rw [Int.le_ediv_iff_mul_le positive, Int.one_mul] at quotient
  exact quotient

/-- The number of a key that is not held has room beside the keys that are. -/
theorem held_add_bitOf_lt
    {keypad : Keypad}
    (upper : keypad.held < 0x10000)
    {key : Fin 16}
    (notHeld : ¬ keypad.isHeld key) :
    keypad.held + bitOf key < 0x10000 := by
  rw [isHeld_iff] at notHeld
  have whole := bitOf_mul_bitOf key
  have positive := bitOf_pos key
  have quotient :
      keypad.held / bitOf key < 2 * bitOf (15 - key) := by
    rw [Int.ediv_lt_iff_lt_mul positive, Int.mul_comm, whole]
    exact upper
  -- The quotient is even, and so is what bounds it.
  have room :
      keypad.held / bitOf key + 1 + 1 ≤ 2 * bitOf (15 - key) := by
    omega
  calc
    keypad.held + bitOf key
        < bitOf key * (keypad.held / bitOf key) + bitOf key + bitOf key :=
          Int.add_lt_add_right (Int.lt_mul_ediv_self_add positive) _
    _ = bitOf key * (keypad.held / bitOf key + 1 + 1) := by
          rw [Int.mul_add, Int.mul_add, Int.mul_one]
    _ ≤ bitOf key * (2 * bitOf (15 - key)) :=
          Int.mul_le_mul_of_nonneg_left room (Int.le_of_lt positive)
    _ = 0x10000 := whole

namespace Bounded

theorem untouched : Keypad.untouched.Bounded where
  held := by
    decide
  lastPressed := by
    decide
  pressed := by
    decide

theorem press
    {keypad : Keypad}
    (bounded : keypad.Bounded)
    (key : Fin 16) :
    (keypad.press key).Bounded where
  held := by
    have positive := bitOf_pos key
    have ⟨lower, upper⟩ := bounded.held
    simp only [Keypad.press]
    split
    · exact ⟨lower, upper⟩
    · next notHeld =>
        exact ⟨by omega, held_add_bitOf_lt upper notHeld⟩
  lastPressed := by
    simp only [Keypad.press]
    omega
  pressed _ := by
    simp only [Keypad.press]
    omega

theorem release
    {keypad : Keypad}
    (bounded : keypad.Bounded)
    (key : Nat) :
    (keypad.release key).Bounded where
  held := by
    have positive := bitOf_pos key
    have ⟨lower, upper⟩ := bounded.held
    simp only [Keypad.release]
    split
    · next held =>
        have part := bitOf_le_held lower held
        exact ⟨by omega, by omega⟩
    · exact ⟨lower, upper⟩
  lastPressed :=
    bounded.lastPressed
  pressed stillHeld := by
    apply bounded.pressed
    -- A keypad with no key held has none that can be let go.
    intro noneHeld
    apply stillHeld
    have positive := bitOf_pos key
    simp only [Keypad.release]
    split
    · next held =>
        have part := bitOf_le_held (Int.le_of_eq noneHeld.symm) held
        omega
    · exact noneHeld

end Bounded

end Keypad

theorem Machine.countDown_bounded
    {timer : Int}
    (bounded : 0 ≤ timer ∧ timer ≤ 255) :
    0 ≤ countDown timer ∧ countDown timer ≤ 255 := by
  rw [countDown]
  split <;> omega

/-- A program for which there is room is written over its span. -/
theorem Action.exists_run_load_of_writeSpan
    {program : List UInt8}
    (fits : program.length ≤ programRoom)
    (machine : Machine) :
    ∃ memory,
      machine.memory.writeSpan (programSpan program.length)
          (program.map fun byte => byte.toNat) =
          .ok memory ∧
        (load program).run machine =
          .ok () { machine with memory := memory } := by
  obtain ⟨memory, stored⟩ :=
    machine.memory.writeSpan_between programStart
      (programStart + program.length) (program.map fun byte => byte.toNat)
      (Int.natCast_nonneg _)
      (by simp only [programRoom, programStart, memorySize] at *; omega)
      (by rw [List.length_map])
  refine ⟨memory, stored, ?_⟩
  have room : ¬ programRoom < program.length := Nat.not_lt.mpr fits
  simp [load, requireRoom, room, programSpan, run_writeBytes stored]

/-- A program for which there is room is loaded. -/
theorem Action.exists_run_load
    {program : List UInt8}
    (fits : program.length ≤ programRoom)
    (machine : Machine) :
    ∃ memory,
      (load program).run machine = .ok () { machine with memory := memory } := by
  obtain ⟨memory, -, ran⟩ := exists_run_load_of_writeSpan fits machine
  exact ⟨memory, ran⟩

/-- A program for which there is no room is refused. -/
theorem Action.run_load_of_tooLong
    {program : List UInt8}
    (tooLong : programRoom < program.length)
    (machine : Machine) :
    (load program).run machine =
      .error (.programTooLong program.length programRoom) machine := by
  simp [load, requireRoom, tooLong]

/-- Loading a program changes nothing but memory, also when it is refused. -/
theorem Action.exists_load
    (program : List UInt8)
    (machine : Machine) :
    ∃ memory,
      machineOf ((load program).run machine) =
        { machine with memory := memory } := by
  by_cases tooLong : programRoom < program.length
  · rw [run_load_of_tooLong tooLong]
    exact ⟨machine.memory, rfl⟩
  · obtain ⟨memory, ran⟩ := exists_run_load (Nat.not_lt.mp tooLong) machine
    rw [ran]
    exact ⟨memory, rfl⟩

theorem Action.run_load_pair
    (machine : Machine)
    (high low : UInt8) :
    (load [high, low]).run machine =
      .ok () { machine with
        memory :=
          (machine.memory.set ⟨0x200, by decide⟩ high.toNat).set
            ⟨0x201, by decide⟩ low.toNat } := by
  have stored :
      machine.memory.writeSpan (programSpan 2) [high.toNat, low.toNat] =
        .ok
          ((machine.memory.set ⟨0x200, by decide⟩ high.toNat).set
            ⟨0x201, by decide⟩ low.toNat) :=
    rfl
  have room : ¬ programRoom < 2 := by decide
  simp [load, requireRoom, room, run_writeBytes stored]

namespace Machine.Bounded

theorem fresh
    {width height : Int}
    (wide : 1 ≤ width)
    (tall : 1 ≤ height)
    (random : RandomTape) :
    (Machine.fresh (Display.blank width height) random).Bounded
      width height where
  stack place := by
    have zero : (Vector.replicate stackCapacity (0 : Int)).get place = 0 :=
      Vector.getElem_replicate place.isLt
    simp [Machine.fresh, zero]
  stackTop := by
    simp [Machine.fresh]
  programCounter := by
    simp [Machine.fresh, programStart]
  indexRegister :=
    Int.le_refl 0
  delayTimer := by
    simp [Machine.fresh]
  soundTimer := by
    simp [Machine.fresh]
  display :=
    ⟨rfl, rfl⟩
  visible :=
    ⟨wide, tall⟩
  keypad :=
    Keypad.Bounded.untouched

variable {width height : Int} {machine : Machine}

/-- The stack is empty or has a place on top. -/
theorem empty_or_top
    (bounded : machine.Bounded width height) :
    machine.stackTop = -1 ∨
      ∃ place : Fin stackCapacity, machine.stackTop = (place : Nat) := by
  have ⟨lower, upper⟩ := bounded.stackTop
  by_cases empty : machine.stackTop = -1
  · exact Or.inl empty
  · obtain ⟨place, atPlace⟩ :=
      Int.eq_ofNat_of_zero_le (by omega : 0 ≤ machine.stackTop)
    refine Or.inr ⟨⟨place, ?_⟩, atPlace⟩
    simp only [stackCapacity]
    omega

/-- The stack is full or has a place that is free next. -/
theorem full_or_free
    (bounded : machine.Bounded width height) :
    machine.stackTop = 15 ∨
      ∃ place : Fin stackCapacity, machine.stackTop + 1 = (place : Nat) := by
  have ⟨lower, upper⟩ := bounded.stackTop
  by_cases full : machine.stackTop = 15
  · exact Or.inl full
  · obtain ⟨place, atPlace⟩ :=
      Int.eq_ofNat_of_zero_le (by omega : 0 ≤ machine.stackTop + 1)
    refine Or.inr ⟨⟨place, ?_⟩, atPlace⟩
    simp only [stackCapacity]
    omega

/-- Whether the machine drew is forgotten without touching any bound. -/
theorem settled
    (bounded : machine.Bounded width height) :
    Bounded width height { machine with displayChanged := false } :=
  { bounded with }

theorem load
    (bounded : machine.Bounded width height)
    (program : List UInt8) :
    (machineOf ((Action.load program).run machine)).Bounded
      width height := by
  obtain ⟨memory, loaded⟩ := Action.exists_load program machine
  rw [loaded]
  exact { bounded with }

theorem countDownTimers
    (bounded : machine.Bounded width height) :
    machine.countDownTimers.Bounded width height :=
  { bounded with
    delayTimer := countDown_bounded bounded.delayTimer,
    soundTimer := countDown_bounded bounded.soundTimer }

theorem withKeypad
    (bounded : machine.Bounded width height)
    {keypad : Keypad}
    (keypadBounded : keypad.Bounded) :
    Bounded width height { machine with keypad := keypad } :=
  { bounded with keypad := keypadBounded }

end Machine.Bounded

end ChipEight
