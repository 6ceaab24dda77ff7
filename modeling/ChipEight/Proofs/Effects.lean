import ChipEight.Machine.Effect
import ChipEight.Proofs.Drawing

namespace ChipEight.Action

/-!
# What every instruction does to a machine

For each operation the run of its effect is given as a machine in which the
changed parts are spelled out; what is not spelled out stays. Operands are
registers in place, as decoding finds them. Only returning, calling, storing
digits and moving blocks of registers depend on the state for their success,
and the run of their failures is given beside that of their success.
-/

-- Every run below unfolds the one branch of its operation.
attribute [local simp] execute

/-! Going to an address, calling and returning. -/

section Moving

variable (machine : Machine)

@[simp] theorem run_sys
    (nnn : Int) :
    (execute .sys (.address nnn)).run machine =
      .ok () { machine with programCounter := machine.programCounter + 2 } :=
  rfl

@[simp] theorem run_jp
    (nnn : Int) :
    (execute .jp (.address nnn)).run machine =
      .ok () { machine with programCounter := nnn } :=
  rfl

@[simp] theorem run_jpV0
    (nnn : Int) :
    (execute .jpV0 (.address nnn)).run machine =
      .ok () { machine with
        programCounter := nnn + (machine.registers.byte first).toNat } := by
  have read :
      (readRegister 0).run machine =
        .ok (machine.registers.byte first) machine :=
    run_readRegister first machine
  simp [read]

theorem run_ret
    {place : Fin stackCapacity}
    (top : machine.stackTop = (place : Nat)) :
    (execute .ret .bare).run machine =
      .ok () { machine with
        programCounter := machine.stack.get place,
        stackTop := (place : Nat) - 1 } := by
  have notEmpty : ¬ ((place : Nat) : Int) < 0 := by omega
  simp [top, notEmpty]

/-- A return with no open call fails. -/
theorem run_ret_of_empty
    (empty : machine.stackTop < 0) :
    (execute .ret .bare).run machine = .error .noOpenCall machine := by
  simp [empty]

theorem run_call
    (nnn : Int)
    {place : Fin stackCapacity}
    (room : machine.stackTop + 1 = (place : Nat)) :
    (execute .call (.address nnn)).run machine =
      .ok () { machine with
        stack := machine.stack.set place machine.programCounter place.isLt,
        stackTop := (place : Nat),
        programCounter := nnn } := by
  have notFull : ¬ stackCapacity ≤ (place : Nat) := by omega
  simp [room, notFull]

/-- A call with no place left on the stack fails. -/
theorem run_call_of_full
    (nnn : Int)
    (full : (stackCapacity : Int) ≤ machine.stackTop + 1) :
    (execute .call (.address nnn)).run machine =
      .error (.stackFull stackCapacity) machine := by
  simp [full]

end Moving

/-! Skipping an instruction. -/

section Skipping

variable (machine : Machine) (x y : Fin registerCount)

@[simp] theorem run_se
    (kk : Int) :
    (execute .se (.registerValue (x : Nat) kk)).run machine =
      .ok () { machine with
        programCounter := machine.programCounter +
          if ((machine.registers.byte x).toNat : Int) = kk then 4 else 2 } := by
  simp

@[simp] theorem run_sne
    (kk : Int) :
    (execute .sne (.registerValue (x : Nat) kk)).run machine =
      .ok () { machine with
        programCounter := machine.programCounter +
          if ((machine.registers.byte x).toNat : Int) ≠ kk then 4 else 2 } := by
  simp

@[simp] theorem run_seReg :
    (execute .seReg (.registerPair (x : Nat) (y : Nat))).run machine =
      .ok () { machine with
        programCounter := machine.programCounter +
          if machine.registers.byte x = machine.registers.byte y then
            4
          else
            2 } := by
  simp

@[simp] theorem run_sneReg :
    (execute .sneReg (.registerPair (x : Nat) (y : Nat))).run machine =
      .ok () { machine with
        programCounter := machine.programCounter +
          if machine.registers.byte x ≠ machine.registers.byte y then
            4
          else
            2 } := by
  simp

@[simp] theorem run_skp :
    (execute .skp (.register (x : Nat))).run machine =
      .ok () { machine with
        programCounter := machine.programCounter +
          if machine.keypad.isHeld (machine.registers.byte x).toNat then
            4
          else
            2 } := by
  simp

@[simp] theorem run_sknp :
    (execute .sknp (.register (x : Nat))).run machine =
      .ok () { machine with
        programCounter := machine.programCounter +
          if machine.keypad.isHeld (machine.registers.byte x).toNat then
            2
          else
            4 } := by
  cases held : machine.keypad.isHeld (machine.registers.byte x).toNat <;>
    simp_all

end Skipping

/-! Loading registers. The arithmetic with a flag ends in `writeFlagged`. -/

section Loading

variable (machine : Machine) (x y : Fin registerCount)

@[simp] theorem run_ld
    (kk : Int) :
    (execute .ld (.registerValue (x : Nat) kk)).run machine =
      .ok () { machine with
        registers := machine.registers.set x kk,
        programCounter := machine.programCounter + 2 } := by
  simp

@[simp] theorem run_add
    (kk : Int) :
    (execute .add (.registerValue (x : Nat) kk)).run machine =
      .ok () { machine with
        registers :=
          machine.registers.set x ((machine.registers.byte x).toNat + kk),
        programCounter := machine.programCounter + 2 } := by
  simp

@[simp] theorem run_ldReg :
    (execute .ldReg (.registerPair (x : Nat) (y : Nat))).run machine =
      .ok () { machine with
        registers := machine.registers.set x (machine.registers.byte y).toNat,
        programCounter := machine.programCounter + 2 } := by
  simp

@[simp] theorem run_combine
    (operation : UInt8 → UInt8 → UInt8) :
    (combine (x : Nat) (y : Nat) operation).run machine =
      .ok () { machine with
        registers :=
          machine.registers.set x
            (operation (machine.registers.byte x)
              (machine.registers.byte y)).toNat,
        programCounter := machine.programCounter + 2 } := by
  simp [combine]

/-- A flag and then a value are loaded, so the value stays where both go. -/
@[simp] theorem run_writeFlagged
    (raised : Bool)
    (value : Int) :
    (writeFlagged (x : Nat) raised value).run machine =
      .ok () { machine with
        registers := (machine.registers.set flag raised.toNat).set x value,
        programCounter := machine.programCounter + 2 } := by
  simp [writeFlagged]

@[simp] theorem run_rnd
    (kk : Int) :
    (execute .rnd (.registerValue (x : Nat) kk)).run machine =
      .ok () { machine with
        registers :=
          machine.registers.set x
            (UInt8.ofInt machine.random.head &&& UInt8.ofInt kk).toNat,
        random := machine.random.advanced,
        programCounter := machine.programCounter + 2 } := by
  simp

@[simp] theorem run_ldVxDt :
    (execute .ldVxDt (.register (x : Nat))).run machine =
      .ok () { machine with
        registers := machine.registers.set x machine.delayTimer,
        programCounter := machine.programCounter + 2 } := by
  simp

/-- The key pressed last is loaded while a key is held; else nothing happens. -/
@[simp] theorem run_ldVxK :
    (execute .ldVxK (.register (x : Nat))).run machine =
      .ok ()
        (if machine.keypad.anyHeld then
          { machine with
            registers := machine.registers.set x machine.keypad.lastPressed,
            programCounter := machine.programCounter + 2 }
        else
          machine) := by
  cases held : machine.keypad.anyHeld <;> simp [held]

@[simp] theorem run_or :
    (execute .or (.registerPair (x : Nat) (y : Nat))).run machine =
      .ok () { machine with
        registers :=
          machine.registers.set x
            (machine.registers.byte x ||| machine.registers.byte y).toNat,
        programCounter := machine.programCounter + 2 } :=
  run_combine machine x y (· ||| ·)

@[simp] theorem run_and :
    (execute .and (.registerPair (x : Nat) (y : Nat))).run machine =
      .ok () { machine with
        registers :=
          machine.registers.set x
            (machine.registers.byte x &&& machine.registers.byte y).toNat,
        programCounter := machine.programCounter + 2 } :=
  run_combine machine x y (· &&& ·)

@[simp] theorem run_xor :
    (execute .xor (.registerPair (x : Nat) (y : Nat))).run machine =
      .ok () { machine with
        registers :=
          machine.registers.set x
            (machine.registers.byte x ^^^ machine.registers.byte y).toNat,
        programCounter := machine.programCounter + 2 } :=
  run_combine machine x y (· ^^^ ·)

@[simp] theorem run_addReg :
    (execute .addReg (.registerPair (x : Nat) (y : Nat))).run machine =
      (writeFlagged (x : Nat)
        (255 < (machine.registers.byte x).toNat +
          (machine.registers.byte y).toNat)
        ((machine.registers.byte x).toNat +
          (machine.registers.byte y).toNat)).run machine := by
  simp

@[simp] theorem run_sub :
    (execute .sub (.registerPair (x : Nat) (y : Nat))).run machine =
      (writeFlagged (x : Nat)
        (machine.registers.byte y < machine.registers.byte x)
        ((machine.registers.byte x).toNat -
          (machine.registers.byte y).toNat)).run machine := by
  simp

@[simp] theorem run_shr
    (y : Int) :
    (execute .shr (.registerPair (x : Nat) y)).run machine =
      (writeFlagged (x : Nat)
        ((machine.registers.byte x).toNat % 2 = 1)
        ((machine.registers.byte x).toNat / 2)).run machine := by
  simp

@[simp] theorem run_subn :
    (execute .subn (.registerPair (x : Nat) (y : Nat))).run machine =
      (writeFlagged (x : Nat)
        (machine.registers.byte x < machine.registers.byte y)
        ((machine.registers.byte y).toNat -
          (machine.registers.byte x).toNat)).run machine := by
  simp

@[simp] theorem run_shl
    (y : Int) :
    (execute .shl (.registerPair (x : Nat) y)).run machine =
      (writeFlagged (x : Nat)
        (128 ≤ (machine.registers.byte x).toNat)
        (2 * (machine.registers.byte x).toNat)).run machine := by
  simp

end Loading

/-! Setting the timers and the index register. -/

section Setting

variable (machine : Machine) (x : Fin registerCount)

@[simp] theorem run_ldDtVx :
    (execute .ldDtVx (.register (x : Nat))).run machine =
      .ok () { machine with
        delayTimer := (machine.registers.byte x).toNat,
        programCounter := machine.programCounter + 2 } := by
  simp

@[simp] theorem run_ldStVx :
    (execute .ldStVx (.register (x : Nat))).run machine =
      .ok () { machine with
        soundTimer := (machine.registers.byte x).toNat,
        programCounter := machine.programCounter + 2 } := by
  simp

@[simp] theorem run_ldI
    (nnn : Int) :
    (execute .ldI (.address nnn)).run machine =
      .ok () { machine with
        indexRegister := nnn,
        programCounter := machine.programCounter + 2 } :=
  rfl

@[simp] theorem run_addI :
    (execute .addI (.register (x : Nat))).run machine =
      .ok () { machine with
        indexRegister :=
          machine.indexRegister + (machine.registers.byte x).toNat,
        programCounter := machine.programCounter + 2 } := by
  simp

@[simp] theorem run_ldF :
    (execute .ldF (.register (x : Nat))).run machine =
      .ok () { machine with
        indexRegister :=
          glyphStart + (machine.registers.byte x).toNat * glyphSize,
        programCounter := machine.programCounter + 2 } := by
  simp

end Setting

/--
The bytes from the index register on, as many as there are of those asked for.
-/
def indexedBytes
    (machine : Machine)
    (count : Nat) :
    List Int :=
  ((machine.memory.toList.drop machine.indexRegister.toNat).take count).map
    fun byte => byte.toNat

/-- The bytes from the index register on are counted up to the end of memory. -/
theorem length_indexedBytes
    (machine : Machine)
    (count : Nat) :
    (indexedBytes machine count).length =
      min count (memorySize - machine.indexRegister.toNat) := by
  simp only [indexedBytes, List.length_map, List.length_take,
    List.length_drop, Memory.length_toList]

theorem getElem_indexedBytes
    {machine : Machine}
    (lower : 0 ≤ machine.indexRegister)
    {count place : Nat}
    (inside : place < (indexedBytes machine count).length)
    {cell : Fin memorySize}
    (atCell : ((cell : Nat) : Int) = machine.indexRegister + place) :
    (indexedBytes machine count)[place] =
      (machine.memory.byte cell).toNat := by
  have samePlace : machine.indexRegister.toNat + place = cell := by
    omega
  simp only [indexedBytes, List.getElem_map, List.getElem_take,
    List.getElem_drop, Memory.toList, Vector.getElem_toList, samePlace]
  rfl

theorem run_readBytes_indexed
    {machine : Machine}
    (lower : 0 ≤ machine.indexRegister)
    {stop : Int}
    {count : Nat}
    (length : stop = machine.indexRegister + count) :
    (readBytes (.between machine.indexRegister stop)).run machine =
      .ok
        ((machine.memory.toList.drop machine.indexRegister.toNat).take count)
        machine := by
  have counted : (stop - machine.indexRegister).toNat = count := by omega
  rw [run_readBytes lower (by omega), counted]

/-! Showing pictures. -/

section Showing

variable (machine : Machine) (x y : Fin registerCount)

@[simp] theorem run_cls :
    (execute .cls .bare).run machine =
      .ok () { machine with
        display := machine.display.cleared,
        displayChanged := true,
        programCounter := machine.programCounter + 2 } :=
  rfl

/-- A sprite is drawn at two registers, with the collision in the flag. -/
theorem run_drw
    (n : Nat)
    (lower : 0 ≤ machine.indexRegister)
    {drawn : Display}
    {erased : Bool}
    (drawing :
      machine.display.draw (indexedBytes machine n)
          (machine.registers.byte x).toNat (machine.registers.byte y).toNat =
        .ok (drawn, erased)) :
    (execute .drw (.sprite (x : Nat) (y : Nat) n)).run machine =
      .ok () { machine with
        display := drawn,
        registers := machine.registers.set flag erased.toNat,
        displayChanged := true,
        programCounter := machine.programCounter + 2 } := by
  have rows := run_readBytes_indexed lower
    (rfl : machine.indexRegister + n = machine.indexRegister + n)
  have drawn := run_draw drawing
  simp only [indexedBytes, List.map_take, List.map_drop] at drawn
  simp [rows, drawn]

end Showing

/-! Storing and loading memory. -/

section Storing

variable (machine : Machine) (x : Fin registerCount)

/-- The digits of a register are stored in three cells. -/
theorem run_ldB
    {hundreds tens units : Fin memorySize}
    (atHundreds : machine.indexRegister = (hundreds : Nat))
    (atTens : machine.indexRegister + 1 = (tens : Nat))
    (atUnits : machine.indexRegister + 2 = (units : Nat)) :
    (execute .ldB (.register (x : Nat))).run machine =
      .ok () { machine with
        memory :=
          ((machine.memory.set hundreds
            ((machine.registers.byte x).toNat / 100)).set tens
              ((machine.registers.byte x).toNat / 10 % 10)).set units
                ((machine.registers.byte x).toNat % 10),
        programCounter := machine.programCounter + 2 } := by
  rw [atHundreds] at atTens atUnits
  simp [atHundreds, atTens, atUnits]

theorem run_ldB_of_size_le
    (behind : memorySize ≤ machine.indexRegister) :
    (execute .ldB (.register (x : Nat))).run machine =
      .error (Cells.beyond machine.indexRegister .noSuchCell) machine := by
  have refused :=
    run_writeByte_of_size_le
      ((machine.registers.byte x).toNat / 100) behind machine
  simp [refused]

/-- At the last cell only the first digit is stored. -/
theorem run_ldB_at_last
    {hundreds : Fin memorySize}
    (atHundreds : machine.indexRegister = (hundreds : Nat))
    (last : machine.indexRegister + 1 = memorySize) :
    (execute .ldB (.register (x : Nat))).run machine =
      .error .noSuchCell { machine with
        memory :=
          machine.memory.set hundreds
            ((machine.registers.byte x).toNat / 100) } := by
  have refused (value : Int) (machine : Machine) :
      (writeByte memorySize value).run machine = .error .noSuchCell machine :=
    run_writeByte_of_size_le value (Int.le_refl _) machine
  rw [atHundreds] at last
  simp [atHundreds, last, refused]

/-- At the last cell but one only two digits are stored. -/
theorem run_ldB_before_last
    {hundreds tens : Fin memorySize}
    (atHundreds : machine.indexRegister = (hundreds : Nat))
    (atTens : machine.indexRegister + 1 = (tens : Nat))
    (last : machine.indexRegister + 2 = memorySize) :
    (execute .ldB (.register (x : Nat))).run machine =
      .error .noSuchCell { machine with
        memory :=
          (machine.memory.set hundreds
            ((machine.registers.byte x).toNat / 100)).set tens
              ((machine.registers.byte x).toNat / 10 % 10) } := by
  have refused (value : Int) (machine : Machine) :
      (writeByte memorySize value).run machine = .error .noSuchCell machine :=
    run_writeByte_of_size_le value (Int.le_refl _) machine
  rw [atHundreds] at atTens last
  simp [atHundreds, atTens, last, refused]

/-- The first registers, as numbers. -/
def firstRegisters
    (count : Nat) :
    List Int :=
  (machine.registers.toList.take count).map fun value => value.toNat

theorem length_firstRegisters
    (x : Fin registerCount) :
    (firstRegisters machine (x + 1)).length = (x : Nat) + 1 := by
  simp only [firstRegisters, List.length_map, List.length_take,
    Memory.length_toList]
  omega

theorem getElem_firstRegisters
    {count : Nat}
    {register : Fin registerCount}
    (inside : (register : Nat) < (firstRegisters machine count).length) :
    (firstRegisters machine count)[(register : Nat)] =
      (machine.registers.byte register).toNat := by
  simp only [firstRegisters, List.getElem_map, List.getElem_take,
    Memory.toList, Vector.getElem_toList]
  rfl

theorem run_readRegisters_first
    (x : Fin registerCount) :
    (readRegisters (.before ((x : Nat) + 1))).run machine =
      .ok (machine.registers.toList.take (x + 1)) machine := by
  have counted : (((x : Nat) : Int) + 1).toNat = x + 1 := by omega
  rw [run_readRegisters (by omega), counted]

theorem run_ldMemVx
    {written : Memory memorySize}
    (accepted :
      machine.memory.writeSpan
          (.between machine.indexRegister (machine.indexRegister + x + 1))
          (firstRegisters machine (x + 1)) =
        .ok written) :
    (execute .ldMemVx (.register (x : Nat))).run machine =
      .ok () { machine with
        memory := written,
        programCounter := machine.programCounter + 2 } := by
  have values := run_readRegisters_first machine x
  have stored := run_writeBytes accepted
  simp only [firstRegisters, List.map_take] at stored
  simp [values, stored]

/-- Where memory refuses the first registers, nothing is stored. -/
theorem run_ldMemVx_error
    {fault : Fault}
    (refused :
      machine.memory.writeSpan
          (.between machine.indexRegister (machine.indexRegister + x + 1))
          (firstRegisters machine (x + 1)) =
        .error fault) :
    (execute .ldMemVx (.register (x : Nat))).run machine =
      .error fault machine := by
  have values := run_readRegisters_first machine x
  have notStored := run_writeBytes_error refused
  simp only [firstRegisters, List.map_take] at notStored
  simp [values, notStored]

theorem run_ldVxMem
    (lower : 0 ≤ machine.indexRegister)
    {written : Memory registerCount}
    (accepted :
      machine.registers.writeSpan (.before ((x : Nat) + 1))
          (indexedBytes machine (x + 1)) =
        .ok written) :
    (execute .ldVxMem (.register (x : Nat))).run machine =
      .ok () { machine with
        registers := written,
        programCounter := machine.programCounter + 2 } := by
  have values := run_readBytes_indexed lower
    (by omega : machine.indexRegister + x + 1 =
      machine.indexRegister + ((x : Nat) + 1 : Nat))
  have loaded := run_writeRegisters accepted
  simp only [indexedBytes, List.map_take, List.map_drop] at loaded
  simp [values, loaded]

/-- Where the registers refuse the bytes found, nothing is loaded. -/
theorem run_ldVxMem_error
    (lower : 0 ≤ machine.indexRegister)
    {fault : Fault}
    (refused :
      machine.registers.writeSpan (.before ((x : Nat) + 1))
          (indexedBytes machine (x + 1)) =
        .error fault) :
    (execute .ldVxMem (.register (x : Nat))).run machine =
      .error fault machine := by
  have values := run_readBytes_indexed lower
    (by omega : machine.indexRegister + x + 1 =
      machine.indexRegister + ((x : Nat) + 1 : Nat))
  have notLoaded := run_writeRegisters_error refused
  simp only [indexedBytes, List.map_take, List.map_drop] at notLoaded
  simp [values, notLoaded]

end Storing

end ChipEight.Action
