import ChipEight.Machine.State
import ChipEight.Proofs.CellAccess

namespace ChipEight

/-!
# How the actions of the machine run

Every action that the effects of the instructions are made of is run on a
machine: what it answers, and the machine that it leaves. Registers and places
of the stack are given as such, so that the actions on them cannot fail.
-/

/-- The machine that a run leaves, whether or not it ended in a fault. -/
def machineOf
    {α : Type} :
    EStateM.Result Fault Machine α →
    Machine
  | .ok _ machine => machine
  | .error _ machine => machine

/-- The flag register as one of the registers. -/
def flag : Fin registerCount :=
  ⟨flagRegister, by decide⟩

/-- The first register as one of the registers. -/
def first : Fin registerCount :=
  ⟨0, by decide⟩

theorem get_set_place
    (stack : Vector Int stackCapacity)
    (place : Fin stackCapacity)
    (address : Int)
    (other : Fin stackCapacity) :
    (stack.set place address place.isLt).get other =
      if place = other then address else stack.get other := by
  simp only [Fin.ext_iff]
  exact Vector.getElem_set place.isLt other.isLt

namespace Action

@[simp] theorem run_attempt_ok
    {α : Type}
    (value : α)
    (machine : Machine) :
    (attempt (.ok value)).run machine = .ok value machine :=
  rfl

@[simp] theorem run_attempt_error
    {α : Type}
    (fault : Fault)
    (machine : Machine) :
    (attempt (.error fault) : Action α).run machine = .error fault machine :=
  rfl

@[simp] theorem run_readRegister
    (x : Fin registerCount)
    (machine : Machine) :
    (readRegister (x : Nat)).run machine =
      .ok (machine.registers.byte x) machine := by
  simp [readRegister, Memory.read_val]

@[simp] theorem run_writeRegister
    (x : Fin registerCount)
    (value : Int)
    (machine : Machine) :
    (writeRegister (x : Nat) value).run machine =
      .ok () { machine with registers := machine.registers.set x value } := by
  simp [writeRegister, Memory.write_val]

@[simp] theorem run_writeFlag
    (raised : Bool)
    (machine : Machine) :
    (writeFlag raised).run machine =
      .ok () { machine with
        registers := machine.registers.set flag raised.toNat } :=
  run_writeRegister flag raised.toNat machine

@[simp] theorem run_readByte
    (cell : Fin memorySize)
    (machine : Machine) :
    (readByte (cell : Nat)).run machine =
      .ok (machine.memory.byte cell) machine := by
  simp [readByte, Memory.read_val]

theorem run_readByte_of_size_le
    {address : Int}
    (behind : memorySize ≤ address)
    (machine : Machine) :
    (readByte address).run machine =
      .error (Cells.beyond address .noSuchCell) machine := by
  simp [readByte, Memory.read_of_size_le _ behind]

@[simp] theorem run_writeByte
    (cell : Fin memorySize)
    (value : Int)
    (machine : Machine) :
    (writeByte (cell : Nat) value).run machine =
      .ok () { machine with memory := machine.memory.set cell value } := by
  simp [writeByte, Memory.write_val]

theorem run_writeByte_of_size_le
    {address : Int}
    (value : Int)
    (behind : memorySize ≤ address)
    (machine : Machine) :
    (writeByte address value).run machine =
      .error (Cells.beyond address .noSuchCell) machine := by
  simp [writeByte, Memory.write_of_size_le _ value behind]

/-- The bytes between two addresses are read, as far as there are any. -/
theorem run_readBytes
    {start stop : Int}
    (lower : 0 ≤ start)
    (ordered : start ≤ stop)
    (machine : Machine) :
    (readBytes (.between start stop)).run machine =
      .ok ((machine.memory.toList.drop start.toNat).take (stop - start).toNat)
        machine := by
  simp [readBytes, Memory.readSpan_between _ lower ordered]

theorem run_readRegisters
    {stop : Int}
    (lower : 0 ≤ stop)
    (machine : Machine) :
    (readRegisters (.before stop)).run machine =
      .ok (machine.registers.toList.take stop.toNat) machine := by
  simp [readRegisters, Memory.readSpan_before,
    Memory.readSpan_between _ (Int.le_refl 0) lower]

theorem run_writeBytes
    {span : Cells.Span}
    {values : List Int}
    {machine : Machine}
    {written : Memory memorySize}
    (accepted : machine.memory.writeSpan span values = .ok written) :
    (writeBytes span values).run machine =
      .ok () { machine with memory := written } := by
  simp [writeBytes, accepted]

/-- Values are refused by the cells that a span selects. -/
theorem run_writeBytes_error
    {span : Cells.Span}
    {values : List Int}
    {machine : Machine}
    {fault : Fault}
    (refused : machine.memory.writeSpan span values = .error fault) :
    (writeBytes span values).run machine = .error fault machine := by
  simp [writeBytes, refused]

theorem run_writeRegisters
    {span : Cells.Span}
    {values : List Int}
    {machine : Machine}
    {written : Memory registerCount}
    (accepted : machine.registers.writeSpan span values = .ok written) :
    (writeRegisters span values).run machine =
      .ok () { machine with registers := written } := by
  simp [writeRegisters, accepted]

theorem run_writeRegisters_error
    {span : Cells.Span}
    {values : List Int}
    {machine : Machine}
    {fault : Fault}
    (refused : machine.registers.writeSpan span values = .error fault) :
    (writeRegisters span values).run machine = .error fault machine := by
  simp [writeRegisters, refused]

theorem stackCapacity_lt_wordLimit : stackCapacity < wordLimit := by
  decide

@[simp] theorem run_readStack
    (place : Fin stackCapacity)
    (machine : Machine) :
    (readStack (place : Nat)).run machine =
      .ok (machine.stack.get place) machine := by
  simp [-bind_pure_comp, readStack,
    Cells.locate_val stackCapacity_lt_wordLimit]
  rfl

@[simp] theorem run_writeStack
    (place : Fin stackCapacity)
    (address : Int)
    (machine : Machine) :
    (writeStack (place : Nat) address).run machine =
      .ok () { machine with
        stack := machine.stack.set place address place.isLt } := by
  simp [writeStack, Cells.locate_val stackCapacity_lt_wordLimit]

theorem run_draw
    {sprite : List Int}
    {x y : Int}
    {machine : Machine}
    {drawn : Display}
    {erased : Bool}
    (succeeded : machine.display.draw sprite x y = .ok (drawn, erased)) :
    (draw sprite x y).run machine =
      .ok erased { machine with display := drawn } := by
  simp [-bind_pure_comp, draw, succeeded]

@[simp] theorem run_takeRandom
    (machine : Machine) :
    takeRandom.run machine =
      .ok machine.random.head
        { machine with random := machine.random.advanced } :=
  rfl

@[simp] theorem run_advance
    (machine : Machine) :
    advance.run machine =
      .ok () { machine with programCounter := machine.programCounter + 2 } :=
  rfl

/-- Skipping goes on by two instructions instead of one. -/
@[simp] theorem run_skipWhen
    (condition : Bool)
    (machine : Machine) :
    (skipWhen condition).run machine =
      .ok () { machine with
        programCounter :=
          machine.programCounter + if condition then 4 else 2 } := by
  cases condition with
  | false => simp [skipWhen]
  | true => simp [skipWhen, Int.add_assoc]

@[simp] theorem run_goTo
    (address : Int)
    (machine : Machine) :
    (goTo address).run machine =
      .ok () { machine with programCounter := address } :=
  rfl

end Action

end ChipEight
