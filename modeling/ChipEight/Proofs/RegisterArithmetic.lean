import ChipEight.Proofs.Histories
import ChipEight.Proofs.Opcodes

namespace ChipEight

/-!
# Arithmetic on registers

Eleven instructions load a register with what they compute from a number or from
two registers. Six of them leave the flag register alone, unless they load it.
The others first put a flag there and then load their value, both computed from
the registers before; so a value that goes to the flag register takes the place
of the flag.
-/

/-- A register is loaded with a value and no other one is changed. -/
structure Memory.Loaded
    (before after : Memory registerCount)
    (x : Fin registerCount)
    (value : Int) : Prop where
  value :
    ((after.byte x).toNat : Int) = value
  others :
    ∀ other,
      other ≠ x →
      after.byte other = before.byte other

/--
A register is loaded with a value, and the flag register with a flag if
it is another one.
-/
structure Memory.LoadedWithFlag
    (before after : Memory registerCount)
    (x : Fin registerCount)
    (value : Int)
    (raised : Bool) : Prop where
  value :
    ((after.byte x).toNat : Int) = value
  raises :
    x ≠ flag →
    (after.byte flag).toNat = if raised then 1 else 0
  others :
    ∀ other,
      other ≠ x →
      other ≠ flag →
      after.byte other = before.byte other

namespace Memory

theorem loaded_set
    (before : Memory registerCount)
    (x : Fin registerCount)
    (value : Int) :
    before.Loaded (before.set x value) x (value % 256) where
  value :=
    byte_set_self before x value
  others _ other :=
    byte_set_of_ne before value other

/--
A value that is loaded behind a flag spares the flag only in another register.
-/
theorem loadedWithFlag_set
    (before : Memory registerCount)
    (x : Fin registerCount)
    (value : Int)
    (raised : Bool) :
    before.LoadedWithFlag
      ((before.set flag raised.toNat).set x value) x (value % 256)
      raised where
  value :=
    byte_set_self _ x value
  raises elsewhere := by
    have flagged := byte_set_self before flag raised.toNat
    rw [byte_set_of_ne _ value elsewhere.symm]
    cases raised <;> exact_mod_cast flagged
  others _ other notFlag := by
    rw [byte_set_of_ne _ value other, byte_set_of_ne _ _ notFlag]

end Memory

namespace Machine

/--
The machine with new registers, behind the instruction that put them in place.
-/
def withRegisters
    (machine : Machine)
    (registers : Memory registerCount) :
    Machine :=
  { machine with
    registers := registers,
    programCounter := machine.programCounter + 2 }

/-- An opcode that loads a register and leaves all others alone. -/
def Computes
    (machine : Machine)
    (opcode : Nat)
    (x : Fin registerCount)
    (value : Int) :
    Prop :=
  ∃ registers,
    machine.Executes opcode (machine.withRegisters registers) ∧
      machine.registers.Loaded registers x value

/-- An opcode that loads a register and raises or lowers the flag. -/
def ComputesWithFlag
    (machine : Machine)
    (opcode : Nat)
    (x : Fin registerCount)
    (value : Int)
    (raised : Bool) :
    Prop :=
  ∃ registers,
    machine.Executes opcode (machine.withRegisters registers) ∧
      machine.registers.LoadedWithFlag registers x value raised

variable {machine : Machine}

/-- Beside the flag register an opcode leaves both the value and the flag. -/
theorem ComputesWithFlag.of_executes
    {opcode : Nat}
    {x : Fin registerCount}
    {value : Int}
    {raised : Prop}
    [Decidable raised]
    (computes : machine.ComputesWithFlag opcode x value raised)
    (notFlag : x ≠ flag)
    {next : Machine}
    (executes : machine.Executes opcode next) :
    ((next.registers.byte x).toNat : Int) = value ∧
      (raised ∧ (next.registers.byte flag).toNat = 1 ∨
        ¬ raised ∧ (next.registers.byte flag).toNat = 0) := by
  obtain ⟨registers, executesToo, loaded⟩ := computes
  obtain rfl := executes.unique executesToo
  refine ⟨loaded.value, ?_⟩
  have raises := loaded.raises notFlag
  by_cases isRaised : raised
  · rw [if_pos (decide_eq_true isRaised)] at raises
    exact .inl ⟨isRaised, raises⟩
  · rw [if_neg (by simpa using isRaised)] at raises
    exact .inr ⟨isRaised, raises⟩

section Table

variable
  (operation : Operation)
  (pattern mask : Nat)
  (member : ⟨operation, pattern, mask⟩ ∈ instructionTable)
  (notSys : operation ≠ .sys)
  {operands : Operands operation.format}
  (proper : operands.Proper)
  {weight : Nat}
  (weighs : operands.weight = weight)

include member notSys proper weighs

theorem computes_of_mem
    {x : Fin registerCount}
    {value : Int}
    (ran :
      (Action.execute operation operands).run machine =
        .ok () (machine.withRegisters (machine.registers.set x value))) :
    machine.Computes (pattern + weight) x (value % 256) :=
  ⟨_, executes_of_mem operation pattern mask member notSys proper weighs ran,
    machine.registers.loaded_set x value⟩

theorem computesWithFlag_of_mem
    {x : Fin registerCount}
    {value : Int}
    {raised : Bool}
    (ran :
      (Action.execute operation operands).run machine =
        (Action.writeFlagged (x : Nat) raised value).run machine) :
    machine.ComputesWithFlag (pattern + weight) x (value % 256) raised := by
  rw [Action.run_writeFlagged] at ran
  exact ⟨_,
    executes_of_mem operation pattern mask member notSys proper weighs ran,
    machine.registers.loadedWithFlag_set x value raised⟩

end Table

/-- A byte is its own rest modulo 256. -/
theorem byte_emod
    (byte : UInt8) :
    (byte.toNat : Int) % 256 = byte.toNat := by
  have isByte := byte.toNat_lt
  omega

/-! What the instructions compute, by their words. -/

section Words

variable
  (machine : Machine)
  (x y : Fin registerCount)
  (kk : Fin 0x100)

theorem computes_ld :
    machine.Computes (0x6000 + (0x100 * x + kk)) x (kk : Nat) := by
  have sameNumber : ((kk : Nat) : Int) % 256 = (kk : Nat) := by omega
  rw [← sameNumber]
  exact computes_of_mem .ld 0x6000 0xF000 (by decide) (by decide)
    (.registerValue x kk) rfl (Action.run_ld machine x (kk : Nat))

theorem computes_add :
    machine.Computes (0x7000 + (0x100 * x + kk)) x
      (((machine.registers.byte x).toNat + kk : Int) % 256) :=
  computes_of_mem .add 0x7000 0xF000 (by decide) (by decide)
    (.registerValue x kk) rfl (Action.run_add machine x (kk : Nat))

theorem computes_ldReg :
    machine.Computes (0x8000 + (0x100 * x + 0x10 * y)) x
      (machine.registers.byte y).toNat := by
  rw [← byte_emod]
  exact computes_of_mem .ldReg 0x8000 0xF00F (by decide) (by decide)
    (.registerPair x y) rfl (Action.run_ldReg machine x y)

theorem computes_or :
    machine.Computes (0x8001 + (0x100 * x + 0x10 * y)) x
      ((machine.registers.byte x).toNat |||
        (machine.registers.byte y).toNat : Nat) := by
  rw [← UInt8.toNat_or, ← byte_emod]
  exact computes_of_mem .or 0x8001 0xF00F (by decide) (by decide)
    (.registerPair x y) rfl (Action.run_or machine x y)

theorem computes_and :
    machine.Computes (0x8002 + (0x100 * x + 0x10 * y)) x
      ((machine.registers.byte x).toNat &&&
        (machine.registers.byte y).toNat : Nat) := by
  rw [← UInt8.toNat_and, ← byte_emod]
  exact computes_of_mem .and 0x8002 0xF00F (by decide) (by decide)
    (.registerPair x y) rfl (Action.run_and machine x y)

theorem computes_xor :
    machine.Computes (0x8003 + (0x100 * x + 0x10 * y)) x
      ((machine.registers.byte x).toNat ^^^
        (machine.registers.byte y).toNat : Nat) := by
  rw [← UInt8.toNat_xor, ← byte_emod]
  exact computes_of_mem .xor 0x8003 0xF00F (by decide) (by decide)
    (.registerPair x y) rfl (Action.run_xor machine x y)

theorem computesWithFlag_addReg :
    machine.ComputesWithFlag (0x8004 + (0x100 * x + 0x10 * y)) x
      (((machine.registers.byte x).toNat +
        (machine.registers.byte y).toNat : Int) % 256)
      (255 < (machine.registers.byte x).toNat +
        (machine.registers.byte y).toNat) :=
  computesWithFlag_of_mem .addReg 0x8004 0xF00F (by decide) (by decide)
    (.registerPair x y) rfl (Action.run_addReg machine x y)

theorem computesWithFlag_sub :
    machine.ComputesWithFlag (0x8005 + (0x100 * x + 0x10 * y)) x
      (((machine.registers.byte x).toNat -
        (machine.registers.byte y).toNat : Int) % 256)
      ((machine.registers.byte y).toNat <
        (machine.registers.byte x).toNat) := by
  rw [← decide_eq_decide.mpr UInt8.lt_iff_toNat_lt]
  exact computesWithFlag_of_mem .sub 0x8005 0xF00F (by decide) (by decide)
    (.registerPair x y) rfl (Action.run_sub machine x y)

theorem computesWithFlag_shr :
    machine.ComputesWithFlag (0x8006 + (0x100 * x + 0x10 * y)) x
      ((machine.registers.byte x).toNat / 2 : Nat)
      ((machine.registers.byte x).toNat % 2 = 1) := by
  have isByte := (machine.registers.byte x).toNat_lt
  have sameHalf :
      ((machine.registers.byte x).toNat : Int) / 2 % 256 =
        ((machine.registers.byte x).toNat / 2 : Nat) := by
    omega
  rw [← sameHalf]
  exact computesWithFlag_of_mem .shr 0x8006 0xF00F (by decide) (by decide)
    (.registerPair x y) rfl (Action.run_shr machine x (y : Nat))

theorem computesWithFlag_subn :
    machine.ComputesWithFlag (0x8007 + (0x100 * x + 0x10 * y)) x
      (((machine.registers.byte y).toNat -
        (machine.registers.byte x).toNat : Int) % 256)
      ((machine.registers.byte x).toNat <
        (machine.registers.byte y).toNat) := by
  rw [← decide_eq_decide.mpr UInt8.lt_iff_toNat_lt]
  exact computesWithFlag_of_mem .subn 0x8007 0xF00F (by decide) (by decide)
    (.registerPair x y) rfl (Action.run_subn machine x y)

theorem computesWithFlag_shl :
    machine.ComputesWithFlag (0x800E + (0x100 * x + 0x10 * y)) x
      ((2 * (machine.registers.byte x).toNat : Int) % 256)
      (128 ≤ (machine.registers.byte x).toNat) :=
  computesWithFlag_of_mem .shl 0x800E 0xF00F (by decide) (by decide)
    (.registerPair x y) rfl (Action.run_shl machine x (y : Nat))

end Words

/--
Arithmetic on registers, wherever the flag register is among them.

All operands are the values before the instruction. A value that goes to the
flag register stays there in place of the flag. In any other register it makes up
with the flag the exact sum, the exact double or the exact half.
-/
theorem register_arithmetic
    (machine : Machine)
    (x y : Fin registerCount)
    (kk : Fin 0x100) :
    let vx := (machine.registers.byte x).toNat
    let vy := (machine.registers.byte y).toNat
    let value := 0x100 * (x : Nat) + kk
    let pair := 0x100 * (x : Nat) + 0x10 * y
    (machine.Computes (0x6000 + value) x (kk : Nat) ∧
      machine.Computes (0x7000 + value) x ((vx + kk : Int) % 256) ∧
      machine.Computes (0x8000 + pair) x vy ∧
      machine.Computes (0x8001 + pair) x (vx ||| vy : Nat) ∧
      machine.Computes (0x8002 + pair) x (vx &&& vy : Nat) ∧
      machine.Computes (0x8003 + pair) x (vx ^^^ vy : Nat)) ∧
    (machine.ComputesWithFlag (0x8004 + pair) x ((vx + vy : Int) % 256)
        (255 < vx + vy) ∧
      machine.ComputesWithFlag (0x8005 + pair) x ((vx - vy : Int) % 256)
        (vy < vx) ∧
      machine.ComputesWithFlag (0x8006 + pair) x (vx / 2 : Nat)
        (vx % 2 = 1) ∧
      machine.ComputesWithFlag (0x8007 + pair) x ((vy - vx : Int) % 256)
        (vx < vy) ∧
      machine.ComputesWithFlag (0x800E + pair) x ((2 * vx : Int) % 256)
        (128 ≤ vx)) ∧
    (x ≠ flag →
      ∀ next : Machine,
        let result := (next.registers.byte x).toNat
        let raised := (next.registers.byte flag).toNat
        (machine.Executes (0x8004 + pair) next →
          256 * raised + result = vx + vy) ∧
        (machine.Executes (0x800E + pair) next →
          256 * raised + result = 2 * vx) ∧
        (machine.Executes (0x8006 + pair) next →
          2 * result + raised = vx)) ∧
    ∀ next,
      0 ≤ machine.programCounter →
      machine.programCounter < 4095 →
      machine.settled.Executes machine.word next →
      ∃ executed, Action.cycle.run machine = .ok executed next := by
  intro vx vy value pair
  refine ⟨?plain, ?flagged, ?exact, ?ofCycle⟩
  case plain =>
    exact ⟨machine.computes_ld x kk, machine.computes_add x kk,
      machine.computes_ldReg x y, machine.computes_or x y,
      machine.computes_and x y, machine.computes_xor x y⟩
  case flagged =>
    exact ⟨machine.computesWithFlag_addReg x y,
      machine.computesWithFlag_sub x y, machine.computesWithFlag_shr x y,
      machine.computesWithFlag_subn x y, machine.computesWithFlag_shl x y⟩
  case exact =>
    intro notFlag next result raised
    have vxSmall : vx < 256 := (machine.registers.byte x).toNat_lt
    have vySmall : vy < 256 := (machine.registers.byte y).toNat_lt
    refine ⟨fun executes => ?_, fun executes => ?_, fun executes => ?_⟩
    · have sum :=
        (machine.computesWithFlag_addReg x y).of_executes notFlag executes
      omega
    · have double :=
        (machine.computesWithFlag_shl x y).of_executes notFlag executes
      omega
    · have half :=
        (machine.computesWithFlag_shr x y).of_executes notFlag executes
      omega
  case ofCycle =>
    intro next lower inside executes
    exact executes.run_cycle lower inside

/-- Adding 100 to 200 leaves 44 and raises the flag. -/
theorem register_arithmetic_of_carry :
    let loaded :=
      (fresh (Display.blank 64 32) (RandomTape.start [])).after
        (.load [0x80, 0x14])
    let machine :=
      { loaded with
        registers :=
          ((Memory.blank registerCount).set ⟨0, by decide⟩ 200).set
            ⟨1, by decide⟩ 100 }
    ∃ executed next,
      Action.cycle.run machine = .ok executed next ∧
        (next.registers.byte ⟨0, by decide⟩).toNat = 44 ∧
        (next.registers.byte flag).toNat = 1 := by
  intro loaded machine
  have word : machine.word = 0x8014 :=
    word_after_load_pair _ rfl 0x80 0x14
  have atStart : machine.programCounter = 0x200 := rfl
  obtain ⟨-, ⟨⟨registers, executes, sum⟩, -⟩, exact, -⟩ :=
    register_arithmetic machine.settled ⟨0, by decide⟩ ⟨1, by decide⟩ 0
  obtain ⟨-, -, -, ofCycle⟩ :=
    register_arithmetic machine ⟨0, by decide⟩ ⟨1, by decide⟩ 0
  obtain ⟨executed, ran⟩ :=
    ofCycle _ (by omega) (by omega) (by rw [word]; exact executes)
  let next := machine.settled.withRegisters registers
  have balance := (exact (by decide) next).1 executes
  have augend :
      (machine.settled.registers.byte ⟨0, by decide⟩).toNat = 200 := rfl
  have addend :
      (machine.settled.registers.byte ⟨1, by decide⟩).toNat = 100 := rfl
  have low : (next.registers.byte ⟨0, by decide⟩).toNat = 44 := by
    have ofValue :
        ((next.registers.byte ⟨0, by decide⟩).toNat : Int) = _ :=
      sum.value
    omega
  have raised : (next.registers.byte flag).toNat = 1 := by omega
  exact ⟨executed, next, ran, low, raised⟩

end Machine

end ChipEight
