import ChipEight.Instruction.Operation
import ChipEight.Machine.State

namespace ChipEight.Action

/-!
# What the instructions do

`execute` gives the effect of every operation. Each effect moves the program
counter itself. Operands are read before anything is written, and the flag
register is written before the result, so that a result put into the flag
register replaces the flag.
-/

/-- Load a value that is computed from two registers into the first of them. -/
def combine
    (x : Int)
    (y : Int)
    (operation : UInt8 → UInt8 → UInt8) :
    Action Unit := do
  let vx ← readRegister x
  let vy ← readRegister y
  writeRegister x (operation vx vy).toNat
  advance

/-- Load a value into a register after raising or lowering the flag. -/
def writeFlagged
    (x : Int)
    (raised : Bool)
    (value : Int) :
    Action Unit := do
  writeFlag raised
  writeRegister x value
  advance

/-- The effect of an operation on its operands. -/
def execute :
    (operation : Operation) →
    Operands operation.format →
    Action Unit
  | .sys, .address _ => advance
  | .cls, .bare => do
      modify fun machine =>
        { machine with
          display := machine.display.cleared,
          displayChanged := true }
      advance
  | .ret, .bare => do
      let top := (← get).stackTop
      if top < 0 then
        throw .noOpenCall
      let address ← readStack top
      modify fun machine =>
        { machine with
          programCounter := address,
          stackTop := top - 1 }
  | .jp, .address nnn => goTo nnn
  | .call, .address nnn => do
      let machine ← get
      if (stackCapacity : Int) - 1 ≤ machine.stackTop then
        throw (.stackFull stackCapacity)
      set { machine with stackTop := machine.stackTop + 1 }
      writeStack (machine.stackTop + 1) machine.programCounter
      goTo nnn
  | .se, .registerValue x kk => do
      let vx ← readRegister x
      skipWhen ((vx.toNat : Int) = kk)
  | .sne, .registerValue x kk => do
      let vx ← readRegister x
      skipWhen ((vx.toNat : Int) ≠ kk)
  | .seReg, .registerPair x y => do
      let vx ← readRegister x
      let vy ← readRegister y
      skipWhen (vx = vy)
  | .sneReg, .registerPair x y => do
      let vx ← readRegister x
      let vy ← readRegister y
      skipWhen (vx ≠ vy)
  | .ld, .registerValue x kk => do
      writeRegister x kk
      advance
  | .add, .registerValue x kk => do
      let vx ← readRegister x
      writeRegister x (vx.toNat + kk)
      advance
  | .ldReg, .registerPair x y => do
      let vy ← readRegister y
      writeRegister x vy.toNat
      advance
  | .or, .registerPair x y => combine x y (· ||| ·)
  | .and, .registerPair x y => combine x y (· &&& ·)
  | .xor, .registerPair x y => combine x y (· ^^^ ·)
  | .addReg, .registerPair x y => do
      let vx ← readRegister x
      let vy ← readRegister y
      writeFlagged x (255 < vx.toNat + vy.toNat) (vx.toNat + vy.toNat)
  | .sub, .registerPair x y => do
      let vx ← readRegister x
      let vy ← readRegister y
      writeFlagged x (vy < vx) (vx.toNat - vy.toNat)
  | .shr, .registerPair x _ => do
      let vx ← readRegister x
      writeFlagged x (vx.toNat % 2 = 1) (vx.toNat / 2)
  | .subn, .registerPair x y => do
      let vx ← readRegister x
      let vy ← readRegister y
      writeFlagged x (vx < vy) (vy.toNat - vx.toNat)
  | .shl, .registerPair x _ => do
      let vx ← readRegister x
      writeFlagged x (128 ≤ vx.toNat) (2 * vx.toNat)
  | .ldI, .address nnn => do
      modify fun machine => { machine with indexRegister := nnn }
      advance
  | .jpV0, .address nnn => do
      let v0 ← readRegister 0
      goTo (nnn + v0.toNat)
  | .rnd, .registerValue x kk => do
      let result ← takeRandom
      writeRegister x (UInt8.ofInt result &&& UInt8.ofInt kk).toNat
      advance
  | .drw, .sprite x y n => do
      let index := (← get).indexRegister
      let rows ← readBytes (.between index (index + n))
      let vx ← readRegister x
      let vy ← readRegister y
      let erased ← draw (rows.map fun row => row.toNat) vx.toNat vy.toNat
      writeFlag erased
      modify fun machine => { machine with displayChanged := true }
      advance
  | .skp, .register x => do
      let vx ← readRegister x
      skipWhen ((← get).keypad.isHeld vx.toNat)
  | .sknp, .register x => do
      let vx ← readRegister x
      skipWhen (!(← get).keypad.isHeld vx.toNat)
  | .ldVxDt, .register x => do
      writeRegister x (← get).delayTimer
      advance
  | .ldVxK, .register x => do
      let keypad := (← get).keypad
      if keypad.anyHeld then
        writeRegister x keypad.lastPressed
        advance
  | .ldDtVx, .register x => do
      let vx ← readRegister x
      modify fun machine => { machine with delayTimer := vx.toNat }
      advance
  | .ldStVx, .register x => do
      let vx ← readRegister x
      modify fun machine => { machine with soundTimer := vx.toNat }
      advance
  | .addI, .register x => do
      let vx ← readRegister x
      modify fun machine =>
        { machine with indexRegister := machine.indexRegister + vx.toNat }
      advance
  | .ldF, .register x => do
      let vx ← readRegister x
      modify fun machine =>
        { machine with indexRegister := glyphStart + vx.toNat * glyphSize }
      advance
  | .ldB, .register x => do
      let vx ← readRegister x
      let index := (← get).indexRegister
      writeByte index (vx.toNat / 100)
      writeByte (index + 1) (vx.toNat / 10 % 10)
      writeByte (index + 2) (vx.toNat % 10)
      advance
  | .ldMemVx, .register x => do
      let index := (← get).indexRegister
      let values ← readRegisters (.before (x + 1))
      writeBytes (.between index (index + x + 1)) (values.map fun value => value.toNat)
      advance
  | .ldVxMem, .register x => do
      let index := (← get).indexRegister
      let values ← readBytes (.between index (index + x + 1))
      writeRegisters (.before (x + 1)) (values.map fun value => value.toNat)
      advance

end ChipEight.Action
