import ChipEight.Cells.Index
import ChipEight.Cells.Selection

namespace ChipEight

/-!
# Byte memory of a fixed size

A memory is a row of byte cells whose number never changes. A value that is
written keeps its lowest eight bits. Cells are read and written one by one
through signed indices, or many at a time through spans; a span is written only
when as many values are given as it selects cells. There are never more cells
than signed 64-bit indices can count, and far fewer when a memory is asked for,
since the host refuses what it has no room for.
-/

/-- A row of `size` byte cells. -/
structure Memory (size : Nat) where
  cells : Vector UInt8 size
  /-- Signed indices can count the cells. -/
  bounded : size < wordLimit := by decide
  deriving DecidableEq, Repr

namespace Memory

variable {size : Nat}

/-- A memory with all cells zero. -/
def blank
    (size : Nat)
    (bounded : size < wordLimit := by decide) :
    Memory size :=
  { cells := Vector.replicate size 0, bounded := bounded }

/-- The size of a memory for which a number of bytes is asked. -/
def sizeFor
    (count : Int) :
    Except Fault { size : Nat // size < wordLimit } := do
  let size ← byteCount count
  if fits : size < blockLimit then
    return ⟨size, lt_wordLimit_of_lt_blockLimit fits⟩
  else
    throw .outOfMemory

/-- A memory that starts with the given bytes and is zero behind them. -/
def startingWith
    (size : Nat)
    (bytes : Array UInt8)
    (bounded : size < wordLimit := by decide) :
    Memory size :=
  { cells := Vector.ofFn fun cell => bytes.getD cell 0, bounded := bounded }

/-- The bytes of all cells in order. -/
def toList
    (memory : Memory size) :
    List UInt8 :=
  memory.cells.toList

/-- The byte at an index. -/
def read
    (memory : Memory size)
    (index : Int) :
    Except Fault UInt8 := do
  let cell ← Cells.locate size index .noSuchCell
  return memory.cells[cell]

/-- Change one cell to the lowest eight bits of a value. -/
def set
    (memory : Memory size)
    (cell : Fin size)
    (value : Int) :
    Memory size :=
  { memory with cells := memory.cells.set cell (UInt8.ofInt value) }

/-- A list of all cells is as long as the memory is large. -/
theorem length_toList
    (memory : Memory size) :
    memory.toList.length = size := by
  simp only [toList, Vector.length_toList]

/-- Changing a cell gives it the new byte and leaves all other cells alone. -/
theorem getElem_set
    (memory : Memory size)
    (cell : Fin size)
    (value : Int)
    (other : Fin size) :
    (memory.set cell value).cells[other] =
      if cell = other then UInt8.ofInt value else memory.cells[other] := by
  simp only [set, Fin.getElem_fin, Vector.getElem_set, Fin.ext_iff]

/-- Write the lowest eight bits of a value at an index. -/
def write
    (memory : Memory size)
    (index : Int)
    (value : Int) :
    Except Fault (Memory size) := do
  let cell ← Cells.locate size index .noSuchCell
  return memory.set cell value

/-- The bytes of the selected cells, in the order of the selection. -/
def readSelection
    (memory : Memory size)
    (selection : Cells.Selection size) :
    List UInt8 :=
  selection.cells.map fun cell => memory.cells[cell]

/-- Change cells one after the other, each to the value paired with it. -/
def setAll
    (memory : Memory size)
    (pairs : List (Fin size × Int)) :
    Memory size :=
  pairs.foldl (fun memory (cell, value) => memory.set cell value) memory

/-- The bytes of the cells that a span selects. -/
def readSpan
    (memory : Memory size)
    (span : Cells.Span) :
    Except Fault (List UInt8) := do
  let selection ← span.resolve size
  return memory.readSelection selection

/-- Write values over the cells that a span selects, one value to a cell. -/
def writeSpan
    (memory : Memory size)
    (span : Cells.Span)
    (values : List Int) :
    Except Fault (Memory size) := do
  let selection ← span.resolve size
  if selection.count = values.length then
    return memory.setAll (selection.cells.zip values)
  else
    throw (.countMismatch values.length selection.count size)

end Memory

end ChipEight
