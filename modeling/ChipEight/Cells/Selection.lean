import ChipEight.Fault

namespace ChipEight.Cells

/-!
# Cells in arithmetic progression

A span asks for cells by an optional first bound, an optional last bound that
is itself left out, and an optional stride. Resolving it against a number of
cells gives a selection: the cells at `first`, `first + stride`, and so on. A
bound beyond either end is drawn in to that end, so every selected position is
that of a cell.
-/

/-- A request for cells in arithmetic progression. -/
structure Span where
  start : Option Int
  stop : Option Int
  stride : Option Int
  deriving DecidableEq, Repr

namespace Span

/-- The cells from one position up to another, which is left out. -/
def between
    (start : Int)
    (stop : Int) :
    Span :=
  { start := some start, stop := some stop, stride := none }

/-- The cells in front of a position. -/
def before
    (stop : Int) :
    Span :=
  { start := none, stop := some stop, stride := none }

end Span

/-- Cells at equal distances among `size` cells. -/
structure Selection (size : Nat) where
  first : Int
  stride : Int
  count : Nat
  inside :
    ∀ place < count,
      0 ≤ first + place * stride ∧ first + place * stride < size

namespace Selection

variable {size : Nat}

/-- The cell of a selection at a place in its order. -/
def cell
    (selection : Selection size)
    (place : Fin selection.count) :
    Fin size :=
  ⟨(selection.first + place * selection.stride).toNat, by
    have bounds := selection.inside place place.isLt
    omega⟩

/-- The selected cells in order. -/
def cells
    (selection : Selection size) :
    List (Fin size) :=
  List.ofFn selection.cell

/-- The position of a selected cell. -/
theorem val_cell
    (selection : Selection size)
    (place : Fin selection.count) :
    (selection.cell place : Int) =
      selection.first + place * selection.stride := by
  have bounds := selection.inside place place.isLt
  simp only [cell]
  omega

/-- As many cells are selected as the selection counts. -/
theorem length_cells
    (selection : Selection size) :
    selection.cells.length = selection.count := by
  simp only [cells, List.length_ofFn]

/-- The cells from `start` up to but not at `stop`, `stride` apart. -/
def ascending
    (start : Int)
    (stop : Int)
    (stride : Int)
    (lower : 0 ≤ start)
    (upper : stop ≤ size)
    (positive : 0 < stride) :
    Selection size where
  first := start
  stride := stride
  count := if start < stop then ((stop - start - 1) / stride + 1).toNat else 0
  inside := by
    intro place bound
    split at bound
    · have quotient : (place : Int) ≤ (stop - start - 1) / stride := by omega
      have product := (Int.le_ediv_iff_mul_le positive).1 quotient
      have advance : 0 ≤ (place : Int) * stride :=
        Int.mul_nonneg (by omega) (by omega)
      omega
    · omega

/-- The cells from `start` down to but not at `stop`, `-stride` apart. -/
def descending
    (start : Int)
    (stop : Int)
    (stride : Int)
    (lower : -1 ≤ stop)
    (upper : start < size)
    (negative : stride < 0) :
    Selection size where
  first := start
  stride := stride
  count := if stop < start then ((start - stop - 1) / (-stride) + 1).toNat else 0
  inside := by
    intro place bound
    split at bound
    · have quotient : (place : Int) ≤ (start - stop - 1) / (-stride) := by omega
      have product := (Int.le_ediv_iff_mul_le (by omega : 0 < -stride)).1 quotient
      have retreat : 0 ≤ (place : Int) * (-stride) :=
        Int.mul_nonneg (by omega) (by omega)
      rw [Int.mul_neg] at product retreat
      omega
    · omega

end Selection

namespace Span

/--
The position of a bound among `size` cells, kept in `lower..upper`.

A negative bound counts from the end, and a bound that is not given is `absent`.
-/
def drawIn
    (size : Nat)
    (lower : Int)
    (upper : Int)
    (absent : Int) :
    Option Int → Int
  | none => absent
  | some bound =>
      max lower (min upper (if bound < 0 then bound + size else bound))

/-- A bound that is drawn in lies between the two ends. -/
theorem drawIn_mem
    {size : Nat}
    {lower : Int}
    {upper : Int}
    {absent : Int}
    (bound : Option Int)
    (absentInside : lower ≤ absent ∧ absent ≤ upper) :
    lower ≤ drawIn size lower upper absent bound ∧
      drawIn size lower upper absent bound ≤ upper := by
  cases bound with
  | none => exact absentInside
  | some bound =>
      simp only [drawIn]
      omega

/-- The cells that a span selects among `size` cells. -/
def resolve
    (span : Span)
    (size : Nat) :
    Except Fault (Selection size) :=
  let stride := span.stride.getD 1
  if positive : 0 < stride then
    .ok (Selection.ascending
      (drawIn size 0 size 0 span.start)
      (drawIn size 0 size size span.stop)
      stride
      (drawIn_mem span.start (by omega)).1
      (drawIn_mem span.stop (by omega)).2
      positive)
  else if negative : stride < 0 then
    .ok (Selection.descending
      (drawIn size (-1) (size - 1) (size - 1) span.start)
      (drawIn size (-1) (size - 1) (-1) span.stop)
      stride
      (drawIn_mem span.stop (by omega)).1
      (Int.lt_of_le_sub_one (drawIn_mem span.start (by omega)).2)
      negative)
  else
    .error .zeroStride

end Span

end ChipEight.Cells
