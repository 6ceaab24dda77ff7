import ChipEight.Fault
import ChipEight.Layout
import ChipEight.Limits
import ChipEight.Loop
import ChipEight.Surface

namespace ChipEight

/-!
# The window

A window shows a grid of cells, each a square of `scale` pixels to a side, in a
background and a foreground colour. Painting a grid fills the whole window with
the background colour and then paints the squares of the cells that are not
zero.

The window system reads the sides of a window and of a square, and the place of
a square, as 32-bit numbers, so that numbers outside of these lead back into
them. Numbers of more than 64 bits it does not read at all, and painting may
end at a square that has one.
-/

/-- The background colour that is used unless another is asked for. -/
def defaultBackground : Color :=
  { red := 80, green := 69, blue := 155 }

/-- The foreground colour that is used unless another is asked for. -/
def defaultForeground : Color :=
  { red := 136, green := 126, blue := 203 }

/-- The pixels to a side of a cell unless another number is asked for. -/
def defaultScale : Int := 15

/--
The size of the desktop, which a window takes when it is asked for
without a size.
-/
def desktopSize : Nat × Nat := (1024, 768)

/-- A window with what is painted on it. -/
structure Window where
  /-- The number of cells from left to right. -/
  columns : Int
  /-- The number of cells from top to bottom. -/
  rows : Int
  scale : Int
  background : Color
  foreground : Color
  surface : Surface

namespace Window

/-- The longest side that a window may have. -/
def longestSide : Int := 16384

/--
The size of the surface for a window with the given sides.

A surface has at least one pixel to a side, and a window for which no side is
given is as large as the desktop.
-/
def surfaceSize
    (width : Int)
    (height : Int) :
    Except Fault (Nat × Nat) :=
  match halfWord? width, halfWord? height with
  | some width, some height =>
      if width < 0 ∨ height < 0 then
        .error .negativeWindow
      else if width = 0 ∧ height = 0 then
        .ok desktopSize
      else if longestSide < width ∨ longestSide < height then
        .error .windowTooLarge
      else
        .ok (max 1 width.toNat, max 1 height.toNat)
  | _, _ => .error .windowTooWide

/-- A new window, painted in the background colour. -/
def create
    (columns : Int)
    (rows : Int)
    (scale : Int)
    (background : Color)
    (foreground : Color) :
    Except Fault Window := do
  let (width, height) ← surfaceSize (columns * scale) (rows * scale)
  return {
    columns := columns
    rows := rows
    scale := scale
    background := background
    foreground := foreground
    surface := Surface.filled width height background }

/-- The square of a cell. -/
def square?
    (window : Window)
    (x : Int)
    (y : Int) :
    Option Rectangle := do
  let left ← halfWord? (x * window.scale)
  let top ← halfWord? (y * window.scale)
  let side ← halfWord? window.scale
  return { left := left, top := top, width := side, height := side }

end Window

/--
A computation that paints on a window and keeps what it painted before a fault.
-/
abbrev Painting := EStateM Fault Window

namespace Painting

/-- Paint all cells in the background colour. -/
def clear : Painting Unit :=
  modify fun window =>
    { window with surface := window.surface.fill window.background }

/--
Paint the square of a cell, in the background colour exactly for the value zero.
-/
def paintCell
    (x : Int)
    (y : Int)
    (value : Int) :
    Painting Unit := do
  let window ← get
  match window.square? x y with
  | some square =>
      let color := if value = 0 then window.background else window.foreground
      set { window with surface := window.surface.paint square color }
  | none => throw .squareTooWide

/-- Paint the cells of a row that are not zero, from a column on. -/
def paintCells
    (y : Nat) :
    Nat →
    List Int →
    Painting Unit
  | _, [] => pure ()
  | x, value :: rest => do
      if value ≠ 0 then
        paintCell x y 1
      paintCells y (x + 1) rest

/-- Paint the cells of a grid that are not zero, from a row on. -/
def paintRows :
    Nat →
    List (List Int) →
    Painting Unit
  | _, [] => pure ()
  | y, row :: rest => do
      paintCells y 0 row
      paintRows (y + 1) rest

/-- Paint a grid in place of what the window showed. -/
def paintGrid
    (grid : List (List Int)) :
    Painting Unit := do
  clear
  paintRows 0 grid

/-- Paint a display in place of what the window showed. -/
def paintDisplay
    (display : Display) :
    Painting Unit :=
  paintGrid (display.toLists.map fun row => row.map fun lit => lit.toInt)

end Painting

namespace Window

/-- The window after a painting, which may have ended early. -/
def after
    (window : Window)
    (painting : Painting Unit) :
    Window :=
  match painting.run window with
  | .ok _ painted => painted
  | .error _ painted => painted

/-- The number of cells of a row that are shown in the foreground colour. -/
def litInRow
    (window : Window)
    (y : Nat) :
    Nat :=
  let cellWidth := window.surface.width / window.columns.toNat
  let cellHeight := window.surface.height / window.rows.toNat
  let patches := window.surface.patchesOn (y * cellHeight)
  (List.range window.columns.toNat).countP fun x =>
    window.surface.colorAmong patches (x * cellWidth) = window.foreground

/--
The number of cells shown in the foreground colour.

The cells divide the surface evenly, and what counts is the top left pixel of a
cell.
-/
def litCount
    (window : Window) :
    Nat :=
  ((List.range window.rows.toNat).map window.litInRow).foldl (· + ·) 0

/-- The window after a request of the loop. -/
def afterRequest
    (window : Window) :
    Request →
    Window
  | .paint display => window.after (Painting.paintDisplay display)
  | .pace _ => window
  | .present => window

end Window

end ChipEight
