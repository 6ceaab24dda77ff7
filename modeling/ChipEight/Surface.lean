import ChipEight.Fault

namespace ChipEight

/-!
# Surfaces

A surface is a grid of pixels that starts in one colour and is covered by
patches, each a rectangle in a colour of its own. A pixel has the colour of the
latest patch that covers it. Filling a surface takes all patches away, and what
a patch would cover outside the surface does not exist.
-/

/-- A colour. -/
structure Color where
  red : UInt8
  green : UInt8
  blue : UInt8
  deriving DecidableEq, Repr

namespace Color

/-- The colour with the given parts, of which a fourth one is how opaque it is. -/
def ofParts
    (parts : List Int) :
    Except Fault Color :=
  if parts.all fun part => 0 ≤ part && part < 256 then
    match parts.map UInt8.ofInt with
    | [red, green, blue] => .ok { red := red, green := green, blue := blue }
    | [red, green, blue, _] => .ok { red := red, green := green, blue := blue }
    | _ => .error .notAColor
  else
    .error .notAColor

end Color

/-- A rectangle of pixels, given by its top left corner and its sides. -/
structure Rectangle where
  left : Int
  top : Int
  width : Int
  height : Int
  deriving DecidableEq, Repr

namespace Rectangle

/-- Whether the rectangle reaches over the pixels of a column. -/
def spansColumn
    (rectangle : Rectangle)
    (x : Int) :
    Bool :=
  rectangle.left ≤ x && x < rectangle.left + rectangle.width

/-- Whether the rectangle reaches over the pixels of a row. -/
def spansRow
    (rectangle : Rectangle)
    (y : Int) :
    Bool :=
  rectangle.top ≤ y && y < rectangle.top + rectangle.height

end Rectangle

/-- A rectangle in a colour. -/
structure Patch where
  rectangle : Rectangle
  color : Color
  deriving DecidableEq, Repr

/-- A grid of coloured pixels. -/
structure Surface where
  width : Nat
  height : Nat
  /-- The colour where there is no patch. -/
  ground : Color
  /-- The patches, the latest first. -/
  patches : List Patch

namespace Surface

/-- A surface in a single colour. -/
def filled
    (width : Nat)
    (height : Nat)
    (color : Color) :
    Surface :=
  { width := width, height := height, ground := color, patches := [] }

/-- The surface with every pixel in one colour. -/
def fill
    (surface : Surface)
    (color : Color) :
    Surface :=
  filled surface.width surface.height color

/-- The surface with a rectangle painted on it. -/
def paint
    (surface : Surface)
    (rectangle : Rectangle)
    (color : Color) :
    Surface :=
  { surface with patches := ⟨rectangle, color⟩ :: surface.patches }

/-- The patches that reach over a row, the latest first. -/
def patchesOn
    (surface : Surface)
    (y : Nat) :
    List Patch :=
  surface.patches.filter fun patch => patch.rectangle.spansRow y

/-- The colour of the pixel in a column of a row with the given patches. -/
def colorAmong
    (surface : Surface)
    (patches : List Patch)
    (x : Nat) :
    Color :=
  match patches.find? fun patch => patch.rectangle.spansColumn x with
  | some patch => patch.color
  | none => surface.ground

/-- The colour of a pixel, if it lies on the surface. -/
def pixel?
    (surface : Surface)
    (x : Nat)
    (y : Nat) :
    Option Color :=
  if x < surface.width ∧ y < surface.height then
    some (surface.colorAmong (surface.patchesOn y) x)
  else
    none

/-- Equal neighbours drawn together, each run with its length. -/
def runs
    {α : Type}
    [DecidableEq α] :
    List α →
    List (Nat × α)
  | [] => []
  | value :: rest =>
      match runs rest with
      | [] => [(1, value)]
      | (count, next) :: later =>
          if value = next then
            (count + 1, next) :: later
          else
            (1, value) :: (count, next) :: later

/-- The rows from top to bottom, equal neighbours drawn together. -/
def rows
    (surface : Surface) :
    List (Nat × List Color) :=
  (runs ((List.range surface.height).map surface.patchesOn)).map
    fun (count, patches) =>
      (count, (List.range surface.width).map (surface.colorAmong patches))

/--
A pixel that lies in a rectangle has its colour once the rectangle is painted.
-/
theorem pixel?_paint
    (surface : Surface)
    (rectangle : Rectangle)
    (color : Color)
    {x : Nat}
    {y : Nat}
    (onSurface : x < surface.width ∧ y < surface.height) :
    (surface.paint rectangle color).pixel? x y =
      if rectangle.spansColumn x ∧ rectangle.spansRow y then
        some color
      else
        surface.pixel? x y := by
  by_cases column : rectangle.spansColumn x = true <;>
    by_cases row : rectangle.spansRow y = true <;>
      simp [pixel?, paint, patchesOn, colorAmong, onSurface, column, row]

end Surface

end ChipEight
