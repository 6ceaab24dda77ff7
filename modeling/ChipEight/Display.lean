import ChipEight.Limits

namespace ChipEight

/-!
# The display

A display is a grid of pixels that are lit or dark. Drawing flips pixels, and
coordinates of any size wrap around its sides, so a display with two positive
sides is a torus on which every coordinate names a pixel. The sides may also be
zero or negative; such a display has no pixels and nothing can be drawn on it.
-/

/-- A grid of pixels. -/
structure Display where
  width : Int
  height : Int
  /--
  The rows from top to bottom, each from left to right, `true` where a
  pixel is lit.
  -/
  rows : Vector (Vector Bool width.toNat) height.toNat
  deriving Repr

namespace Display

/-- A display with all pixels dark. -/
def blank
    (width : Int)
    (height : Int) :
    Display where
  width := width
  height := height
  rows := Vector.ofFn fun _ => Vector.replicate width.toNat false

/-- The number of bytes that a row takes. -/
def rowBytes
    (width : Int) :
    Nat :=
  8 * width.toNat

/-- A display for which sides are asked, with all pixels dark. -/
def create
    (width : Int)
    (height : Int) :
    Except Fault Display := do
  if 0 < height then
    if !fitsWord width then
      throw .countTooWide
    requireBlock (rowBytes width)
  return blank width height

/-- The display with all pixels turned dark. -/
def cleared
    (display : Display) :
    Display :=
  blank display.width display.height

/-- The rows as lists. -/
def toLists
    (display : Display) :
    List (List Bool) :=
  display.rows.toList.map Vector.toList

/-- The number of lit pixels. -/
def litCount
    (display : Display) :
    Nat :=
  display.toLists.flatten.count true

/-- The pixel in a column and a row; outside the display every pixel is dark. -/
def isLit
    (display : Display)
    (column : Nat)
    (row : Nat) :
    Bool :=
  if inside : column < display.width.toNat ∧ row < display.height.toNat then
    (display.rows.get ⟨row, inside.2⟩).get ⟨column, inside.1⟩
  else
    false

/-- The place that a coordinate names on a side around which it wraps. -/
def wrap
    (side : Int)
    (positive : 0 < side)
    (coordinate : Int) :
    Fin side.toNat :=
  ⟨(coordinate % side).toNat, by
    have lower := Int.emod_nonneg coordinate (Int.ne_of_gt positive)
    have upper := Int.emod_lt_of_pos coordinate positive
    omega⟩

/-- The display with one pixel changed. -/
def setPixel
    (display : Display)
    (column : Fin display.width.toNat)
    (row : Fin display.height.toNat)
    (lit : Bool) :
    Display :=
  { display with
    rows := display.rows.set row (display.rows[row].set column lit) }

/-- A pixel to draw: whether there is ink, and its coordinates. -/
structure Dot where
  ink : Bool
  x : Int
  y : Int
  deriving DecidableEq, Repr

/--
The fault of a dot on a display that has sides of which one is negative.

The row is looked for first, at the place to which the coordinate leads when it
wraps backwards around a negative side.
-/
def missingPixel
    (display : Display)
    (dot : Dot) :
    Fault :=
  let place :=
    if display.height < 0 then
      dot.y.fmod display.height
    else
      dot.x.fmod display.width
  if fitsWord place then
    .noSuchPlace
  else
    .indexTooWide

/--
Flip the pixel at the wrapped coordinates of a dot when there is ink to draw.

The flag tells whether a lit pixel was turned off.
-/
def drawDot
    (display : Display)
    (dot : Dot) :
    Except Fault (Display × Bool) :=
  if display.width = 0 ∨ display.height = 0 then
    .error .zeroSide
  else if positive : 0 < display.width ∧ 0 < display.height then
    let column := wrap display.width positive.1 dot.x
    let row := wrap display.height positive.2 dot.y
    let before := display.rows[row][column]
    .ok (display.setPixel column row (before ^^ dot.ink), before && dot.ink)
  else
    .error (display.missingPixel dot)

/-- Draw dots in turn; the flag tells whether any of them turned a lit pixel off. -/
def drawDots
    (display : Display) :
    List Dot →
    Except Fault (Display × Bool)
  | [] => .ok (display, false)
  | dot :: rest => do
      let (drawn, erased) ← display.drawDot dot
      let (finished, erasedLater) ← drawn.drawDots rest
      return (finished, erased || erasedLater)

/-- Whether a bit of a whole number in two's complement is set. -/
def bit
    (value : Int)
    (place : Nat) :
    Bool :=
  value >>> place % 2 = 1

/--
The eight dots of a row of a sprite, from the highest bit on the left to
the lowest.
-/
def rowDots
    (pattern : Int)
    (x : Int)
    (y : Int) :
    List Dot :=
  (List.range 8).map fun column =>
    { ink := bit pattern (7 - column), x := x + column, y := y }

/-- The dots of a sprite whose top left corner is at the given coordinates. -/
def spriteDots
    (x : Int) :
    Int →
    List Int →
    List Dot
  | _, [] => []
  | y, pattern :: rest => rowDots pattern x y ++ spriteDots x (y + 1) rest

/-- Draw a sprite, one row of eight pixels to a number. -/
def draw
    (display : Display)
    (sprite : List Int)
    (x : Int)
    (y : Int) :
    Except Fault (Display × Bool) :=
  display.drawDots (spriteDots x y sprite)

end Display

end ChipEight
