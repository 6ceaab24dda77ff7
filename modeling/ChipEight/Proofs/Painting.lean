import ChipEight.Window
import Mathlib.Data.List.GetD

namespace ChipEight

/-!
# What a painted window shows

The pixels of a cell are those whose places, divided by the scale, are those of
the cell, so the cells tile a window without gap or overlap. Squares are painted
in the foreground colour alone, one on top of the other, and paintings add up:
what was painted is the union of the cells. A grid is painted on a window that
is cleared before, which is why what was there before plays no part.

All this is for squares that the window system places where they belong. It does
so for all cells of a window unless their pixels are beyond the 32-bit numbers.
-/

/-- Whether a surface has a pixel in a column and a row. -/
def Surface.Holds
    (surface : Surface)
    (x y : Nat) :
    Prop :=
  x < surface.width ∧ y < surface.height

/-- On a surface in a single colour every pixel has that colour. -/
theorem Surface.pixel?_filled
    {width height : Nat}
    (color : Color)
    {x y : Nat}
    (holds : (filled width height color).Holds x y) :
    (filled width height color).pixel? x y = some color :=
  if_pos holds

/-- The value of a grid in a column and a row; outside the grid there are zeros. -/
def cellOf
    (grid : List (List Int))
    (column row : Nat) :
    Int :=
  (grid.getD row []).getD column 0

/-- A value that is not zero lies in the grid. -/
theorem exists_row_of_cellOf_ne_zero
    {grid : List (List Int)}
    {column row : Nat}
    (lit : cellOf grid column row ≠ 0) :
    row < grid.length ∧ ∃ line ∈ grid, column < line.length := by
  rw [cellOf] at lit
  have rowInside : row < grid.length := by
    refine Nat.not_le.mp fun outside => lit ?_
    rw [List.getD_eq_default grid [] outside]
    rfl
  rw [List.getD_eq_getElem grid [] rowInside] at lit
  exact ⟨rowInside, grid[row], List.getElem_mem rowInside,
    Nat.not_le.mp fun outside => lit (List.getD_eq_default _ 0 outside)⟩

/-- The values that stand for a display. -/
def Display.values
    (display : Display) :
    List (List Int) :=
  display.toLists.map fun row => row.map fun lit => lit.toInt

namespace Display

variable (display : Display)

theorem length_values :
    display.values.length ≤ display.height.toNat := by
  simp [values, toLists]

theorem length_of_mem_values :
    ∀ row ∈ display.values, row.length ≤ display.width.toNat := by
  simp [values, toLists]

theorem isLit_blank
    (width height : Int)
    (column row : Nat) :
    (blank width height).isLit column row = false := by
  by_cases inside : column < width.toNat ∧ row < height.toNat
  · simp [isLit, blank, inside, Vector.get]
  · exact dif_neg inside

/-- The values of a display are ones where it is lit, and zeros elsewhere. -/
theorem cellOf_values
    (column row : Nat) :
    cellOf display.values column row = (display.isLit column row).toInt := by
  have inLists :
      (display.toLists.getD row []).getD column false =
        display.isLit column row := by
    by_cases rowInside : row < display.height.toNat
    · by_cases columnInside : column < display.width.toNat
      · simp [toLists, isLit, rowInside, columnInside]
        rfl
      · simp [toLists, isLit, rowInside, columnInside]
    · simp [toLists, isLit, rowInside]
  calc
    cellOf display.values column row
        = ((display.toLists.map (List.map Bool.toInt)).getD row
            ([].map Bool.toInt)).getD column (Bool.toInt false) := rfl
    _ = (display.isLit column row).toInt := by
        rw [List.getD_map, List.getD_map, inLists]

end Display

namespace Window

/--
Whether a window shows a display: pixels are in the foreground colour
where it is lit.
-/
def Shows
    (window : Window)
    (display : Display) :
    Prop :=
  ∀ x y,
    window.surface.Holds x y →
    (window.surface.pixel? x y = some window.foreground ↔
      display.isLit (x / window.scale.toNat) (y / window.scale.toNat) = true)

/-- The square where a cell belongs. -/
def squareAt
    (window : Window)
    (x y : Nat) :
    Rectangle where
  left := x * window.scale
  top := y * window.scale
  width := window.scale
  height := window.scale

/-- Whether the window system places the square of a cell where it belongs. -/
def Places
    (window : Window)
    (x y : Nat) :
    Prop :=
  window.square? x y = some (window.squareAt x y)

/--
Whether the window system places the squares of some columns and rows
where they belong.
-/
def PlacesSquares
    (window : Window)
    (columns rows : Nat) :
    Prop :=
  ∀ x < columns,
    ∀ y < rows,
      window.Places x y

/-- Whether the window system places all squares that are painted for a grid. -/
def PlacesGrid
    (window : Window)
    (grid : List (List Int)) :
    Prop :=
  ∀ column row,
    cellOf grid column row ≠ 0 →
    window.Places column row

/--
What painting leaves alone: the window is the same but for the colours
of its pixels.
-/
structure Repainted
    (window : Window)
    (painted : Window) : Prop where
  settings :
    painted = { window with surface := painted.surface }
  width :
    painted.surface.width = window.surface.width
  height :
    painted.surface.height = window.surface.height

/--
What becomes of a window on which exactly some cells are painted in the
foreground colour.
-/
structure Painted
    (window : Window)
    (cells : Nat → Nat → Prop)
    (painted : Window) : Prop extends
    window.Repainted painted where
  inside :
    ∀ x y,
      window.surface.Holds x y →
      cells (x / window.scale.toNat) (y / window.scale.toNat) →
      painted.surface.pixel? x y = some window.foreground
  outside :
    ∀ x y,
      window.surface.Holds x y →
      ¬ cells (x / window.scale.toNat) (y / window.scale.toNat) →
      painted.surface.pixel? x y = window.surface.pixel? x y

namespace Repainted

variable {window painted finished : Window}

theorem refl
    (window : Window) :
    window.Repainted window :=
  ⟨rfl, rfl, rfl⟩

theorem trans
    (earlier : window.Repainted painted)
    (later : painted.Repainted finished) :
    window.Repainted finished where
  settings := by
    rw [later.settings, earlier.settings]
  width :=
    later.width.trans earlier.width
  height :=
    later.height.trans earlier.height

theorem scale
    (repainted : window.Repainted painted) :
    painted.scale = window.scale := by
  rw [repainted.settings]

theorem background
    (repainted : window.Repainted painted) :
    painted.background = window.background := by
  rw [repainted.settings]

theorem foreground
    (repainted : window.Repainted painted) :
    painted.foreground = window.foreground := by
  rw [repainted.settings]

theorem holds_iff
    (repainted : window.Repainted painted)
    (x y : Nat) :
    painted.surface.Holds x y ↔ window.surface.Holds x y := by
  rw [Surface.Holds, Surface.Holds, repainted.width, repainted.height]

/-- Painting does not change where the window system places squares. -/
theorem places
    (repainted : window.Repainted painted)
    {x y : Nat}
    (placed : window.Places x y) :
    painted.Places x y := by
  rw [Places, square?, squareAt] at placed ⊢
  rw [repainted.scale]
  exact placed

theorem placesSquares
    (repainted : window.Repainted painted)
    {columns rows : Nat}
    (places : window.PlacesSquares columns rows) :
    painted.PlacesSquares columns rows :=
  fun x xInside y yInside => repainted.places (places x xInside y yInside)

theorem placesGrid
    (repainted : window.Repainted painted)
    {grid : List (List Int)}
    (places : window.PlacesGrid grid) :
    painted.PlacesGrid grid :=
  fun column row lit => repainted.places (places column row lit)

end Repainted

namespace Painted

variable {window painted finished : Window}
  {cells others : Nat → Nat → Prop}

theorem refl
    (window : Window) :
    window.Painted (fun _ _ => False) window where
  toRepainted := Repainted.refl window
  inside _ _ _ := False.elim
  outside _ _ _ _ := rfl

/-- Paintings one after the other add up. -/
theorem trans
    (earlier : window.Painted cells painted)
    (later : painted.Painted others finished) :
    window.Painted
      (fun column row => cells column row ∨ others column row)
      finished where
  toRepainted :=
    earlier.toRepainted.trans later.toRepainted
  inside x y holds someCell := by
    have holdsPainted := (earlier.holds_iff x y).mpr holds
    by_cases again :
        others (x / painted.scale.toNat) (y / painted.scale.toNat)
    · rw [later.inside x y holdsPainted again, earlier.foreground]
    · rw [later.outside x y holdsPainted again]
      rw [earlier.scale] at again
      exact earlier.inside x y holds (someCell.resolve_right again)
  outside x y holds noCell := by
    have ⟨notEarlier, notLater⟩ := not_or.mp noCell
    rw [← earlier.scale] at notLater
    rw [later.outside x y ((earlier.holds_iff x y).mpr holds) notLater]
    rw [earlier.outside x y holds notEarlier]

theorem congr
    (painting : window.Painted cells painted)
    (same : ∀ column row, cells column row ↔ others column row) :
    window.Painted others painted where
  toRepainted := painting.toRepainted
  inside x y holds isCell :=
    painting.inside x y holds ((same _ _).mpr isCell)
  outside x y holds notCell :=
    painting.outside x y holds fun isCell => notCell ((same _ _).mp isCell)

end Painted

/--
A pixel lies in the square of the cell to which its place is led by the scale.
-/
theorem spans_squareAt_iff
    {window : Window}
    (positive : 1 ≤ window.scale)
    (x y pixelX pixelY : Nat) :
    ((window.squareAt x y).spansColumn pixelX = true ∧
        (window.squareAt x y).spansRow pixelY = true) ↔
      pixelX / window.scale.toNat = x ∧ pixelY / window.scale.toNat = y := by
  obtain ⟨scale, sameScale⟩ :=
    Int.eq_ofNat_of_zero_le (Int.le_trans Int.one_nonneg positive)
  have scalePositive : 0 < scale := by omega
  simp only [squareAt, Rectangle.spansColumn, Rectangle.spansRow, sameScale,
    Bool.and_eq_true, decide_eq_true_eq, Int.toNat_natCast,
    Nat.div_eq_iff scalePositive]
  norm_cast
  omega

/-- The window system places all squares whose pixels it has numbers for. -/
theorem placesSquares_of_lt
    {window : Window}
    (positive : 1 ≤ window.scale)
    {columns rows : Nat}
    (narrow : columns * window.scale < 0x80000000)
    (low : rows * window.scale < 0x80000000) :
    window.PlacesSquares columns rows := by
  have kept {number : Int} (lower : 0 ≤ number) (upper : number < 0x80000000) :
      halfWord? number = some number := by
    have fits : fitsWord number = true :=
      (fitsWord_iff number).mpr (by simp only [wordLimit]; omega)
    rw [halfWord?, if_pos fits,
      Int.bmod_eq_of_le_mul_two (by simp only [halfWordSize]; omega)
        (by simp only [halfWordSize]; omega)]
  have nonnegative : 0 ≤ window.scale := Int.le_trans Int.one_nonneg positive
  have multiple {count number : Nat}
      (isPart : count ≤ number)
      (upper : number * window.scale < 0x80000000) :
      halfWord? (count * window.scale) = some (count * window.scale) := by
    refine kept (Int.mul_nonneg (Int.natCast_nonneg count) nonnegative) ?_
    calc
      count * window.scale ≤ number * window.scale :=
        Int.mul_le_mul_of_nonneg_right (Int.ofNat_le.mpr isPart) nonnegative
      _ < 0x80000000 := upper
  intro x xInside y yInside
  have side : halfWord? window.scale = some window.scale := by
    have once := multiple (Nat.one_le_of_lt xInside) narrow
    rwa [Int.natCast_one, Int.one_mul] at once
  rw [Places, square?, multiple (Nat.le_of_lt xInside) narrow,
    multiple (Nat.le_of_lt yInside) low, side]
  rfl

theorem PlacesSquares.placesGrid
    {window : Window}
    {columns rows : Nat}
    (places : window.PlacesSquares columns rows)
    {grid : List (List Int)}
    (narrow : ∀ row ∈ grid, row.length ≤ columns)
    (low : grid.length ≤ rows) :
    window.PlacesGrid grid := by
  intro column row lit
  obtain ⟨rowInside, line, member, columnInside⟩ :=
    exists_row_of_cellOf_ne_zero lit
  exact places column (Nat.lt_of_lt_of_le columnInside (narrow line member))
    row (Nat.lt_of_lt_of_le rowInside low)

/-- A window just created shows a display without a lit pixel. -/
theorem shows_blank_of_create
    {columns rows scale : Int}
    {background foreground : Color}
    (distinct : background ≠ foreground)
    {window : Window}
    (created :
      create columns rows scale background foreground = .ok window)
    (width height : Int) :
    window.Shows (Display.blank width height) := by
  rw [create] at created
  cases size : surfaceSize (columns * scale) (rows * scale) with
  | error fault =>
      rw [size] at created
      cases created
  | ok sides =>
      rw [size] at created
      cases created
      intro x y holds
      rw [Display.isLit_blank, Surface.pixel?_filled background holds]
      simpa using distinct

end Window

namespace Painting

open Window

variable {window : Window}

/-- Painting a cell in the foreground colour paints its square. -/
theorem run_paintCell
    {x y : Nat}
    (placed : window.Places x y) :
    (paintCell x y 1).run window =
      .ok () { window with
        surface :=
          window.surface.paint (window.squareAt x y) window.foreground } := by
  rw [Places] at placed
  simp [paintCell, placed]

theorem painted_paintCell
    (positive : 1 ≤ window.scale)
    {x y : Nat}
    (placed : window.Places x y) :
    ∃ painted,
      (paintCell x y 1).run window = .ok () painted ∧
        window.Painted (fun column row => column = x ∧ row = y) painted := by
  refine ⟨_, run_paintCell placed, ⟨rfl, rfl, rfl⟩, ?inside, ?outside⟩
  case inside =>
    intro pixelX pixelY holds isCell
    rw [Surface.pixel?_paint _ _ _ holds,
      if_pos ((spans_squareAt_iff positive x y pixelX pixelY).mpr isCell)]
  case outside =>
    intro pixelX pixelY holds notCell
    rw [Surface.pixel?_paint _ _ _ holds,
      if_neg (mt (spans_squareAt_iff positive x y pixelX pixelY).mp notCell)]

/-- A painting goes on from what an earlier one left. -/
theorem run_seq
    {first second : Painting Unit}
    {painted : Window}
    (ran : first.run window = .ok () painted) :
    (do first; second).run window = second.run painted := by
  simp [ran]

/-- A place is the first one, or one behind it. -/
theorem exists_place_iff
    (start column : Nat)
    (holds : Nat → Prop) :
    (∃ place, column = start + place ∧ holds place) ↔
      (column = start ∧ holds 0) ∨
        ∃ place, column = start + 1 + place ∧ holds (place + 1) := by
  constructor
  · rintro ⟨place, rfl, held⟩
    cases place with
    | zero => exact Or.inl ⟨rfl, held⟩
    | succ place => exact Or.inr ⟨place, by omega, held⟩
  · rintro (⟨rfl, held⟩ | ⟨place, rfl, held⟩)
    · exact ⟨0, rfl, held⟩
    · exact ⟨place + 1, by omega, held⟩

/-- Painting a row from a column on paints its cells that are not zero. -/
theorem painted_paintCells
    (positive : 1 ≤ window.scale)
    {x y : Nat}
    {row : List Int}
    (places : ∀ place, row.getD place 0 ≠ 0 → window.Places (x + place) y) :
    ∃ painted,
      (paintCells y x row).run window = .ok () painted ∧
        window.Painted
          (fun column line =>
            line = y ∧
              ∃ place, column = x + place ∧ row.getD place 0 ≠ 0)
          painted := by
  induction row generalizing window x with
  | nil =>
      refine ⟨window, rfl, (Painted.refl window).congr fun column line => ?_⟩
      simp
  | cons value rest inductionHypothesis =>
      have placesRest (place : Nat) (lit : rest.getD place 0 ≠ 0) :
          window.Places (x + 1 + place) y := by
        rw [Nat.add_right_comm]
        exact places (place + 1) lit
      by_cases dark : value = 0
      · obtain ⟨painted, ran, painting⟩ :=
          inductionHypothesis positive placesRest
        refine ⟨painted, ?_, painting.congr fun column line => ?_⟩
        · rw [paintCells, if_neg (not_not.mpr dark)]
          exact ran
        · rw [exists_place_iff x column fun place =>
            (value :: rest).getD place 0 ≠ 0]
          simp [dark]
      · obtain ⟨first, ranFirst, paintingFirst⟩ :=
          painted_paintCell positive (places 0 dark)
        obtain ⟨painted, ran, painting⟩ :=
          inductionHypothesis (paintingFirst.scale ▸ positive)
            fun place lit => paintingFirst.places (placesRest place lit)
        refine ⟨painted, ?_,
          (paintingFirst.trans painting).congr fun column line => ?_⟩
        · rw [paintCells, if_pos dark]
          exact (run_seq ranFirst).trans ran
        · rw [exists_place_iff x column fun place =>
            (value :: rest).getD place 0 ≠ 0]
          simp only [List.getD_cons_zero, List.getD_cons_succ]
          grind

/-- Painting rows from one on paints their cells that are not zero. -/
theorem painted_paintRows
    (positive : 1 ≤ window.scale)
    {y : Nat}
    {grid : List (List Int)}
    (places :
      ∀ column place,
        cellOf grid column place ≠ 0 →
        window.Places column (y + place)) :
    ∃ painted,
      (paintRows y grid).run window = .ok () painted ∧
        window.Painted
          (fun column line =>
            ∃ place, line = y + place ∧ cellOf grid column place ≠ 0)
          painted := by
  induction grid generalizing window y with
  | nil =>
      refine ⟨window, rfl, (Painted.refl window).congr fun column line => ?_⟩
      simp [cellOf]
  | cons row rest inductionHypothesis =>
      have placesRow (place : Nat) (lit : row.getD place 0 ≠ 0) :
          window.Places (0 + place) y := by
        rw [Nat.zero_add]
        exact places place 0 lit
      have placesRest (column place : Nat) (lit : cellOf rest column place ≠ 0) :
          window.Places column (y + 1 + place) := by
        rw [Nat.add_right_comm]
        exact places column (place + 1) lit
      obtain ⟨first, ranFirst, paintingFirst⟩ :=
        painted_paintCells positive placesRow
      obtain ⟨painted, ran, painting⟩ :=
        inductionHypothesis (paintingFirst.scale ▸ positive)
          fun column place lit =>
            paintingFirst.places (placesRest column place lit)
      refine ⟨painted, (run_seq ranFirst).trans ran,
        (paintingFirst.trans painting).congr fun column line => ?_⟩
      rw [exists_place_iff y line fun place =>
        cellOf (row :: rest) column place ≠ 0]
      simp only [cellOf, List.getD_cons_zero, List.getD_cons_succ,
        Nat.zero_add, exists_eq_left']

/-- A grid that is painted is shown, whatever was painted on the window before. -/
theorem exists_run_paintGrid
    (positive : 1 ≤ window.scale)
    {grid : List (List Int)}
    (places : window.PlacesGrid grid) :
    ∃ painted,
      (paintGrid grid).run window = .ok () painted ∧
        window.Repainted painted ∧
        ∀ x y,
          window.surface.Holds x y →
          painted.surface.pixel? x y =
            some
              (if cellOf grid (x / window.scale.toNat)
                    (y / window.scale.toNat) ≠ 0 then
                window.foreground
              else
                window.background) := by
  let cleared : Window :=
    { window with surface := window.surface.fill window.background }
  have ranClear : clear.run window = .ok () cleared := rfl
  have emptied : window.Repainted cleared := ⟨rfl, rfl, rfl⟩
  have positiveCleared : 1 ≤ cleared.scale := positive
  have placesCleared (column place : Nat) (lit : cellOf grid column place ≠ 0) :
      cleared.Places column (0 + place) := by
    rw [Nat.zero_add]
    exact places column place lit
  obtain ⟨painted, ran, painting⟩ :=
    painted_paintRows positiveCleared placesCleared
  refine ⟨painted, (run_seq ranClear).trans ran,
    emptied.trans painting.toRepainted, fun x y holds => ?_⟩
  split
  · next lit =>
      exact painting.inside x y holds ⟨_, (Nat.zero_add _).symm, lit⟩
  · next dark =>
      rw [painting.outside x y holds]
      · exact Surface.pixel?_filled window.background holds
      · rintro ⟨place, isPlace, lit⟩
        rw [Nat.zero_add] at isPlace
        rw [← isPlace] at lit
        exact dark lit

/-- A display that is painted is shown. -/
theorem exists_run_paintDisplay
    (positive : 1 ≤ window.scale)
    (distinct : window.background ≠ window.foreground)
    (display : Display)
    (places :
      window.PlacesSquares display.width.toNat display.height.toNat) :
    ∃ painted,
      (paintDisplay display).run window = .ok () painted ∧
        window.Repainted painted ∧
        painted.Shows display := by
  obtain ⟨painted, ran, repainted, shown⟩ :=
    exists_run_paintGrid positive
      (places.placesGrid display.length_of_mem_values display.length_values)
  refine ⟨painted, ran, repainted, fun x y holds => ?_⟩
  rw [shown x y ((repainted.holds_iff x y).mp holds), repainted.foreground,
    repainted.scale, Display.cellOf_values]
  cases display.isLit (x / window.scale.toNat) (y / window.scale.toNat) with
  | true => simp
  | false => simp [distinct]

end Painting

end ChipEight
