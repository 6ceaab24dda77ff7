import ChipEight.Proofs.Painting

namespace ChipEight

/-!
# Painting grids of any shape

A grid that is painted may have rows of any lengths, and more or fewer of them
than the window has. What of it lies on the window is shown cell by cell, what
is missing counts as zero, and what lies beyond is cut off. Nothing else plays a
part in the picture: neither what the window showed before nor the part of the
grid that is cut off.
-/

namespace Window

variable {window other : Window} {columns rows scale : Nat}

/-- Windows that look the same: every pixel has the same colour on both. -/
def SamePicture
    (window other : Window) :
    Prop :=
  ∀ x y, window.surface.pixel? x y = other.surface.pixel? x y

/--
A window of some columns and rows of square cells, which cover all of
its surface.
-/
structure Tiled
    (window : Window)
    (columns rows scale : Nat) : Prop where
  positive :
    1 ≤ scale
  sameScale :
    window.scale = scale
  width :
    window.surface.width = columns * scale
  height :
    window.surface.height = rows * scale

namespace Tiled

theorem holds_iff
    (tiled : window.Tiled columns rows scale)
    (x y : Nat) :
    window.surface.Holds x y ↔ x < columns * scale ∧ y < rows * scale := by
  rw [Surface.Holds, tiled.width, tiled.height]

/-- Every pixel lies in a cell. -/
theorem cell_inside
    (tiled : window.Tiled columns rows scale)
    {x y : Nat}
    (holds : window.surface.Holds x y) :
    x / scale < columns ∧ y / scale < rows := by
  obtain ⟨inColumns, inRows⟩ := (tiled.holds_iff x y).mp holds
  rw [Nat.mul_comm] at inColumns inRows
  exact ⟨Nat.div_lt_of_lt_mul inColumns, Nat.div_lt_of_lt_mul inRows⟩

end Tiled

theorem Repainted.symm
    (repainted : window.Repainted other) :
    other.Repainted window where
  settings := by
    rw [repainted.settings]
  width := repainted.width.symm
  height := repainted.height.symm

/--
Windows that differ in their colours look the same if no pixel shows the
difference.
-/
theorem Repainted.samePicture
    (repainted : window.Repainted other)
    (same :
      ∀ x y,
        window.surface.Holds x y →
        window.surface.pixel? x y = other.surface.pixel? x y) :
    window.SamePicture other := by
  intro x y
  by_cases holds : window.surface.Holds x y
  · exact same x y holds
  · have notOther := mt (repainted.holds_iff x y).mp holds
    exact (if_neg holds).trans (if_neg notOther).symm

end Window

namespace Painting

open Window

variable {window other : Window} {columns rows scale : Nat}

/-- On a tiled window the pixels of a grid that is painted are found by division. -/
theorem exists_run_paintGrid_of_tiled
    (tiled : window.Tiled columns rows scale)
    {grid : List (List Int)}
    (places : window.PlacesGrid grid) :
    ∃ painted,
      (paintGrid grid).run window = .ok () painted ∧
        window.Repainted painted ∧
        ∀ x y,
          window.surface.Holds x y →
          painted.surface.pixel? x y =
            some
              (if cellOf grid (x / scale) (y / scale) ≠ 0 then
                window.foreground
              else
                window.background) := by
  have positive : 1 ≤ window.scale := by
    rw [tiled.sameScale]
    exact Int.ofNat_le.mpr tiled.positive
  have sameScale : window.scale.toNat = scale := by
    rw [tiled.sameScale, Int.toNat_natCast]
  have painting := exists_run_paintGrid positive places
  rwa [sameScale] at painting

/-- What is painted over is forgotten, and so is what is cut off. -/
theorem exists_run_paintGrid_of_agree
    (tiled : window.Tiled columns rows scale)
    {grid : List (List Int)}
    (places : window.PlacesGrid grid)
    {painted : Window}
    (ran : (paintGrid grid).run window = .ok () painted)
    (repainted : window.Repainted other)
    {gridToo : List (List Int)}
    (placesToo : window.PlacesGrid gridToo)
    (agree :
      ∀ column < columns,
        ∀ row < rows,
          cellOf grid column row ≠ 0 ↔ cellOf gridToo column row ≠ 0) :
    ∃ paintedToo,
      (paintGrid gridToo).run other = .ok () paintedToo ∧
        painted.SamePicture paintedToo := by
  have tiledToo : other.Tiled columns rows scale :=
    ⟨tiled.positive, repainted.scale.trans tiled.sameScale,
      repainted.width.trans tiled.width, repainted.height.trans tiled.height⟩
  obtain ⟨found, ranFound, byPainting, shown⟩ :=
    exists_run_paintGrid_of_tiled tiled places
  obtain rfl : painted = found := by
    injection ran.symm.trans ranFound
  obtain ⟨paintedToo, ranToo, byPaintingToo, shownToo⟩ :=
    exists_run_paintGrid_of_tiled tiledToo (repainted.placesGrid placesToo)
  have between : painted.Repainted paintedToo :=
    byPainting.symm.trans (repainted.trans byPaintingToo)
  refine ⟨paintedToo, ranToo, between.samePicture fun x y holds => ?_⟩
  have holdsBefore := (byPainting.holds_iff x y).mp holds
  have ⟨inColumns, inRows⟩ := tiled.cell_inside holdsBefore
  rw [shown x y holdsBefore,
    shownToo x y ((repainted.holds_iff x y).mpr holdsBefore),
    repainted.foreground, repainted.background]
  simp only [agree _ inColumns _ inRows]

/--
A grid that is painted is shown as it is, cell by cell, and nothing besides.

The rows may have any lengths, and the window any scale and any picture on it;
the window system is only taken to place squares where they belong. The picture
is the same over any other picture, also over that of the grid itself, and the
same for grids that agree on the columns and rows of the window, where cells that
are missing agree with zeros.
-/
theorem painting_shows_exactly_its_grid
    (window : Window)
    (columns rows scale : Nat)
    (tiled : window.Tiled columns rows scale)
    (grid : List (List Int))
    (places : window.PlacesGrid grid) :
    ∃ painted,
      (paintGrid grid).run window = .ok () painted ∧
        window.Repainted painted ∧
        (∀ x < columns * scale,
          ∀ y < rows * scale,
            painted.surface.pixel? x y =
              some
                (if cellOf grid (x / scale) (y / scale) ≠ 0 then
                  window.foreground
                else
                  window.background)) ∧
        (∀ other,
          window.Repainted other →
          ∃ paintedToo,
            (paintGrid grid).run other = .ok () paintedToo ∧
              painted.SamePicture paintedToo) ∧
        (∃ again,
          (paintGrid grid).run painted = .ok () again ∧
            painted.SamePicture again) ∧
        ∀ gridToo,
          window.PlacesGrid gridToo →
          (∀ column < columns,
            ∀ row < rows,
              cellOf grid column row = cellOf gridToo column row) →
          ∃ paintedToo,
            (paintGrid gridToo).run window = .ok () paintedToo ∧
              painted.SamePicture paintedToo := by
  obtain ⟨painted, ran, repainted, shown⟩ :=
    exists_run_paintGrid_of_tiled tiled places
  have overPicture (other : Window) (repaintedToo : window.Repainted other) :
      ∃ paintedToo,
        (paintGrid grid).run other = .ok () paintedToo ∧
          painted.SamePicture paintedToo :=
    exists_run_paintGrid_of_agree tiled places ran repaintedToo places
      fun _ _ _ _ => Iff.rfl
  refine ⟨painted, ran, repainted, ?pixels, overPicture,
    overPicture painted repainted, ?cutOff⟩
  case pixels =>
    intro x inColumns y inRows
    exact shown x y ((tiled.holds_iff x y).mpr ⟨inColumns, inRows⟩)
  case cutOff =>
    intro gridToo placesToo agree
    refine exists_run_paintGrid_of_agree tiled places ran (.refl window)
      placesToo fun column inColumns row inRows => ?_
    rw [agree column inColumns row inRows]

/-- A dark and a lit cell are shown; a third one and another row are cut off. -/
theorem painting_shows_exactly_its_grid_of_two_cells :
    let grid : List (List Int) := [[0, 1, 1], [1]]
    ∃ window painted paintedToo,
      Window.create 2 1 3 defaultBackground defaultForeground = .ok window ∧
        window.Tiled 2 1 3 ∧
        window.PlacesGrid grid ∧
        (paintGrid grid).run window = .ok () painted ∧
        painted.surface.pixel? 2 2 = some defaultBackground ∧
        painted.surface.pixel? 3 2 = some defaultForeground ∧
        window.PlacesGrid [[0, 1]] ∧
        (paintGrid [[0, 1]]).run window = .ok () paintedToo ∧
        painted.SamePicture paintedToo := by
  intro grid
  obtain ⟨window, created, tiled, placesSquares, background, foreground⟩ :
      ∃ window,
        Window.create 2 1 3 defaultBackground defaultForeground = .ok window ∧
          window.Tiled 2 1 3 ∧
          window.PlacesSquares 3 2 ∧
          window.background = defaultBackground ∧
          window.foreground = defaultForeground := by
    refine ⟨_, rfl, ⟨by decide, rfl, rfl, rfl⟩, ?_, rfl, rfl⟩
    exact Window.placesSquares_of_lt (by decide) (by decide) (by decide)
  have places : window.PlacesGrid grid :=
    placesSquares.placesGrid (by decide) (by decide)
  have placesToo : window.PlacesGrid [[0, 1]] :=
    placesSquares.placesGrid (by decide) (by decide)
  obtain ⟨painted, ran, -, shown, -, -, cutOff⟩ :=
    painting_shows_exactly_its_grid window 2 1 3 tiled grid places
  obtain ⟨paintedToo, ranToo, same⟩ :=
    cutOff [[0, 1]] placesToo (by decide)
  have dark := shown 2 (by decide) 2 (by decide)
  have lit := shown 3 (by decide) 2 (by decide)
  rw [background] at dark
  rw [foreground] at lit
  exact ⟨window, painted, paintedToo, created, tiled, places, ran, dark, lit,
    placesToo, ranToo, same⟩

end Painting

end ChipEight
