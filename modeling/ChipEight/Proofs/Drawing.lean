import ChipEight.Machine.State
import ChipEight.Proofs.Actions
import Mathlib.Algebra.BigOperators.Ring.Finset
import Mathlib.Algebra.Order.BigOperators.Group.Finset
import Mathlib.Data.Int.Bitwise

namespace ChipEight

/-!
# Drawing by counting

A sprite strikes a pixel of the display once for each of its set bits that
lands on it, and on a small display several bits land on one pixel. How a
drawing turns out depends on nothing but the number of strikes: a pixel ends up
lit when its old state and its strikes add up to an odd number, and something
was turned off when they add up to two or more somewhere. This is invariant
under drawing in several steps, since strikes add up.
-/

namespace Display

/-- Whether a display has a pixel in a column and a row. -/
def Holds
    (display : Display)
    (column row : Nat) :
    Prop :=
  column < display.width.toNat ∧ row < display.height.toNat

/--
What becomes of a display whose pixels are struck a number of times each.

The flag tells whether a strike turned a lit pixel off.
-/
structure Struck
    (display : Display)
    (strikes : Nat → Nat → Nat)
    (drawn : Display)
    (erased : Bool) : Prop where
  width :
    drawn.width = display.width
  height :
    drawn.height = display.height
  pixels :
    ∀ column row,
      display.Holds column row →
      (drawn.isLit column row).toNat =
        ((display.isLit column row).toNat + strikes column row) % 2
  erasure :
    erased = true ↔
      ∃ column row,
        display.Holds column row ∧
          2 ≤ (display.isLit column row).toNat + strikes column row

namespace Struck

theorem refl
    (display : Display) :
    display.Struck (fun _ _ => 0) display false where
  width :=
    rfl
  height :=
    rfl
  pixels column row _ := by
    cases display.isLit column row <;> rfl
  erasure := by
    constructor
    · intro impossible
      cases impossible
    · rintro ⟨column, row, -, twice⟩
      have atMostOne := Bool.toNat_le (display.isLit column row)
      omega

/-- Strikes in two steps add up. -/
theorem trans
    {display drawn finished : Display}
    {first second : Nat → Nat → Nat}
    {erased erasedLater : Bool}
    (earlier : display.Struck first drawn erased)
    (later : drawn.Struck second finished erasedLater) :
    display.Struck
      (fun column row => first column row + second column row)
      finished (erased || erasedLater) where
  width :=
    later.width.trans earlier.width
  height :=
    later.height.trans earlier.height
  pixels column row inside := by
    have insideDrawn : drawn.Holds column row := by
      simpa only [Holds, earlier.width, earlier.height] using inside
    rw [later.pixels column row insideDrawn, earlier.pixels column row inside]
    omega
  erasure := by
    have samePlaces (column row : Nat) :
        drawn.Holds column row ↔ display.Holds column row := by
      simp only [Holds, earlier.width, earlier.height]
    simp only [Bool.or_eq_true, earlier.erasure, later.erasure, samePlaces]
    -- A pixel that was not struck twice in the first step is lit as often as
    -- its strikes say, so the second step sees the whole sum.
    constructor
    · rintro (⟨column, row, inside, twice⟩ | ⟨column, row, inside, twice⟩)
      · exact ⟨column, row, inside, by omega⟩
      · rw [earlier.pixels column row inside] at twice
        exact ⟨column, row, inside, by omega⟩
    · rintro ⟨column, row, inside, twice⟩
      by_cases already :
          2 ≤ (display.isLit column row).toNat + first column row
      · exact Or.inl ⟨column, row, inside, already⟩
      · refine Or.inr ⟨column, row, inside, ?_⟩
        rw [earlier.pixels column row inside]
        omega

theorem congr
    {display drawn : Display}
    {first second : Nat → Nat → Nat}
    {erased : Bool}
    (struck : display.Struck first drawn erased)
    (same :
      ∀ column row,
        display.Holds column row →
        first column row = second column row) :
    display.Struck second drawn erased where
  width :=
    struck.width
  height :=
    struck.height
  pixels column row inside := by
    rw [struck.pixels column row inside, same column row inside]
  erasure := by
    rw [struck.erasure]
    constructor
    · rintro ⟨column, row, inside, twice⟩
      exact ⟨column, row, inside, by rwa [← same column row inside]⟩
    · rintro ⟨column, row, inside, twice⟩
      exact ⟨column, row, inside, by rwa [same column row inside]⟩

end Struck

namespace Dot

/-- Whether a dot has ink that lands in a column and a row of a torus. -/
def lands
    (dot : Dot)
    (width height : Int)
    (column row : Nat) :
    Bool :=
  dot.ink && dot.x % width = column && dot.y % height = row

end Dot

theorem isLit_of_holds
    (display : Display)
    (column : Fin display.width.toNat)
    (row : Fin display.height.toNat) :
    display.isLit column row = (display.rows.get row).get column :=
  dif_pos ⟨column.isLt, row.isLt⟩

/-- Changing a pixel gives it the new state and leaves all others alone. -/
theorem isLit_setPixel
    (display : Display)
    (place : Fin display.width.toNat)
    (line : Fin display.height.toNat)
    (lit : Bool)
    {column row : Nat}
    (inside : display.Holds column row) :
    (display.setPixel place line lit).isLit column row =
      if place = column ∧ line = row then
        lit
      else
        display.isLit column row := by
  obtain ⟨columnInside, rowInside⟩ := inside
  have after :
      (display.setPixel place line lit).isLit column row =
        (display.rows.set line (display.rows[line].set place lit))[row][column] :=
    dif_pos ⟨columnInside, rowInside⟩
  have before :
      display.isLit column row = display.rows[row][column] :=
    dif_pos ⟨columnInside, rowInside⟩
  rw [after, before]
  simp only [Fin.getElem_fin, Vector.getElem_set]
  by_cases sameRow : (line : Nat) = row
  · by_cases sameColumn : (place : Nat) = column
    · simp [sameRow, sameColumn]
    · simp [sameRow, sameColumn]
  · simp [sameRow]

/-- A dot flips the pixel at its wrapped coordinates when it has ink. -/
theorem drawDot_eq
    (display : Display)
    (wide : 0 < display.width)
    (tall : 0 < display.height)
    (dot : Dot) :
    ∃ (place : Fin display.width.toNat) (line : Fin display.height.toNat),
      dot.x % display.width = place ∧
        dot.y % display.height = line ∧
        display.drawDot dot =
          .ok
            (display.setPixel place line (display.isLit place line ^^ dot.ink),
              display.isLit place line && dot.ink) := by
  have noZero : ¬ (display.width = 0 ∨ display.height = 0) := by omega
  have column := Int.emod_nonneg dot.x (Int.ne_of_gt wide)
  have row := Int.emod_nonneg dot.y (Int.ne_of_gt tall)
  refine ⟨wrap display.width wide dot.x, wrap display.height tall dot.y,
    by simp only [wrap]; omega, by simp only [wrap]; omega, ?_⟩
  rw [drawDot, if_neg noZero, dif_pos ⟨wide, tall⟩, isLit_of_holds]
  rfl

/-- Drawing a dot strikes the pixel that it lands on. -/
theorem struck_drawDot
    (display : Display)
    (wide : 0 < display.width)
    (tall : 0 < display.height)
    (dot : Dot) :
    ∃ drawn erased,
      display.drawDot dot = .ok (drawn, erased) ∧
        display.Struck
          (fun column row =>
            (dot.lands display.width display.height column row).toNat)
          drawn erased := by
  obtain ⟨place, line, atColumn, atRow, drawing⟩ :=
    drawDot_eq display wide tall dot
  have landing (column row : Nat) :
      dot.lands display.width display.height column row =
        (dot.ink && decide ((place : Nat) = column ∧ (line : Nat) = row)) := by
    simp only [Dot.lands, atColumn, atRow, Int.natCast_inj, Bool.decide_and,
      Bool.and_assoc]
  refine ⟨_, _, drawing, ?_⟩
  refine { width := rfl, height := rfl, pixels := ?_, erasure := ?_ }
  · intro column row inside
    rw [isLit_setPixel display place line _ inside, landing column row]
    by_cases same : (place : Nat) = column ∧ (line : Nat) = row
    · obtain ⟨rfl, rfl⟩ := same
      cases display.isLit place line <;> cases dot.ink <;> simp
    · cases display.isLit column row <;> simp [same]
  · simp only [landing]
    constructor
    · intro erased
      refine ⟨place, line, ⟨place.isLt, line.isLt⟩, ?_⟩
      obtain ⟨lit, ink⟩ := Bool.and_eq_true_iff.mp erased
      simp [lit, ink]
    · rintro ⟨column, row, -, twice⟩
      by_cases same : (place : Nat) = column ∧ (line : Nat) = row
      · obtain ⟨rfl, rfl⟩ := same
        cases lit : display.isLit place line <;> cases ink : dot.ink <;>
          simp_all
      · have atMostOne := Bool.toNat_le (display.isLit column row)
        simp only [same, decide_false, Bool.and_false, Bool.toNat_false] at twice
        omega

/-- The number of dots that land in a column and a row. -/
def strikes
    (dots : List Dot)
    (width height : Int)
    (column row : Nat) :
    Nat :=
  dots.countP fun dot => dot.lands width height column row

/-- Drawing dots strikes every pixel as often as dots land on it. -/
theorem struck_drawDots
    (display : Display)
    (wide : 0 < display.width)
    (tall : 0 < display.height)
    (dots : List Dot) :
    ∃ drawn erased,
      display.drawDots dots = .ok (drawn, erased) ∧
        display.Struck (strikes dots display.width display.height)
          drawn erased := by
  induction dots generalizing display with
  | nil =>
      exact ⟨display, false, rfl, Struck.refl display⟩
  | cons dot rest inductionHypothesis =>
      obtain ⟨drawn, erased, drawing, struck⟩ :=
        struck_drawDot display wide tall dot
      obtain ⟨finished, erasedLater, later, struckLater⟩ :=
        inductionHypothesis drawn
          (by rw [struck.width]; exact wide)
          (by rw [struck.height]; exact tall)
      refine ⟨finished, erased || erasedLater, ?_, ?_⟩
      · simp only [drawDots, drawing, later, bind, Except.bind]
        rfl
      · refine (struck.trans struckLater).congr ?_
        intro column row _
        simp only [strikes, List.countP_cons, struck.width, struck.height]
        rw [Nat.add_comm]
        cases dot.lands display.width display.height column row <;> rfl

theorem bit_eq_testBit
    (value : Int)
    (place : Nat) :
    bit value place = value.testBit place := by
  cases value with
  | ofNat value =>
      simp only [bit, Int.testBit, Nat.testBit_eq_decide_div_mod_eq,
        Int.ofNat_eq_natCast, Int.shiftRight_eq_div_pow]
      congr 1
      norm_cast
  | negSucc value =>
      have flipped (half : Nat) :
          Int.negSucc half % 2 = 1 ↔ ¬ half % 2 = 1 := by omega
      simp only [bit, Int.testBit, Nat.testBit_eq_decide_div_mod_eq,
        Int.negSucc_shiftRight, Nat.shiftRight_eq_div_pow, flipped,
        decide_not]

/--
How many set bits of a sprite land in a column and a row of a torus.

The sprite has a row of eight bits to a number, the highest bit on the left, and
its top left corner is at the given coordinates.
-/
def hits
    (sprite : List Int)
    (x y width height : Int)
    (column row : Nat) :
    Nat :=
  ((Finset.range sprite.length ×ˢ Finset.range 8).filter fun place =>
      (sprite.getD place.1 0).testBit (7 - place.2) ∧
        (x + place.2) % width = column ∧
        (y + place.1) % height = row).card

theorem countP_range
    (condition : Nat → Bool)
    (count : Nat) :
    (List.range count).countP condition =
      ∑ place ∈ Finset.range count, if condition place then 1 else 0 := by
  induction count with
  | zero =>
      rfl
  | succ count inductionHypothesis =>
      rw [List.range_succ, List.countP_append, inductionHypothesis,
        Finset.sum_range_succ, List.countP_singleton]

/-- The dots of a row that land on a pixel. -/
theorem strikes_rowDots
    (pattern x y width height : Int)
    (column row : Nat) :
    strikes (rowDots pattern x y) width height column row =
      ∑ place ∈ Finset.range 8,
        if pattern.testBit (7 - place) ∧
            (x + place) % width = column ∧ y % height = row then
          1
        else
          0 := by
  simp only [strikes, rowDots, List.countP_map, countP_range,
    Function.comp_apply, Dot.lands, bit_eq_testBit, Bool.and_eq_true,
    decide_eq_true_eq, and_assoc]

/-- The dots of a sprite land on a pixel as often as its set bits do. -/
theorem strikes_spriteDots
    (sprite : List Int)
    (x y width height : Int)
    (column row : Nat) :
    strikes (spriteDots x y sprite) width height column row =
      hits sprite x y width height column row := by
  rw [hits, Finset.card_filter, Finset.sum_product]
  induction sprite generalizing y with
  | nil =>
      rfl
  | cons pattern rest inductionHypothesis =>
      rw [List.length_cons, Finset.sum_range_succ', spriteDots, strikes,
        List.countP_append, ← strikes, ← strikes, strikes_rowDots,
        inductionHypothesis, Nat.add_comm]
      simp [Int.add_assoc, Int.add_comm 1]

/-- Drawing a sprite strikes every pixel as often as set bits land on it. -/
theorem struck_draw
    (display : Display)
    (wide : 0 < display.width)
    (tall : 0 < display.height)
    (sprite : List Int)
    (x y : Int) :
    ∃ drawn erased,
      display.draw sprite x y = .ok (drawn, erased) ∧
        display.Struck (hits sprite x y display.width display.height)
          drawn erased := by
  obtain ⟨drawn, erased, drawing, struck⟩ :=
    struck_drawDots display wide tall (spriteDots x y sprite)
  refine ⟨drawn, erased, drawing, struck.congr ?_⟩
  intro column row _
  exact strikes_spriteDots sprite x y display.width display.height column row

theorem length_toLists
    (display : Display) :
    display.toLists.length = display.height.toNat := by
  simp only [toLists, List.length_map, Vector.length_toList]

theorem length_of_mem_toLists
    {display : Display}
    {line : List Bool}
    (member : line ∈ display.toLists) :
    line.length = display.width.toNat := by
  obtain ⟨row, -, rfl⟩ := List.mem_map.mp member
  exact Vector.length_toList

end Display

/--
Drawing a sprite on a machine flips every pixel as often as set bits land on it.

The flag tells whether a pixel was turned off on the way, which happens exactly
when the old state of a pixel and its hits add up to two or more. Nothing of the
machine changes but the pixels.
-/
theorem draw_flips_pixels_by_hits
    (machine : Machine)
    (wide : 1 ≤ machine.display.width)
    (tall : 1 ≤ machine.display.height)
    (sprite : List Int)
    (x y : Int) :
    ∃ drawn erased,
      (Action.draw sprite x y).run machine =
          .ok erased { machine with display := drawn } ∧
        drawn.width = machine.display.width ∧
        drawn.height = machine.display.height ∧
        (drawn.toLists.length : Int) = machine.display.height ∧
        (∀ line ∈ drawn.toLists,
          (line.length : Int) = machine.display.width) ∧
        (∀ column row : Nat,
          column < machine.display.width →
          row < machine.display.height →
          (drawn.isLit column row).toNat =
            ((machine.display.isLit column row).toNat +
              Display.hits sprite x y machine.display.width
                machine.display.height column row) % 2) ∧
        (erased = true ↔
          ∃ column row : Nat,
            column < machine.display.width ∧
              row < machine.display.height ∧
              2 ≤ (machine.display.isLit column row).toNat +
                Display.hits sprite x y machine.display.width
                  machine.display.height column row) := by
  obtain ⟨drawn, erased, drawing, struck⟩ :=
    Display.struck_draw machine.display (by omega) (by omega) sprite x y
  have inside (column row : Nat) :
      machine.display.Holds column row ↔
        column < machine.display.width ∧ row < machine.display.height := by
    simp only [Display.Holds]
    omega
  refine ⟨drawn, erased, Action.run_draw drawing, struck.width, struck.height,
    ?_, ?_, ?_, ?_⟩
  · rw [Display.length_toLists, struck.height]
    omega
  · intro line member
    rw [Display.length_of_mem_toLists member, struck.width]
    omega
  · intro column row columnInside rowInside
    exact struck.pixels column row
      ((inside column row).mpr ⟨columnInside, rowInside⟩)
  · rw [struck.erasure]
    simp only [inside, and_assoc]

/-- A row of eight dots goes twice around four columns and erases itself. -/
theorem draw_flips_pixels_by_hits_around_narrow :
    let narrow := Machine.fresh (Display.blank 4 2) (RandomTape.start [])
    1 ≤ narrow.display.width ∧
      1 ≤ narrow.display.height ∧
      ∃ drawn,
        (Action.draw [0xFF] (-1) 3).run narrow =
            .ok true { narrow with display := drawn } ∧
          drawn.isLit 3 1 = false := by
  intro narrow
  have wide : 1 ≤ narrow.display.width := by decide
  have tall : 1 ≤ narrow.display.height := by decide
  obtain ⟨drawn, erased, drawing, -, -, -, -, pixels, erasure⟩ :=
    draw_flips_pixels_by_hits narrow wide tall [0xFF] (-1) 3
  have collided : erased = true :=
    erasure.mpr ⟨3, 1, by decide, by decide, by decide⟩
  have dark : (drawn.isLit 3 1).toNat = 0 :=
    (pixels 3 1 (by decide) (by decide)).trans (by decide)
  subst collided
  exact ⟨wide, tall, drawn, drawing, by simpa using dark⟩

end ChipEight
