import ChipEight.Proofs.Drawing

namespace ChipEight

/-!
# Drawing in any order

Sprites that are drawn one after the other strike every pixel as often as all of
them do together. So the picture that they leave, and whether any of them turned
a pixel off, are told by a sum for each pixel, and a sum does not depend on its
order. Which of them turned a pixel off does depend on it. A picture depends on
nothing but the parity of its sums, so a sprite drawn twice is not seen.
-/

namespace Display

/-- A sprite to draw and the coordinates of its top left corner. -/
structure Stamp where
  sprite : List Int
  x : Int
  y : Int
  deriving DecidableEq, Repr

/-- Draw sprites in turn; the flags tell which of them turned a lit pixel off. -/
def drawAll
    (display : Display) :
    List Stamp →
    Except Fault (Display × List Bool)
  | [] => .ok (display, [])
  | stamp :: rest => do
      let (drawn, erased) ← display.draw stamp.sprite stamp.x stamp.y
      let (finished, flags) ← drawn.drawAll rest
      return (finished, erased :: flags)

/--
How many set bits of all of some sprites land in a column and a row of a torus.
-/
def totalHits
    (stamps : List Stamp)
    (width height : Int)
    (column row : Nat) :
    Nat :=
  (stamps.map fun stamp =>
    hits stamp.sprite stamp.x stamp.y width height column row).sum

/-! Pictures that agree. -/

/-- A display is its sides and its pixels. -/
theorem eq_of_isLit
    {display other : Display}
    (sameWidth : display.width = other.width)
    (sameHeight : display.height = other.height)
    (samePixels :
      ∀ column row,
        display.Holds column row →
        display.isLit column row = other.isLit column row) :
    display = other := by
  obtain ⟨width, height, rows⟩ := display
  obtain ⟨otherWidth, otherHeight, otherRows⟩ := other
  cases sameWidth
  cases sameHeight
  congr 1
  ext row rowInside column columnInside
  have same := samePixels column row ⟨columnInside, rowInside⟩
  rw [isLit, dif_pos ⟨columnInside, rowInside⟩, isLit,
    dif_pos ⟨columnInside, rowInside⟩] at same
  exact same

namespace Struck

variable
  {display drawn drawnToo : Display}
  {first second : Nat → Nat → Nat}
  {erased erasedToo : Bool}

/--
Pictures agree when their pixels are struck equally often up to an even number.
-/
theorem eq_of_parity
    (struck : display.Struck first drawn erased)
    (struckToo : display.Struck second drawnToo erasedToo)
    (sameParity :
      ∀ column row,
        display.Holds column row →
        first column row % 2 = second column row % 2) :
    drawn = drawnToo := by
  apply eq_of_isLit
  · rw [struck.width, struckToo.width]
  · rw [struck.height, struckToo.height]
  · intro column row insideDrawn
    have inside : display.Holds column row := by
      simpa only [Holds, struck.width, struck.height] using insideDrawn
    have same := sameParity column row inside
    rw [Bool.eq_iff_iff, ← Bool.toNat_eq_one, ← Bool.toNat_eq_one,
      struck.pixels column row inside, struckToo.pixels column row inside]
    omega

/-- Equal strikes turn something off alike. -/
theorem erased_iff
    (struck : display.Struck first drawn erased)
    (struckToo : display.Struck first drawnToo erasedToo) :
    erased = true ↔ erasedToo = true := by
  rw [struck.erasure, struckToo.erasure]

end Struck

/-! Sprites in turn. -/

theorem totalHits_cons
    (stamp : Stamp)
    (rest : List Stamp)
    (width height : Int)
    (column row : Nat) :
    totalHits (stamp :: rest) width height column row =
      hits stamp.sprite stamp.x stamp.y width height column row +
        totalHits rest width height column row := by
  rw [totalHits, List.map_cons, List.sum_cons, ← totalHits]

/-- All hits together do not depend on the order of the sprites. -/
theorem totalHits_perm
    {stamps others : List Stamp}
    (reordered : stamps.Perm others) :
    totalHits stamps = totalHits others := by
  funext width height column row
  exact (reordered.map _).sum_nat

/-- A sprite that is drawn twice adds an even number of hits, wherever it stands. -/
theorem totalHits_pair
    (earlier between later : List Stamp)
    (stamp : Stamp)
    (width height : Int)
    (column row : Nat) :
    totalHits (earlier ++ stamp :: between ++ stamp :: later) width height
        column row =
      totalHits (earlier ++ between ++ later) width height column row +
        2 * hits stamp.sprite stamp.x stamp.y width height column row := by
  have reordered :
      (earlier ++ stamp :: between ++ stamp :: later).Perm
        (stamp :: stamp :: (earlier ++ between ++ later)) :=
    List.perm_middle.trans <|
      (List.perm_middle.append_right later).cons stamp
  rw [totalHits_perm reordered, totalHits_cons, totalHits_cons]
  omega

theorem any_id
    (flags : List Bool) :
    flags.any id = true ↔ true ∈ flags := by
  simp only [List.any_eq_true, id, exists_eq_right]

/--
Drawing sprites in turn strikes every pixel as often as all of them do together.
-/
theorem struck_drawAll
    (display : Display)
    (wide : 0 < display.width)
    (tall : 0 < display.height)
    (stamps : List Stamp) :
    ∃ drawn flags,
      display.drawAll stamps = .ok (drawn, flags) ∧
        flags.length = stamps.length ∧
        display.Struck (totalHits stamps display.width display.height)
          drawn (flags.any id) := by
  induction stamps generalizing display with
  | nil =>
      exact ⟨display, [], rfl, rfl, Struck.refl display⟩
  | cons stamp rest inductionHypothesis =>
      obtain ⟨drawn, erased, drawing, struck⟩ :=
        struck_draw display wide tall stamp.sprite stamp.x stamp.y
      obtain ⟨finished, flags, later, counted, struckLater⟩ :=
        inductionHypothesis drawn
          (by rw [struck.width]; exact wide)
          (by rw [struck.height]; exact tall)
      refine ⟨finished, erased :: flags, ?_, ?_, ?_⟩
      · simp only [drawAll, drawing, later, bind, Except.bind]
        rfl
      · rw [List.length_cons, List.length_cons, counted]
      · rw [List.any_cons, id]
        refine (struck.trans struckLater).congr ?_
        intro column row _
        rw [totalHits_cons, struck.width, struck.height]

end Display

open Display in
/--
The order of drawings matters neither for the picture nor for whether any pixel
was turned off.

Two equal drawings among them are not seen in the picture. Which of the drawings
turned a pixel off may depend on the order, and so may their number.
-/
theorem drawing_order_is_irrelevant :
    (∀ (display : Display) (stamps : List Stamp),
      1 ≤ display.width →
      1 ≤ display.height →
      ∃ drawn flags,
        display.drawAll stamps = .ok (drawn, flags) ∧
          flags.length = stamps.length ∧
          (∀ others,
            stamps.Perm others →
            ∃ flagsToo,
              display.drawAll others = .ok (drawn, flagsToo) ∧
                (true ∈ flagsToo ↔ true ∈ flags)) ∧
          ∀ earlier stamp between later,
            stamps = earlier ++ stamp :: between ++ stamp :: later →
            ∃ flagsToo,
              display.drawAll (earlier ++ between ++ later) =
                .ok (drawn, flagsToo)) ∧
    ∃ (display : Display) (stamps others : List Stamp)
        (flags flagsToo : List Bool),
      stamps.Perm others ∧
        (display.drawAll stamps).map Prod.snd = .ok flags ∧
        (display.drawAll others).map Prod.snd = .ok flagsToo ∧
        flags.count true ≠ flagsToo.count true := by
  constructor
  · intro display stamps wide tall
    obtain ⟨drawn, flags, drawing, counted, struck⟩ :=
      display.struck_drawAll (by omega) (by omega) stamps
    refine ⟨drawn, flags, drawing, counted, ?reordered, ?deleted⟩
    case reordered =>
      intro others reordered
      obtain ⟨drawnToo, flagsToo, drawingToo, -, struckToo⟩ :=
        display.struck_drawAll (by omega) (by omega) others
      rw [← totalHits_perm reordered] at struckToo
      have samePicture : drawnToo = drawn :=
        struckToo.eq_of_parity struck fun _ _ _ => rfl
      have sameErasure := struckToo.erased_iff struck
      rw [any_id, any_id] at sameErasure
      exact ⟨flagsToo, samePicture ▸ drawingToo, sameErasure⟩
    case deleted =>
      rintro earlier stamp between later rfl
      obtain ⟨drawnToo, flagsToo, drawingToo, -, struckToo⟩ :=
        display.struck_drawAll (by omega) (by omega)
          (earlier ++ between ++ later)
      have samePicture : drawnToo = drawn := by
        apply struckToo.eq_of_parity struck
        intro column row _
        rw [totalHits_pair]
        omega
      exact ⟨flagsToo, samePicture ▸ drawingToo⟩
  · exact
      ⟨blank 2 1, [⟨[0x80], 0, 0⟩, ⟨[0x40], 0, 0⟩, ⟨[0xC0], 0, 0⟩],
        [⟨[0x80], 0, 0⟩, ⟨[0xC0], 0, 0⟩, ⟨[0x40], 0, 0⟩],
        [false, false, true], [false, true, true], by decide, rfl, rfl,
        by decide⟩

open Display in
/--
A bar that is drawn before and after a dot leaves the dot alone.

So it does when it is drawn twice behind the dot.
-/
theorem drawing_order_is_irrelevant_of_bar_around_dot :
    let narrow := blank 4 2
    let bar : Stamp := ⟨[0xFF], -1, 3⟩
    let dot : Stamp := ⟨[0x80], 0, 0⟩
    1 ≤ narrow.width ∧
      1 ≤ narrow.height ∧
      ∃ drawn flags flagsBehind flagsAlone,
        narrow.drawAll [bar, dot, bar] = .ok (drawn, flags) ∧
          narrow.drawAll [dot, bar, bar] = .ok (drawn, flagsBehind) ∧
          narrow.drawAll [dot] = .ok (drawn, flagsAlone) ∧
          (true ∈ flagsBehind ↔ true ∈ flags) := by
  intro narrow bar dot
  have wide : 1 ≤ narrow.width := by decide
  have tall : 1 ≤ narrow.height := by decide
  obtain ⟨drawn, flags, drawing, -, reordered, deleted⟩ :=
    drawing_order_is_irrelevant.1 narrow [bar, dot, bar] wide tall
  obtain ⟨flagsBehind, behind, sameErasure⟩ :=
    reordered [dot, bar, bar] (.swap dot bar [bar])
  obtain ⟨flagsAlone, alone⟩ := deleted [] bar [dot] [] rfl
  exact ⟨wide, tall, drawn, flags, flagsBehind, flagsAlone, drawing, behind,
    alone, sameErasure⟩

end ChipEight
