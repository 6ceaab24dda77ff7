import ChipEight.Proofs.CellAccess
import Mathlib.Data.List.Sort

namespace ChipEight.Cells

/-!
# Which cells a span selects

A span counts its bounds from the end when they are negative, and goes up or
down by its stride. The cells that it meets can be told one by one: a cell is
selected when it lies between the bounds and at a multiple of the stride from
where the span begins. Where a bound lies beyond an end, the span begins at that
end. What a span is resolved to are exactly these cells, in this order.
-/

/-- The position that a bound stands for, counted from the end if it is negative. -/
def position
    (size : Nat)
    (bound : Int) :
    Int :=
  if bound < 0 then
    bound + size
  else
    bound

namespace Span

/-- Where a span that goes up begins. -/
def lowest
    (span : Span)
    (size : Nat) :
    Int :=
  max 0 ((span.start.map (position size)).getD 0)

/-- Where a span that goes down begins. -/
def highest
    (span : Span)
    (size : Nat) :
    Int :=
  min (size - 1) ((span.start.map (position size)).getD (size - 1))

/-- Whether a span that goes up meets a cell. -/
def Climbs
    (span : Span)
    {size : Nat}
    (cell : Fin size) :
    Prop :=
  span.lowest size ≤ (cell : Nat) ∧
    (∀ stop ∈ span.stop, ((cell : Nat) : Int) < position size stop) ∧
    span.stride.getD 1 ∣ (cell : Nat) - span.lowest size

/-- Whether a span that goes down meets a cell. -/
def Descends
    (span : Span)
    {size : Nat}
    (cell : Fin size) :
    Prop :=
  (cell : Nat) ≤ span.highest size ∧
    (∀ stop ∈ span.stop, position size stop < (cell : Nat)) ∧
    span.stride.getD 1 ∣ (cell : Nat) - span.highest size

instance (span : Span) {size : Nat} (cell : Fin size) :
    Decidable (span.Climbs cell) :=
  inferInstanceAs (Decidable (_ ∧ _ ∧ _))

instance (span : Span) {size : Nat} (cell : Fin size) :
    Decidable (span.Descends cell) :=
  inferInstanceAs (Decidable (_ ∧ _ ∧ _))

/-- The cells that a span meets among `size` cells, in its order. -/
def selected
    (span : Span)
    (size : Nat) :
    List (Fin size) :=
  if 0 < span.stride.getD 1 then
    (List.finRange size).filter fun cell => span.Climbs cell
  else if span.stride.getD 1 < 0 then
    (List.finRange size).reverse.filter fun cell => span.Descends cell
  else
    []

end Span

/-! Numbers in arithmetic progression. -/

/-- The numbers met on the way up are those at a multiple of the distance. -/
theorem exists_step_up_iff
    {first value stride : Int}
    (positive : 0 < stride) :
    (∃ place : Nat, value = first + place * stride) ↔
      first ≤ value ∧ stride ∣ value - first := by
  constructor
  · rintro ⟨place, rfl⟩
    have advance : 0 ≤ (place : Int) * stride :=
      Int.mul_nonneg (Int.natCast_nonneg place) (Int.le_of_lt positive)
    refine ⟨by omega, place, ?_⟩
    rw [Int.mul_comm stride]
    omega
  · rintro ⟨above, factor, product⟩
    have nonnegative : 0 ≤ factor := by
      by_contra negative
      have backward : stride * factor < 0 :=
        Int.mul_neg_of_pos_of_neg positive (Int.not_le.mp negative)
      omega
    obtain ⟨place, rfl⟩ := Int.eq_ofNat_of_zero_le nonnegative
    rw [Int.mul_comm] at product
    exact ⟨place, by omega⟩

/-- On the way down the same holds with all signs turned. -/
theorem exists_step_down_iff
    {first value stride : Int}
    (negative : stride < 0) :
    (∃ place : Nat, value = first + place * stride) ↔
      value ≤ first ∧ stride ∣ value - first := by
  have turned :
      (∃ place : Nat, -value = -first + place * -stride) ↔
        -first ≤ -value ∧ -stride ∣ -value - -first :=
    exists_step_up_iff (Int.neg_pos_of_neg negative)
  have difference : -value - -first = -(value - first) := by
    omega
  rw [difference, Int.neg_dvd, Int.dvd_neg] at turned
  have ordered : -first ≤ -value ↔ value ≤ first := by
    omega
  rw [← ordered, ← turned]
  refine exists_congr fun place => ?_
  rw [Int.mul_neg]
  omega

namespace Selection

variable {size : Nat}

/--
A selection that counts the positions up to a bound has the cells that
it meets before.
-/
theorem mem_cells_iff
    (selection : Selection size)
    (inRange : Int → Prop)
    (counted :
      ∀ place : Nat,
        place < selection.count ↔
          inRange (selection.first + place * selection.stride))
    (cell : Fin size) :
    cell ∈ selection.cells ↔
      inRange (cell : Nat) ∧
        ∃ place : Nat,
          ((cell : Nat) : Int) =
            selection.first + place * selection.stride := by
  rw [cells, List.mem_ofFn]
  constructor
  · rintro ⟨place, rfl⟩
    rw [selection.val_cell place, ← counted place]
    exact ⟨place.isLt, place, rfl⟩
  · rintro ⟨met, place, atCell⟩
    rw [atCell, ← counted place] at met
    refine ⟨⟨place, met⟩, Fin.ext ?_⟩
    have position := selection.val_cell ⟨place, met⟩
    exact Int.ofNat_inj.mp (position.trans atCell.symm)

theorem sortedLT_cells
    (selection : Selection size)
    (positive : 0 < selection.stride) :
    selection.cells.SortedLT := by
  rw [cells, List.sortedLT_ofFn_iff]
  intro earlier later before
  have farther :
      (earlier : Int) * selection.stride < (later : Int) * selection.stride :=
    Int.mul_lt_mul_of_pos_right (Int.ofNat_lt.mpr before) positive
  have atEarlier := selection.val_cell earlier
  have atLater := selection.val_cell later
  rw [Fin.lt_def]
  omega

theorem sortedGT_cells
    (selection : Selection size)
    (negative : selection.stride < 0) :
    selection.cells.SortedGT := by
  rw [cells, List.sortedGT_ofFn_iff]
  intro earlier later before
  have farther :
      (later : Int) * selection.stride < (earlier : Int) * selection.stride :=
    Int.mul_lt_mul_of_neg_right (Int.ofNat_lt.mpr before) negative
  have atEarlier := selection.val_cell earlier
  have atLater := selection.val_cell later
  rw [Fin.lt_def]
  omega

/-- The cells on the way up lie at a multiple of the stride between the two ends. -/
theorem mem_cells_ascending
    {start stop stride : Int}
    (lower : 0 ≤ start)
    (upper : stop ≤ size)
    (positive : 0 < stride)
    (cell : Fin size) :
    cell ∈ (ascending start stop stride lower upper positive).cells ↔
      start ≤ (cell : Nat) ∧
        ((cell : Nat) : Int) < stop ∧
        stride ∣ (cell : Nat) - start := by
  have counted (place : Nat) :
      place < (ascending start stop stride lower upper positive).count ↔
        start + place * stride < stop := by
    have quotient :
        (place : Int) ≤ (stop - start - 1) / stride ↔
          place * stride ≤ stop - start - 1 :=
      Int.le_ediv_iff_mul_le positive
    have advance : 0 ≤ (place : Int) * stride :=
      Int.mul_nonneg (Int.natCast_nonneg place) (Int.le_of_lt positive)
    simp only [ascending]
    split <;> omega
  rw [mem_cells_iff _ (· < stop) counted]
  simp only [ascending]
  rw [exists_step_up_iff positive, and_left_comm]

/--
The cells on the way down lie at a multiple of the stride between the two ends.
-/
theorem mem_cells_descending
    {start stop stride : Int}
    (lower : -1 ≤ stop)
    (upper : start < size)
    (negative : stride < 0)
    (cell : Fin size) :
    cell ∈ (descending start stop stride lower upper negative).cells ↔
      (cell : Nat) ≤ start ∧
        stop < (cell : Nat) ∧
        stride ∣ (cell : Nat) - start := by
  have counted (place : Nat) :
      place < (descending start stop stride lower upper negative).count ↔
        stop < start + place * stride := by
    have quotient :
        (place : Int) ≤ (start - stop - 1) / -stride ↔
          place * -stride ≤ start - stop - 1 :=
      Int.le_ediv_iff_mul_le (Int.neg_pos_of_neg negative)
    have retreat : 0 ≤ (place : Int) * -stride :=
      Int.mul_nonneg (Int.natCast_nonneg place) (by omega)
    rw [Int.mul_neg] at quotient retreat
    simp only [descending]
    split <;> omega
  rw [mem_cells_iff _ (stop < ·) counted]
  simp only [descending]
  rw [exists_step_down_iff negative, and_left_comm]

end Selection

namespace Span

variable {size : Nat} {span : Span}

/--
On the way up a span begins where it is drawn in to, if it begins at a
cell at all.
-/
theorem drawIn_start_up
    (span : Span)
    (size : Nat) :
    drawIn size 0 size 0 span.start = min (size : Int) (span.lowest size) := by
  cases given : span.start with
  | none => simp [drawIn, lowest, given]
  | some bound =>
      simp only [drawIn, lowest, position, given, Option.map_some,
        Option.getD_some]
      omega

theorem drawIn_start_down
    (span : Span)
    (size : Nat) :
    drawIn size (-1) (size - 1) (size - 1) span.start =
      max (-1) (span.highest size) := by
  cases given : span.start with
  | none =>
      simp only [drawIn, highest, given, Option.map_none, Option.getD_none]
      omega
  | some bound =>
      simp only [drawIn, highest, position, given, Option.map_some,
        Option.getD_some]

/--
A cell lies before the end that is drawn in exactly if it lies before
the end itself.
-/
theorem lt_drawIn_stop
    (span : Span)
    (cell : Fin size) :
    ((cell : Nat) : Int) < drawIn size 0 size size span.stop ↔
      ∀ stop ∈ span.stop, ((cell : Nat) : Int) < position size stop := by
  have inside := cell.isLt
  cases given : span.stop with
  | none =>
      simp only [drawIn, Option.not_mem_none, false_implies, implies_true,
        iff_true]
      omega
  | some bound =>
      simp only [drawIn, position, Option.mem_some_iff, forall_eq']
      omega

theorem drawIn_stop_lt
    (span : Span)
    (cell : Fin size) :
    drawIn size (-1) (size - 1) (-1) span.stop < (cell : Nat) ↔
      ∀ stop ∈ span.stop, position size stop < (cell : Nat) := by
  have inside := cell.isLt
  cases given : span.stop with
  | none =>
      simp only [drawIn, Option.not_mem_none, false_implies, implies_true,
        iff_true]
      omega
  | some bound =>
      simp only [drawIn, position, Option.mem_some_iff, forall_eq']
      omega

/-- Drawing the bounds in takes no cell away from a span and adds none. -/
theorem climbs_iff
    (cell : Fin size) :
    span.Climbs cell ↔
      drawIn size 0 size 0 span.start ≤ (cell : Nat) ∧
        ((cell : Nat) : Int) < drawIn size 0 size size span.stop ∧
        span.stride.getD 1 ∣ (cell : Nat) - drawIn size 0 size 0 span.start := by
  have inside := cell.isLt
  rw [Climbs, lt_drawIn_stop, drawIn_start_up]
  by_cases within : span.lowest size ≤ size
  · rw [min_eq_right within]
  · have notAbove : ¬ span.lowest size ≤ (cell : Nat) := by
      omega
    have notAboveEnd : ¬ min (size : Int) (span.lowest size) ≤ (cell : Nat) := by
      omega
    simp only [notAbove, notAboveEnd, false_and]

theorem descends_iff
    (cell : Fin size) :
    span.Descends cell ↔
      (cell : Nat) ≤ drawIn size (-1) (size - 1) (size - 1) span.start ∧
        drawIn size (-1) (size - 1) (-1) span.stop < (cell : Nat) ∧
        span.stride.getD 1 ∣
          (cell : Nat) - drawIn size (-1) (size - 1) (size - 1) span.start := by
  rw [Descends, drawIn_stop_lt, drawIn_start_down]
  by_cases within : -1 ≤ span.highest size
  · rw [max_eq_right within]
  · have notBelow : ¬ (cell : Nat) ≤ span.highest size := by
      omega
    have notBelowEnd : ¬ (cell : Nat) ≤ max (-1) (span.highest size) := by
      omega
    simp only [notBelow, notBelowEnd, false_and]

/--
A span whose stride is not zero is resolved to the cells that it meets,
in its order.
-/
theorem exists_resolve
    (notZero : span.stride ≠ some 0)
    (size : Nat) :
    ∃ selection : Selection size,
      span.resolve size = .ok selection ∧
        selection.cells = span.selected size := by
  have nonzero : span.stride.getD 1 ≠ 0 := by
    cases given : span.stride with
    | none => decide
    | some stride =>
        rw [given] at notZero
        simpa using notZero
  rcases Int.lt_or_gt_of_ne nonzero with negative | positive
  · have notPositive : ¬ 0 < span.stride.getD 1 := by
      omega
    simp only [resolve, selected, notPositive, negative, ↓reduceDIte,
      ↓reduceIte]
    refine ⟨_, rfl, List.SortedGT.eq_of_mem_iff ?_ ?_ ?_⟩
    · exact Selection.sortedGT_cells _ negative
    · exact ((List.sortedLT_finRange size).reverse.pairwise.filter _).sortedGT
    · intro cell
      rw [Selection.mem_cells_descending, ← descends_iff]
      simp
  · simp only [resolve, selected, positive, ↓reduceDIte, ↓reduceIte]
    refine ⟨_, rfl, List.SortedLT.eq_of_mem_iff ?_ ?_ ?_⟩
    · exact Selection.sortedLT_cells _ positive
    · exact ((List.sortedLT_finRange size).pairwise.filter _).sortedLT
    · intro cell
      rw [Selection.mem_cells_ascending, ← climbs_iff]
      simp

/--
Every second cell of six, down from the fifth one as far as a bound
beyond the first.
-/
example : (Span.mk (some (-2)) (some (-9)) (some (-2))).selected 6 = [4, 2, 0] := by
  decide

theorem nodup_selected
    (span : Span)
    (size : Nat) :
    (span.selected size).Nodup := by
  have all := List.nodup_finRange size
  simp only [selected]
  split
  · exact all.filter _
  · split
    · exact (List.nodup_reverse.mpr all).filter _
    · exact List.nodup_nil

theorem resolve_of_zero_stride
    (isZero : span.stride = some 0) :
    span.resolve size = .error .zeroStride := by
  simp [resolve, isZero]

end Span

end ChipEight.Cells
