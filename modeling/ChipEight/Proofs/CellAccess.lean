import ChipEight.Memory

namespace ChipEight

/-!
# Reading and writing cells

Programs use addresses that are not negative. Such an address names the cell
that it counts to, or it lies beyond all cells and is refused. A span between
two such addresses selects its part below the end, so more may be asked of it
than there is.
-/

namespace Cells

/-- The fault of an address that lies beyond all cells. -/
def beyond
    (address : Int)
    (outside : Fault) :
    Fault :=
  if address < wordLimit then
    outside
  else
    .indexTooWide

/-- The place of a cell names that cell. -/
theorem locate_val
    {size : Nat}
    (bounded : size < wordLimit)
    (cell : Fin size)
    (outside : Fault) :
    locate size (cell : Nat) outside = .ok cell := by
  rw [locate_eq_ok_iff bounded, if_neg (by omega)]

theorem locate_of_size_le
    {size : Nat}
    {address : Int}
    (outside : Fault)
    (behind : size ≤ address) :
    locate size address outside =
      .error (beyond address outside) := by
  obtain ⟨place, rfl⟩ := Int.eq_ofNat_of_zero_le (by omega : 0 ≤ address)
  have notInside : ¬ place < size := by omega
  simp only [locate, beyond, notInside, ↓reduceDIte]
  split
  · rw [if_neg (by omega)]
  · rw [if_pos (by omega)]

namespace Span

/-- A bound that is not negative is drawn in to the end when it lies behind it. -/
theorem drawIn_of_nonneg
    {size : Nat}
    {absent bound : Int}
    (lower : 0 ≤ bound) :
    drawIn size 0 size absent (some bound) = min bound size := by
  simp only [drawIn, if_neg (Int.not_lt.mpr lower)]
  omega

/-- A span between two addresses selects what it has below the end. -/
theorem resolve_between
    (size : Nat)
    {start stop : Int}
    (lower : 0 ≤ start)
    (ordered : start ≤ stop) :
    ∃ selection : Selection size,
      (between start stop).resolve size = .ok selection ∧
        selection.first = min start size ∧
        selection.stride = 1 ∧
        (selection.count : Int) = min stop size - min start size := by
  refine ⟨_, rfl, ?_, rfl, ?_⟩
  · simp only [between, Selection.ascending, drawIn_of_nonneg lower]
  · simp only [between, Selection.ascending, Option.getD_none,
      drawIn_of_nonneg lower, drawIn_of_nonneg (Int.le_trans lower ordered),
      Int.ediv_one]
    split <;> omega

theorem resolve_before
    {size : Nat}
    (stop : Int) :
    (before stop).resolve size = (between 0 stop).resolve size := by
  have startSame :
      drawIn size 0 size 0 (some 0) = drawIn size 0 size 0 none := by
    rw [drawIn_of_nonneg (Int.le_refl 0)]
    simp only [drawIn]
    omega
  simp only [resolve, before, between, startSame, Option.getD_none,
    Int.zero_lt_one, ↓reduceDIte]

/--
How many cells there are in front of a position, counted from the end if
it is negative.
-/
def cellsBefore
    (size : Nat)
    (stop : Int) :
    Nat :=
  (if stop < 0 then stop + size else stop).toNat

/-- The cells in front of a position are the first ones, as far as there are any. -/
theorem resolve_before_first
    (size : Nat)
    (stop : Int) :
    ∃ selection : Selection size,
      (before stop).resolve size = .ok selection ∧
        selection.first = 0 ∧
        selection.stride = 1 ∧
        selection.count = min (cellsBefore size stop) size := by
  refine ⟨_, rfl, rfl, rfl, ?_⟩
  simp only [before, Selection.ascending, drawIn, cellsBefore,
    Option.getD_none, Int.ediv_one]
  split <;> split <;> omega

end Span

end Cells

namespace Memory

variable {size : Nat}

/-- The byte in a cell. -/
def byte
    (memory : Memory size)
    (cell : Fin size) :
    UInt8 :=
  memory.cells.get cell

/-- Memories with the same byte in every cell are the same. -/
theorem eq_of_byte
    {memory other : Memory size}
    (sameBytes : ∀ cell, memory.byte cell = other.byte cell) :
    memory = other := by
  have sameCells : memory.cells = other.cells :=
    Vector.ext fun place inside => sameBytes ⟨place, inside⟩
  cases memory
  cases other
  simpa using sameCells

theorem byte_set
    (memory : Memory size)
    (cell : Fin size)
    (value : Int)
    (other : Fin size) :
    (memory.set cell value).byte other =
      if cell = other then UInt8.ofInt value else memory.byte other :=
  getElem_set memory cell value other

theorem ofInt_toNat
    (byte : UInt8) :
    UInt8.ofInt byte.toNat = byte := by
  have isByte : (byte.toNat : Int) < 2 ^ 8 :=
    Int.ofNat_lt.mpr byte.toNat_lt
  rw [UInt8.ofInt, Int.emod_eq_of_lt (Int.natCast_nonneg _) isByte,
    Int.toNat_natCast, UInt8.ofNat_toNat]

/-- A value that is written keeps its lowest eight bits. -/
theorem toNat_ofInt
    (value : Int) :
    ((UInt8.ofInt value).toNat : Int) = value % 256 := by
  have small : (value % 2 ^ 8).toNat < 2 ^ 8 := by omega
  rw [UInt8.ofInt, UInt8.toNat_ofNat_of_lt' small]
  omega

theorem byte_set_self
    (memory : Memory size)
    (cell : Fin size)
    (value : Int) :
    (((memory.set cell value).byte cell).toNat : Int) = value % 256 := by
  rw [byte_set, if_pos rfl, toNat_ofInt]

theorem toNat_byte_set_self
    {memory : Memory size}
    {cell : Fin size}
    {value : Int}
    {number : Nat}
    (isNumber : value % 256 = number) :
    ((memory.set cell value).byte cell).toNat = number := by
  have stored := memory.byte_set_self cell value
  omega

theorem byte_set_of_ne
    (memory : Memory size)
    (value : Int)
    {cell other : Fin size}
    (others : other ≠ cell) :
    (memory.set cell value).byte other = memory.byte other := by
  rw [byte_set, if_neg others.symm]

theorem read_val
    (memory : Memory size)
    (cell : Fin size) :
    memory.read (cell : Nat) = .ok (memory.byte cell) := by
  simp only [read, Cells.locate_val memory.bounded]
  rfl

theorem read_of_size_le
    (memory : Memory size)
    {address : Int}
    (behind : size ≤ address) :
    memory.read address = .error (Cells.beyond address .noSuchCell) := by
  simp only [read, Cells.locate_of_size_le _ behind]
  rfl

theorem write_val
    (memory : Memory size)
    (cell : Fin size)
    (value : Int) :
    memory.write (cell : Nat) value = .ok (memory.set cell value) := by
  simp only [write, Cells.locate_val memory.bounded]
  rfl

theorem write_of_size_le
    (memory : Memory size)
    {address : Int}
    (value : Int)
    (behind : size ≤ address) :
    memory.write address value = .error (Cells.beyond address .noSuchCell) := by
  simp only [write, Cells.locate_of_size_le _ behind]
  rfl

/-- A span reads the bytes between its addresses, as far as there are any. -/
theorem readSpan_between
    (memory : Memory size)
    {start stop : Int}
    (lower : 0 ≤ start)
    (ordered : start ≤ stop) :
    memory.readSpan (.between start stop) =
      .ok ((memory.toList.drop start.toNat).take (stop - start).toNat) := by
  obtain ⟨selection, resolved, first, stride, count⟩ :=
    Cells.Span.resolve_between size lower ordered
  have bytes :
      memory.readSelection selection =
        (memory.toList.drop start.toNat).take (stop - start).toNat := by
    apply List.ext_getElem
    · simp only [readSelection, List.length_map, Cells.Selection.length_cells,
        List.length_take, List.length_drop, length_toList]
      omega
    · intro place inSelection inList
      have placed : place < selection.count := by
        simpa only [readSelection, List.length_map,
          Cells.Selection.length_cells] using inSelection
      have position := selection.val_cell ⟨place, placed⟩
      simp only [readSelection, Cells.Selection.cells, List.getElem_map,
        List.getElem_ofFn, List.getElem_take, List.getElem_drop, toList,
        Vector.getElem_toList, Fin.getElem_fin]
      congr 1
      simp only [stride, Int.mul_one] at position
      omega
  simp only [readSpan, resolved]
  exact congrArg Except.ok bytes

/-- A span takes values when it has as many cells for them. -/
theorem writeSpan_between
    (memory : Memory size)
    (start stop : Int)
    (values : List Int)
    (lower : 0 ≤ start)
    (inside : stop ≤ size)
    (fitting : stop = start + values.length) :
    ∃ written, memory.writeSpan (.between start stop) values = .ok written := by
  obtain ⟨selection, resolved, -, -, count⟩ :=
    Cells.Span.resolve_between size lower (by omega : start ≤ stop)
  refine ⟨memory.setAll (selection.cells.zip values), ?_⟩
  simp only [writeSpan, resolved]
  exact if_pos (by omega)

/-- A span refuses a number of values that it has no cells for. -/
theorem writeSpan_between_error
    (memory : Memory size)
    (start stop : Int)
    (values : List Int)
    (lower : 0 ≤ start)
    (ordered : start ≤ stop)
    (unfitting : min stop size - min start size ≠ values.length) :
    ∃ selected,
      memory.writeSpan (.between start stop) values =
        .error (.countMismatch values.length selected size) := by
  obtain ⟨selection, resolved, -, -, count⟩ :=
    Cells.Span.resolve_between size lower ordered
  refine ⟨selection.count, ?_⟩
  simp only [writeSpan, resolved]
  exact if_neg (by omega)

/-- A cell that no value is paired with keeps its byte. -/
theorem byte_setAll_of_forall_ne
    (memory : Memory size)
    {pairs : List (Fin size × Int)}
    {cell : Fin size}
    (others : ∀ pair ∈ pairs, pair.1 ≠ cell) :
    (memory.setAll pairs).byte cell = memory.byte cell := by
  induction pairs generalizing memory with
  | nil => rfl
  | cons pair rest inductionHypothesis =>
      have notHead := others pair List.mem_cons_self
      have notTail : ∀ other ∈ rest, other.1 ≠ cell :=
        fun other member => others other (List.mem_cons_of_mem pair member)
      calc
        (memory.setAll (pair :: rest)).byte cell
            = (memory.set pair.1 pair.2).byte cell :=
              inductionHypothesis (memory.set pair.1 pair.2) notTail
        _ = memory.byte cell := by
              rw [byte_set, if_neg notHead]

/-- Writing over a span changes no cell outside of it. -/
theorem byte_writeSpan_between_of_outside
    {memory written : Memory size}
    {start stop : Int}
    {values : List Int}
    (lower : 0 ≤ start)
    (ordered : start ≤ stop)
    (accepted : memory.writeSpan (.between start stop) values = .ok written)
    {cell : Fin size}
    (outside : ¬ (start ≤ (cell : Nat) ∧ (cell : Nat) < stop)) :
    written.byte cell = memory.byte cell := by
  obtain ⟨selection, resolved, first, stride, count⟩ :=
    Cells.Span.resolve_between size lower ordered
  simp only [writeSpan, resolved] at accepted
  change (if selection.count = values.length then _ else _) = _ at accepted
  split at accepted
  · obtain rfl := Except.ok.inj accepted
    refine byte_setAll_of_forall_ne memory fun pair member isCell => ?_
    obtain ⟨place, atPlace⟩ :=
      List.mem_ofFn.mp (List.of_mem_zip member).1
    have position := selection.val_cell place
    have placed := place.isLt
    rw [atPlace, isCell, first, stride] at position
    omega
  · cases accepted

theorem readSpan_before
    (memory : Memory size)
    (stop : Int) :
    memory.readSpan (.before stop) = memory.readSpan (.between 0 stop) := by
  simp only [readSpan, Cells.Span.resolve_before]

theorem writeSpan_before
    (memory : Memory size)
    (stop : Int)
    (values : List Int) :
    memory.writeSpan (.before stop) values =
      memory.writeSpan (.between 0 stop) values := by
  simp only [writeSpan, Cells.Span.resolve_before]

end Memory

end ChipEight
