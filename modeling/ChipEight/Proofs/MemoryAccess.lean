import ChipEight.Proofs.SelectedCells

namespace ChipEight

/-!
# What accesses leave in a memory

A single index names a cell or is refused. A span is written only when its
stride is not zero and there is one value for each cell that it selects. A
write that is refused leaves the memory as it was. One that is accepted puts
the values in the cells in the order of the span and spares all others. So
whatever is asked of a memory, one access after another, no cell changes that
none of them is about.
-/

namespace Cells

variable {size : Nat} {index : Int}

/--
An index that counts to a cell, from the start or back from the end,
names that cell.
-/
theorem exists_locate
    (bounded : size < wordLimit)
    (lower : -size ≤ index)
    (upper : index < size)
    (outside : Fault) :
    ∃ cell : Fin size,
      ((cell : Nat) : Int) = index % size ∧
        ((cell : Nat) : Int) = position size index ∧
        locate size index outside = .ok cell := by
  have inside : 0 ≤ position size index ∧ position size index < size := by
    simp only [position]
    omega
  obtain ⟨place, atPlace⟩ := Int.eq_ofNat_of_zero_le inside.1
  have placed : place < size := by
    omega
  refine ⟨⟨place, placed⟩, ?_, atPlace.symm, ?_⟩
  · have sameRemainder : index % size = position size index % size := by
      simp only [position]
      split
      · rw [Int.add_emod_right]
      · rfl
    rw [sameRemainder, Int.emod_eq_of_lt inside.1 inside.2]
    exact atPlace.symm
  · rw [locate_eq_ok_iff bounded]
    exact atPlace.symm

/-- Any other index is refused, however large it is. -/
theorem exists_locate_error
    (notInside : ¬ (-size ≤ index ∧ index < size)) :
    ∃ fault : Fault,
      locate size index .noSuchCell = .error fault ∧
        fault.families = [.index, .lookup] := by
  cases index with
  | ofNat place =>
      have behind : ¬ place < size := by
        simp only [Int.ofNat_eq_natCast] at notInside
        omega
      simp only [locate, behind, ↓reduceDIte]
      split <;> exact ⟨_, rfl, rfl⟩
  | negSucc place =>
      have inFront : ¬ place < size := by
        omega
      simp only [locate, inFront, ↓reduceDIte]
      split <;> exact ⟨_, rfl, rfl⟩

end Cells

namespace Memory

variable {size : Nat} {span : Cells.Span} {values : List Int}

/-! Writing over a span. -/

/--
Cells that are written one after the other hold their values, if none is
written twice.
-/
theorem map_byte_setAll
    (memory : Memory size)
    {cells : List (Fin size)}
    (nodup : cells.Nodup)
    {values : List Int}
    (sameLength : values.length = cells.length) :
    cells.map (memory.setAll (cells.zip values)).byte =
      values.map UInt8.ofInt := by
  induction cells generalizing memory values with
  | nil =>
      rw [List.eq_nil_of_length_eq_zero sameLength]
      rfl
  | cons cell rest inductionHypothesis =>
      obtain ⟨value, others, rfl⟩ :=
        List.exists_cons_of_length_eq_add_one sameLength
      have ⟨notInRest, nodupRest⟩ := List.nodup_cons.mp nodup
      have kept (pair : Fin size × Int) (member : pair ∈ rest.zip others) :
          pair.1 ≠ cell := by
        rintro rfl
        exact notInRest (List.of_mem_zip member).1
      have head :
          (memory.setAll ((cell :: rest).zip (value :: others))).byte cell =
            UInt8.ofInt value := by
        calc
          (memory.setAll ((cell :: rest).zip (value :: others))).byte cell
              = (memory.set cell value).byte cell :=
                byte_setAll_of_forall_ne (memory.set cell value) kept
          _ = UInt8.ofInt value := by
                rw [byte_set, if_pos rfl]
      have tail :
          rest.map (memory.setAll ((cell :: rest).zip (value :: others))).byte =
            others.map UInt8.ofInt :=
        inductionHypothesis (memory.set cell value) nodupRest
          (Nat.succ_inj.mp sameLength)
      rw [List.map_cons, List.map_cons, head, tail]

/-- A span reads the bytes of the cells that it selects, in order. -/
theorem readSpan_eq
    (memory : Memory size)
    (notZero : span.stride ≠ some 0) :
    memory.readSpan span = .ok ((span.selected size).map memory.byte) := by
  obtain ⟨selection, resolved, sameCells⟩ :=
    Cells.Span.exists_resolve notZero size
  rw [← sameCells]
  simp only [readSpan, resolved]
  rfl

theorem writeSpan_of_zero_stride
    (memory : Memory size)
    (isZero : span.stride = some 0)
    (values : List Int) :
    memory.writeSpan span values = .error .zeroStride := by
  simp only [writeSpan, Cells.Span.resolve_of_zero_stride isZero]
  rfl

/-- A span is written when it selects as many cells as there are values. -/
theorem writeSpan_eq
    (memory : Memory size)
    (notZero : span.stride ≠ some 0)
    (values : List Int) :
    memory.writeSpan span values =
      if values.length = (span.selected size).length then
        .ok (memory.setAll ((span.selected size).zip values))
      else
        .error
          (.countMismatch values.length (span.selected size).length size) := by
  obtain ⟨selection, resolved, sameCells⟩ :=
    Cells.Span.exists_resolve notZero size
  rw [← sameCells, selection.length_cells]
  simp only [writeSpan, resolved, eq_comm (a := values.length)]
  rfl

/--
A span between two addresses holds its values in order once they are
written over it.
-/
theorem byte_writeSpan_between
    {memory written : Memory size}
    {start stop : Int}
    {values : List Int}
    (lower : 0 ≤ start)
    (ordered : start ≤ stop)
    (accepted : memory.writeSpan (.between start stop) values = .ok written)
    {place : Nat}
    (inside : place < values.length)
    {cell : Fin size}
    (atCell : ((cell : Nat) : Int) = start + place) :
    written.byte cell = UInt8.ofInt values[place] := by
  obtain ⟨selection, resolved, first, stride, -⟩ :=
    Cells.Span.resolve_between size lower ordered
  simp only [writeSpan, resolved] at accepted
  change (if selection.count = values.length then _ else _) = _ at accepted
  split at accepted
  case isTrue sameCount =>
    obtain rfl := Except.ok.inj accepted
    have nodup : selection.cells.Nodup :=
      (selection.sortedLT_cells (by omega)).nodup
    have sameLength : values.length = selection.cells.length := by
      rw [selection.length_cells, sameCount]
    have atPlace : place < selection.count := by omega
    have isCell : selection.cells[place]? = some cell := by
      have position := selection.val_cell ⟨place, atPlace⟩
      simp only [first, stride, Int.mul_one] at position
      rw [Cells.Selection.cells, List.getElem?_ofFn, dif_pos atPlace,
        Option.some_inj]
      omega
    have bytes :=
      congrArg (·[place]?) (memory.map_byte_setAll nodup sameLength)
    simpa [List.getElem?_map, isCell, inside] using bytes
  case isFalse otherCount =>
    cases accepted

/-! Any accesses, one after another. -/

/-- What may be asked of a memory. -/
inductive Access where
  /-- The byte at an index is read. -/
  | read (index : Int)
  /-- The bytes of a span are read. -/
  | readSpan (span : Cells.Span)
  /-- A value is written at an index. -/
  | write (index : Int) (value : Int)
  /-- Values are written over a span. -/
  | writeSpan (span : Cells.Span) (values : List Int)

/-- Whether an access is about a cell in order to change it. -/
def Access.Targets
    (access : Access)
    (cell : Fin size) :
    Prop :=
  match access with
  | .read _ => False
  | .readSpan _ => False
  | .write index _ => (cell : Nat) = Cells.position size index
  | .writeSpan span _ => cell ∈ span.selected size

/--
The memory that a write leaves, which is the old one when the write is refused.
-/
def leftBy
    (memory : Memory size) :
    Except Fault (Memory size) →
    Memory size
  | .ok written => written
  | .error _ => memory

/-- The memory after an access, whether it is refused or not. -/
def after
    (memory : Memory size) :
    Access →
    Memory size
  | .read _ => memory
  | .readSpan _ => memory
  | .write index value => memory.leftBy (memory.write index value)
  | .writeSpan span values => memory.leftBy (memory.writeSpan span values)

/-- The memory after some accesses. -/
def afterAll
    (memory : Memory size)
    (accesses : List Access) :
    Memory size :=
  accesses.foldl after memory

/-- A cell that no value is written to keeps its byte. -/
theorem byte_setAll_of_not_mem
    (memory : Memory size)
    {cells : List (Fin size)}
    (values : List Int)
    {cell : Fin size}
    (notMember : cell ∉ cells) :
    (memory.setAll (cells.zip values)).byte cell = memory.byte cell := by
  refine byte_setAll_of_forall_ne memory fun pair member => ?_
  rintro rfl
  exact notMember (List.of_mem_zip member).1

/-- An access changes no cell that it is not about. -/
theorem byte_after
    (memory : Memory size)
    {access : Access}
    {cell : Fin size}
    (spared : ¬ access.Targets cell) :
    (memory.after access).byte cell = memory.byte cell := by
  cases access with
  | read index => rfl
  | readSpan span => rfl
  | write index value =>
      by_cases inside : -size ≤ index ∧ index < size
      · obtain ⟨target, -, atTarget, located⟩ :=
          Cells.exists_locate memory.bounded inside.1 inside.2 .noSuchCell
        have different : cell ≠ target := by
          rintro rfl
          exact spared atTarget
        simp only [after, write, located]
        exact byte_set_of_ne memory value different
      · obtain ⟨fault, refused, -⟩ :=
          Cells.exists_locate_error inside
        simp only [after, write, refused]
        rfl
  | writeSpan span values =>
      by_cases isZero : span.stride = some 0
      · rw [after, writeSpan_of_zero_stride memory isZero]
        rfl
      · rw [after, writeSpan_eq memory isZero]
        split
        · exact byte_setAll_of_not_mem memory values spared
        · rfl

theorem byte_afterAll
    (memory : Memory size)
    {accesses : List Access}
    {cell : Fin size}
    (spared : ∀ access ∈ accesses, ¬ access.Targets cell) :
    (memory.afterAll accesses).byte cell = memory.byte cell := by
  induction accesses generalizing memory with
  | nil => rfl
  | cons access rest inductionHypothesis =>
      calc
        (memory.afterAll (access :: rest)).byte cell
            = (memory.after access).byte cell :=
              inductionHypothesis (memory.after access) fun other member =>
                spared other (List.mem_cons_of_mem access member)
        _ = memory.byte cell :=
              memory.byte_after (spared access List.mem_cons_self)

/--
Whatever is written to a memory, each value goes to the cell that is meant for
it, or nothing is written at all.

The span of a write may have any bounds and any stride. With a stride of zero it
is refused, and so it is when there are not as many values as cells. An index
must count to a cell from the start or back from the end. Every access keeps the
number of cells and leaves bytes in them.
-/
theorem writes_reach_selected_cells
    {size : Nat}
    (memory : Memory size) :
    (∀ span values,
      span.stride = some 0 →
      memory.after (.writeSpan span values) = memory ∧
        ∃ fault,
          memory.writeSpan span values = .error fault ∧
            fault.families = [.value]) ∧
    (∀ span values,
      span.stride ≠ some 0 →
      values.length ≠ (span.selected size).length →
      memory.after (.writeSpan span values) = memory ∧
        ∃ fault,
          memory.writeSpan span values = .error fault ∧
            fault.families = [.index, .lookup]) ∧
    (∀ span values,
      span.stride ≠ some 0 →
      values.length = (span.selected size).length →
      ∃ written bytes,
        memory.writeSpan span values = .ok written ∧
          (span.selected size).map
              (fun cell => ((written.byte cell).toNat : Int)) =
            values.map (· % 256) ∧
          (∀ cell,
            cell ∉ span.selected size →
            written.byte cell = memory.byte cell) ∧
          written.readSpan span = .ok bytes ∧
          bytes.map (fun byte => (byte.toNat : Int)) = values.map (· % 256)) ∧
    (∀ index value : Int,
      -size ≤ index →
      index < size →
      ∃ (cell : Fin size) (written : Memory size),
        ((cell : Nat) : Int) = index % size ∧
          memory.write index value = .ok written ∧
          ((written.byte cell).toNat : Int) = value % 256 ∧
          ∀ other, other ≠ cell → written.byte other = memory.byte other) ∧
    (∀ index value : Int,
      ¬ (-size ≤ index ∧ index < size) →
      memory.after (.write index value) = memory ∧
        ∃ fault,
          memory.write index value = .error fault ∧
            fault.families = [.index, .lookup]) ∧
    ∀ accesses : List Access,
      (memory.afterAll accesses).toList.length = size ∧
        (∀ byte ∈ (memory.afterAll accesses).toList, byte.toNat ≤ 255) ∧
        ∀ cell,
          (∀ access ∈ accesses, ¬ access.Targets cell) →
          (memory.afterAll accesses).byte cell = memory.byte cell := by
  refine ⟨?zeroStride, ?otherCount, ?sameCount, ?inside, ?outside, ?run⟩
  case zeroStride =>
    intro span values isZero
    have refused := memory.writeSpan_of_zero_stride isZero values
    refine ⟨?_, .zeroStride, refused, rfl⟩
    rw [after, refused]
    rfl
  case otherCount =>
    intro span values notZero otherLength
    have refused := memory.writeSpan_eq notZero values
    rw [if_neg otherLength] at refused
    refine ⟨?_, _, refused, rfl⟩
    rw [after, refused]
    rfl
  case sameCount =>
    intro span values notZero sameLength
    have accepted := memory.writeSpan_eq notZero values
    rw [if_pos sameLength] at accepted
    have bytes :=
      memory.map_byte_setAll (span.nodup_selected size) sameLength
    have asNumbers :
        (values.map UInt8.ofInt).map (fun byte => (byte.toNat : Int)) =
          values.map (· % 256) := by
      rw [List.map_map]
      exact List.map_congr_left fun value _ => toNat_ofInt value
    refine ⟨_, _, accepted, ?_, ?_, readSpan_eq _ notZero, ?_⟩
    · rw [← asNumbers, ← bytes, List.map_map]
      rfl
    · exact fun cell => memory.byte_setAll_of_not_mem values
    · rw [bytes, asNumbers]
  case inside =>
    intro index value lower upper
    obtain ⟨cell, atCell, -, located⟩ :=
      Cells.exists_locate memory.bounded lower upper .noSuchCell
    refine ⟨cell, memory.set cell value, atCell, ?_,
      memory.byte_set_self cell value,
      fun other different => memory.byte_set_of_ne value different⟩
    simp only [write, located]
    rfl
  case outside =>
    intro index value notInside
    obtain ⟨fault, notLocated, families⟩ :=
      Cells.exists_locate_error notInside
    have refused : memory.write index value = .error fault := by
      simp only [write, notLocated]
      rfl
    refine ⟨?_, fault, refused, families⟩
    rw [after, refused]
    rfl
  case run =>
    intro accesses
    exact ⟨(memory.afterAll accesses).length_toList,
      fun byte _ => Nat.le_of_lt_succ byte.toNat_lt,
      fun cell => memory.byte_afterAll⟩

/--
Every second cell of four is written from the last one on; other writes
are refused.
-/
theorem writes_reach_selected_cells_from_last :
    let memory := Memory.blank 4
    let span : Cells.Span := ⟨none, none, some (-2)⟩
    (span.stride ≠ some 0 ∧
        [0x102, -1].length = (span.selected 4).length ∧
        ∃ written bytes,
          memory.writeSpan span [0x102, -1] = .ok written ∧
            written.readSpan span = .ok bytes ∧
            bytes.map (fun byte => (byte.toNat : Int)) = [2, 255]) ∧
      ([1].length ≠ (span.selected 4).length ∧
        memory.after (.writeSpan span [1]) = memory) ∧
      memory.after (.writeSpan ⟨none, none, some 0⟩ []) = memory ∧
      ((-4 ≤ (-1 : Int) ∧ (-1 : Int) < 4) ∧
        ∃ written, memory.write (-1) 0x1FF = .ok written) ∧
      (¬ (-4 ≤ (4 : Int) ∧ (4 : Int) < 4) ∧
        memory.after (.write 4 1) = memory) := by
  intro memory span
  obtain ⟨zeroStride, otherCount, sameCount, inside, outside, -⟩ :=
    writes_reach_selected_cells memory
  have notZero : span.stride ≠ some 0 := by
    decide
  have sameLength : [0x102, -1].length = (span.selected 4).length := by
    decide
  have otherLength : [1].length ≠ (span.selected 4).length := by
    decide
  have within : -4 ≤ (-1 : Int) ∧ (-1 : Int) < 4 := by
    decide
  have beyond : ¬ (-4 ≤ (4 : Int) ∧ (4 : Int) < 4) := by
    decide
  obtain ⟨written, bytes, accepted, -, -, readBack, same⟩ :=
    sameCount span [0x102, -1] notZero sameLength
  obtain ⟨-, changed, -, put, -⟩ := inside (-1) 0x1FF within.1 within.2
  exact ⟨⟨notZero, sameLength, written, bytes, accepted, readBack, same⟩,
    ⟨otherLength, (otherCount span [1] notZero otherLength).1⟩,
    (zeroStride ⟨none, none, some 0⟩ [] rfl).1,
    ⟨within, changed, put⟩,
    ⟨beyond, (outside 4 1 beyond).1⟩⟩

end Memory

end ChipEight
