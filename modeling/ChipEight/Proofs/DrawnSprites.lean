import ChipEight.Proofs.DrawingOrder
import ChipEight.Proofs.Histories

namespace ChipEight

/-!
# Sprites drawn by programs

A program draws the rows of a sprite that the index register points to, as far
as they lie in memory, at the coordinates in two registers, and finds in the
flag register whether a pixel was turned off on the way. Drawing the same sprite
again takes it away. Each of its set bits turns a pixel off in one of the two
drawings, so the two flags together tell whether there was anything to draw.
-/

namespace Display

/-! Turning pixels off. -/

/-- Whether a pixel that is lit becomes dark while dots are drawn in turn. -/
inductive TurnsOff :
    Display →
    List Dot →
    Prop where
  | here
      {display drawn : Display}
      {dot : Dot}
      {rest : List Dot}
      {erased : Bool}
      {column row : Nat}
      (drawing : display.drawDot dot = .ok (drawn, erased))
      (lit : display.isLit column row = true)
      (dark : drawn.isLit column row = false) :
      TurnsOff display (dot :: rest)
  | later
      {display drawn : Display}
      {dot : Dot}
      {rest : List Dot}
      {erased : Bool}
      (drawing : display.drawDot dot = .ok (drawn, erased))
      (turnsOff : TurnsOff drawn rest) :
      TurnsOff display (dot :: rest)

theorem holds_of_isLit
    {display : Display}
    {column row : Nat}
    (lit : display.isLit column row = true) :
    display.Holds column row := by
  rw [isLit] at lit
  split at lit
  · next inside => exact inside
  · cases lit

/--
Where no pixel is struck twice, a strike turns something off when a lit
pixel becomes dark.
-/
theorem Struck.erased_iff_darkens
    {display drawn : Display}
    {strikes : Nat → Nat → Nat}
    {erased : Bool}
    (struck : display.Struck strikes drawn erased)
    (once : ∀ column row, strikes column row ≤ 1) :
    erased = true ↔
      ∃ column row,
        display.isLit column row = true ∧
          drawn.isLit column row = false := by
  rw [struck.erasure]
  constructor
  · rintro ⟨column, row, inside, twice⟩
    have atMostOne := Bool.toNat_le (display.isLit column row)
    have atMostOnce := once column row
    have after := struck.pixels column row inside
    refine ⟨column, row, Bool.toNat_eq_one.mp ?_, Bool.toNat_eq_zero.mp ?_⟩
    · omega
    · omega
  · rintro ⟨column, row, lit, dark⟩
    have inside := holds_of_isLit lit
    have after := struck.pixels column row inside
    rw [lit, dark, Bool.toNat_true, Bool.toNat_false] at after
    refine ⟨column, row, inside, ?_⟩
    rw [lit, Bool.toNat_true]
    omega

/-- The flag of a drawing tells whether a pixel was turned off on the way. -/
theorem erased_iff_turnsOff
    {display drawn : Display}
    {erased : Bool}
    (wide : 0 < display.width)
    (tall : 0 < display.height)
    {dots : List Dot}
    (drawing : display.drawDots dots = .ok (drawn, erased)) :
    erased = true ↔ display.TurnsOff dots := by
  induction dots generalizing display drawn erased with
  | nil =>
      cases drawing
      constructor <;> rintro ⟨⟩
  | cons dot rest inductionHypothesis =>
      obtain ⟨between, erasedHere, here, struck⟩ :=
        struck_drawDot display wide tall dot
      have wideStill : 0 < between.width := by
        rw [struck.width]
        exact wide
      have tallStill : 0 < between.height := by
        rw [struck.height]
        exact tall
      obtain ⟨finished, erasedLater, later, -⟩ :=
        struck_drawDots between wideStill tallStill rest
      have darkens := struck.erased_iff_darkens fun _ _ => Bool.toNat_le _
      have darkensLater := inductionHypothesis wideStill tallStill later
      simp only [drawDots, here, later, bind, Except.bind] at drawing
      cases drawing
      rw [Bool.or_eq_true, darkens, darkensLater]
      constructor
      · rintro (⟨column, row, lit, dark⟩ | turnsOff)
        · exact .here here lit dark
        · exact .later here turnsOff
      · intro turnsOff
        cases turnsOff with
        | here drawing lit dark =>
            cases here.symm.trans drawing
            exact Or.inl ⟨_, _, lit, dark⟩
        | later drawing turnsOff =>
            cases here.symm.trans drawing
            exact Or.inr turnsOff

/-! Drawing twice. -/

/-- Some pixel is hit exactly by sprites in which a bit is set. -/
theorem exists_hits_pos_iff
    (display : Display)
    (wide : 0 < display.width)
    (tall : 0 < display.height)
    (sprite : List Int)
    (x y : Int) :
    (∃ column row,
      display.Holds column row ∧
        0 < hits sprite x y display.width display.height column row) ↔
      ∃ pattern ∈ sprite, ∃ place < 8, pattern.testBit place = true := by
  simp only [hits, Finset.card_pos]
  constructor
  · rintro ⟨column, row, -, ⟨line, place⟩, hit⟩
    simp only [Finset.mem_filter, Finset.mem_product, Finset.mem_range] at hit
    obtain ⟨⟨lineInside, placeInside⟩, isSet, -⟩ := hit
    rw [List.getD_eq_getElem _ _ lineInside] at isSet
    exact ⟨_, List.getElem_mem lineInside, 7 - place, by omega, isSet⟩
  · rintro ⟨pattern, member, place, placeInside, isSet⟩
    obtain ⟨line, lineInside, rfl⟩ := List.mem_iff_getElem.mp member
    have columnLower := Int.emod_nonneg (x + (7 - place : Nat)) wide.ne'
    have columnUpper := Int.emod_lt_of_pos (x + (7 - place : Nat)) wide
    have rowLower := Int.emod_nonneg (y + line) tall.ne'
    have rowUpper := Int.emod_lt_of_pos (y + line) tall
    have samePlace : 7 - (7 - place) = place := by omega
    refine ⟨((x + (7 - place : Nat)) % display.width).toNat,
      ((y + line) % display.height).toNat, ⟨by omega, by omega⟩,
      (line, 7 - place), ?_⟩
    simp only [Finset.mem_filter, Finset.mem_product, Finset.mem_range,
      List.getD_eq_getElem _ _ lineInside, samePlace,
      Int.toNat_of_nonneg columnLower, Int.toNat_of_nonneg rowLower, and_true]
    exact ⟨⟨lineInside, by omega⟩, isSet⟩

/-- What is drawn twice is not seen, and was turned off once where a bit is set. -/
theorem draw_twice
    (display : Display)
    (wide : 0 < display.width)
    (tall : 0 < display.height)
    (sprite : List Int)
    (x y : Int) :
    ∃ drawn erased erasedAgain,
      display.draw sprite x y = .ok (drawn, erased) ∧
        drawn.draw sprite x y = .ok (display, erasedAgain) ∧
        ((erased = true ∨ erasedAgain = true) ↔
          ∃ pattern ∈ sprite, ∃ place < 8, pattern.testBit place = true) := by
  obtain ⟨drawn, erased, drawing, struck⟩ :=
    display.struck_draw wide tall sprite x y
  obtain ⟨finished, erasedAgain, again, struckAgain⟩ :=
    drawn.struck_draw (by rw [struck.width]; exact wide)
      (by rw [struck.height]; exact tall) sprite x y
  rw [struck.width, struck.height] at struckAgain
  have struckTwice := struck.trans struckAgain
  have sameDisplay : finished = display := by
    apply struckTwice.eq_of_parity (Struck.refl display)
    intro column row _
    omega
  refine ⟨drawn, erased, erasedAgain, drawing, sameDisplay ▸ again, ?_⟩
  rw [← Bool.or_eq_true, struckTwice.erasure,
    ← display.exists_hits_pos_iff wide tall sprite x y]
  -- Both drawings together strike a pixel an even number of times.
  refine exists_congr fun column => exists_congr fun row => ?_
  have atMostOne := Bool.toNat_le (display.isLit column row)
  exact and_congr_right fun _ => by omega

end Display

namespace Machine

variable {width height : Int} {machine : Machine}

/--
The rows of a sprite that the index register points to, those beyond
memory left out.
-/
def spriteRows
    (machine : Machine)
    (count : Nat) :
    List Int :=
  (List.range count).filterMap fun line : Nat =>
    if machine.indexRegister + line < memorySize then
      some (machine.byteAt (machine.indexRegister.toNat + line)).toNat
    else
      none

/-- The bytes that are drawn are the rows of the sprite. -/
theorem indexedBytes_eq
    (lower : 0 ≤ machine.indexRegister)
    (count : Nat) :
    Action.indexedBytes machine count = machine.spriteRows count := by
  induction count with
  | zero => rfl
  | succ count inductionHypothesis =>
      rw [Action.indexedBytes, List.take_add_one, List.map_append,
        ← Action.indexedBytes, inductionHypothesis, spriteRows, spriteRows,
        List.range_succ, List.filterMap_append, List.getElem?_drop,
        Memory.toList, Vector.getElem?_toList]
      congr 1
      by_cases inside : machine.indexRegister + count < memorySize
      · have inMemory : machine.indexRegister.toNat + count < memorySize := by
          omega
        simp [inside, byteAt, Vector.getElem?_eq_getElem inMemory]
      · have behind : memorySize ≤ machine.indexRegister.toNat + count := by
          omega
        simp [inside, Vector.getElem?_eq_none behind]

/-- The machine after a sprite was drawn. -/
def afterDrawing
    (machine : Machine)
    (drawn : Display)
    (erased : Bool) :
    Machine :=
  { machine with
    display := drawn,
    registers := machine.registers.set flag erased.toNat,
    displayChanged := true,
    programCounter := machine.programCounter + 2 }

/-- The flag register tells whether the drawing turned a pixel off. -/
theorem byte_flag_afterDrawing
    (machine : Machine)
    (drawn : Display)
    (erased : Bool) :
    (machine.afterDrawing drawn erased).registers.byte flag = 1 ↔
      erased = true := by
  rw [afterDrawing, Memory.byte_set, if_pos rfl]
  cases erased <;> decide

theorem byte_afterDrawing_of_ne
    (machine : Machine)
    (drawn : Display)
    (erased : Bool)
    {x : Fin registerCount}
    (notFlag : x ≠ flag) :
    (machine.afterDrawing drawn erased).registers.byte x =
      machine.registers.byte x := by
  rw [afterDrawing, Memory.byte_set, if_neg notFlag.symm]

/--
The rows of a sprite are drawn at two registers as they are before the
flag is written.
-/
theorem run_drw
    (machine : Machine)
    (lower : 0 ≤ machine.indexRegister)
    (x y : Fin registerCount)
    (n : Nat)
    {drawn : Display}
    {erased : Bool}
    (drawing :
      machine.display.draw (machine.spriteRows n)
          (machine.registers.byte x).toNat (machine.registers.byte y).toNat =
        .ok (drawn, erased)) :
    (Action.execute .drw (.sprite (x : Nat) (y : Nat) n)).run machine =
      .ok () (machine.afterDrawing drawn erased) := by
  rw [← indexedBytes_eq lower] at drawing
  exact Action.run_drw machine x y n lower drawing

/--
Drawing a sprite twice gives the display back, and finds whether there was
anything to draw.
-/
theorem run_drw_twice
    (lower : 0 ≤ machine.indexRegister)
    (wide : 0 < machine.display.width)
    (tall : 0 < machine.display.height)
    {x y : Fin registerCount}
    (notFlagX : x ≠ flag)
    (notFlagY : y ≠ flag)
    (n : Nat) :
    ∃ once twice,
      (Action.execute .drw (.sprite (x : Nat) (y : Nat) n)).run machine =
          .ok () once ∧
        (Action.execute .drw (.sprite (x : Nat) (y : Nat) n)).run once =
          .ok () twice ∧
        twice.display = machine.display ∧
        ((once.registers.byte flag = 1 ∨ twice.registers.byte flag = 1) ↔
          ∃ pattern ∈ machine.spriteRows n,
            ∃ place < 8, pattern.testBit place = true) := by
  obtain ⟨drawn, erased, erasedAgain, drawing, again, anySet⟩ :=
    machine.display.draw_twice wide tall (machine.spriteRows n)
      (machine.registers.byte x).toNat (machine.registers.byte y).toNat
  -- The sprite and the coordinates are as before, since only the flag was written.
  rw [← byte_afterDrawing_of_ne machine drawn erased notFlagX,
    ← byte_afterDrawing_of_ne machine drawn erased notFlagY] at again
  refine ⟨machine.afterDrawing drawn erased,
    (machine.afterDrawing drawn erased).afterDrawing machine.display
      erasedAgain,
    machine.run_drw lower x y n drawing,
    (machine.afterDrawing drawn erased).run_drw lower x y n again,
    rfl, ?_⟩
  rw [byte_flag_afterDrawing, byte_flag_afterDrawing, anySet]

/-- Beyond memory there are no rows. -/
theorem spriteRows_of_size_le
    (behind : memorySize ≤ machine.indexRegister)
    (count : Nat) :
    machine.spriteRows count = [] := by
  rw [spriteRows, List.filterMap_eq_nil_iff]
  intro line _
  rw [if_neg (by omega)]

open Display in
/--
A program draws the sprite that the index register points to, and takes it away
when it draws it again.

The rows are those in memory, and the coordinates are read from their registers
before the flag is written, even if it is one of them. The flag tells whether a
pixel was turned off on the way. Of two drawings of one sprite, at registers
other than the flag, one turns a pixel off whenever there is a bit to draw.
-/
theorem sprite_is_drawn_from_memory
    (width height : Int)
    (wide : 1 ≤ width)
    (tall : 1 ≤ height)
    (random : RandomTape)
    (moves : List Move)
    (x y : Fin registerCount)
    (n : Fin 0x10) :
    let machine := (fresh (Display.blank width height) random).afterAll moves
    let sprite := machine.spriteRows n
    let across := (machine.registers.byte x).toNat
    let down := (machine.registers.byte y).toNat
    (memorySize ≤ machine.indexRegister → sprite = []) ∧
    (∃ drawn erased,
      machine.display.draw sprite across down = .ok (drawn, erased) ∧
        machine.display.Struck (hits sprite across down width height)
          drawn erased ∧
        (erased = true ↔
          machine.display.TurnsOff (spriteDots across down sprite)) ∧
        (machine.programCounter < 4095 →
          machine.word = 0xD000 + (0x100 * x + 0x10 * y + n) →
          Action.cycle.run machine =
            .ok
              { address := machine.programCounter,
                instruction := ⟨.drw, .sprite (x : Nat) (y : Nat) (n : Nat)⟩ }
              (machine.afterDrawing drawn erased))) ∧
    (x ≠ flag →
      y ≠ flag →
      ∃ once twice,
        (Action.execute .drw
            (.sprite (x : Nat) (y : Nat) (n : Nat))).run machine =
            .ok () once ∧
          (Action.execute .drw
            (.sprite (x : Nat) (y : Nat) (n : Nat))).run once =
            .ok () twice ∧
          twice.display = machine.display ∧
          ((once.registers.byte flag = 1 ∨ twice.registers.byte flag = 1) ↔
            ∃ pattern ∈ sprite,
              ∃ place < 8, pattern.testBit place = true)) := by
  intro machine sprite across down
  have bounded : machine.Bounded width height :=
    (Bounded.fresh wide tall random).afterAll moves
  have ⟨sameWidth, sameHeight⟩ := bounded.display
  have lower := bounded.indexRegister
  have wideHere : 0 < machine.display.width := by omega
  have tallHere : 0 < machine.display.height := by omega
  refine ⟨fun behind => spriteRows_of_size_le behind n, ?once, ?twice⟩
  case once =>
    obtain ⟨drawn, erased, drawing, struck⟩ :=
      machine.display.struck_draw wideHere tallHere sprite across down
    rw [sameWidth, sameHeight] at struck
    refine ⟨drawn, erased, drawing, struck,
      erased_iff_turnsOff wideHere tallHere drawing, ?_⟩
    intro inside atWord
    have decoded :=
      (Instruction.decode_eq_drw_iff machine.word_lt x y n).mpr atWord
    rw [Action.run_cycle_of_decoded machine bounded.programCounter.1 inside
      decoded, machine.settled.run_drw lower x y n drawing]
    rfl
  case twice =>
    intro notFlagX notFlagY
    exact run_drw_twice lower wideHere tallHere notFlagX notFlagY n

/--
The first row of a glyph goes twice around a narrow display and erases itself.
-/
theorem sprite_is_drawn_from_memory_around_narrow :
    let machine :=
      (fresh (Display.blank 2 1) (RandomTape.start [])).afterAll
        [.load [0xD0, 0x01]]
    (1 : Int) ≤ 2 ∧
      (1 : Int) ≤ 1 ∧
      (∃ executed next,
        Action.cycle.run machine = .ok executed next ∧
          next.registers.byte flag = 1) ∧
      ∃ once twice,
        (Action.execute .drw (.sprite 0 0 1)).run machine = .ok () once ∧
          (Action.execute .drw (.sprite 0 0 1)).run once = .ok () twice ∧
          twice.display = machine.display := by
  intro machine
  have wide : (1 : Int) ≤ 2 := by decide
  have tall : (1 : Int) ≤ 1 := by decide
  have notFlag : first ≠ flag := by decide
  have atStart : machine.programCounter = 0x200 := rfl
  have atWord : machine.word = 0xD001 :=
    word_after_load_pair (fresh (Display.blank 2 1) (RandomTape.start [])) rfl
      0xD0 0x01
  have top : machine.byteAt 0 = 0xF0 := by
    have loaded :
        machine =
          machineOf
            ((Action.load [0xD0, 0x01]).run
              (fresh (Display.blank 2 1) (RandomTape.start []))) :=
      rfl
    rw [loaded, Action.run_load_pair]
    simp only [machineOf]
    rw [byteAt_val _ ⟨0, by decide⟩, Memory.byte_set, if_neg (by decide),
      Memory.byte_set, if_neg (by decide), Memory.byte]
    exact Vector.getElem_ofFn _
  have bar : machine.spriteRows 1 = [0xF0] := by
    have atZero : machine.indexRegister = 0 := rfl
    simp [spriteRows, atZero, top, memorySize]
  obtain ⟨-, ⟨drawn, erased, -, struck, -, runs⟩, twice⟩ :=
    sprite_is_drawn_from_memory 2 1 wide tall (RandomTape.start [])
      [.load [0xD0, 0x01]] first first 1
  have collided : erased = true := by
    have twiceHit : Display.hits [0xF0] 0 0 2 1 0 0 = 2 := by decide
    have atOrigin : (machine.registers.byte first).toNat = 0 := rfl
    refine struck.erasure.mpr ⟨0, 0, ⟨Nat.zero_lt_two, Nat.one_pos⟩, ?_⟩
    change
      2 ≤ (machine.display.isLit 0 0).toNat +
        Display.hits (machine.spriteRows 1) (machine.registers.byte first).toNat
          (machine.registers.byte first).toNat 2 1 0 0
    rw [bar, atOrigin, Int.natCast_zero, twiceHit]
    omega
  obtain ⟨once, again, ran, ranAgain, back, -⟩ := twice notFlag notFlag
  exact ⟨wide, tall,
    ⟨_, _, runs (lt_of_eq_of_lt atStart (by decide)) atWord,
      (byte_flag_afterDrawing machine drawn erased).mpr collided⟩,
    once, again, ran, ranAgain, back⟩

end Machine

end ChipEight
