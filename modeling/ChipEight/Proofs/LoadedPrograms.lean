import ChipEight.Proofs.Cycles
import ChipEight.Proofs.Histories
import ChipEight.Proofs.MemoryAccess

namespace ChipEight

/-!
# Programs in memory

A program that is loaded lies in memory byte for byte from the start of programs
on. Everything around it stays: the glyphs in front of it, what a longer program
left behind it, and all of the machine beside its memory. So two programs that
are loaded one after the other add up to one, the later in front and the rest of
the earlier behind it. A program for which there is no room leaves no trace, and
neither does a file that cannot be read.
-/

namespace Machine

/-- A machine becomes another one by a program that is put in its memory. -/
structure Receives
    (before : Machine)
    (program : List UInt8)
    (after : Machine) : Prop where
  memoryOnly :
    after = { before with memory := after.memory }
  inside :
    ∀ place (inProgram : place < program.length),
      ∃ cell : Fin memorySize,
        (cell : Nat) = 0x200 + place ∧
          after.memory.byte cell = program[place]
  outside :
    ∀ cell : Fin memorySize,
      (cell : Nat) < 0x200 ∨ 0x200 + program.length ≤ (cell : Nat) →
      after.memory.byte cell = before.memory.byte cell

namespace Receives

variable {machine after : Machine} {program overlay : List UInt8}

theorem byte_of_inside
    (receives : machine.Receives program after)
    {place : Nat}
    (inProgram : place < program.length)
    {cell : Fin memorySize}
    (atCell : (cell : Nat) = 0x200 + place) :
    after.memory.byte cell = program[place] := by
  obtain ⟨found, atFound, isByte⟩ := receives.inside place inProgram
  obtain rfl : found = cell := Fin.ext (atFound.trans atCell.symm)
  exact isByte

/-- A machine becomes only one other by a program. -/
theorem unique
    {other : Machine}
    (receives : machine.Receives program after)
    (receivesToo : machine.Receives program other) :
    after = other := by
  have sameMemory : after.memory = other.memory := by
    refine Memory.eq_of_byte fun cell => ?_
    by_cases outside :
      (cell : Nat) < 0x200 ∨ 0x200 + program.length ≤ (cell : Nat)
    · rw [receives.outside cell outside, receivesToo.outside cell outside]
    · have atCell : (cell : Nat) = 0x200 + ((cell : Nat) - 0x200) := by omega
      have inProgram : (cell : Nat) - 0x200 < program.length := by omega
      rw [receives.byte_of_inside inProgram atCell,
        receivesToo.byte_of_inside inProgram atCell]
  rw [receives.memoryOnly, receivesToo.memoryOnly, sameMemory]

/-- What a second program does not reach is left of the first one. -/
theorem trans
    {last : Machine}
    (receives : machine.Receives program after)
    (receivesOverlay : after.Receives overlay last) :
    machine.Receives (overlay ++ program.drop overlay.length) last where
  memoryOnly := by
    rw [receivesOverlay.memoryOnly, receives.memoryOnly]
  inside := by
    intro place inBoth
    by_cases inOverlay : place < overlay.length
    · rw [List.getElem_append_left inOverlay]
      exact receivesOverlay.inside place inOverlay
    · rw [List.length_append, List.length_drop] at inBoth
      have inProgram : place < program.length := by omega
      obtain ⟨cell, atCell, isByte⟩ := receives.inside place inProgram
      refine ⟨cell, atCell, ?_⟩
      have notOverlaid :
          last.memory.byte cell = after.memory.byte cell :=
        receivesOverlay.outside cell (by omega)
      have samePlace : overlay.length + (place - overlay.length) = place := by
        omega
      rw [notOverlaid, isByte,
        List.getElem_append_right (Nat.not_lt.mp inOverlay),
        List.getElem_drop]
      simp only [samePlace]
  outside := by
    intro cell outside
    rw [List.length_append, List.length_drop] at outside
    rw [receivesOverlay.outside cell (by omega),
      receives.outside cell (by omega)]

/-- Two bytes of a program are the next word where they lie. -/
theorem word_eq
    (receives : machine.Receives program after)
    (ready : Machine)
    (sameMemory : ready.memory = after.memory)
    (place : Nat)
    (inProgram : place + 1 < program.length)
    (atPlace : ready.programCounter = (0x200 + place : Nat)) :
    ready.word = 256 * program[place].toNat + program[place + 1].toNat := by
  obtain ⟨high, atHigh, isHigh⟩ := receives.inside place (by omega)
  obtain ⟨low, atLow, isLow⟩ := receives.inside (place + 1) inProgram
  rw [← sameMemory] at isHigh isLow
  have highByte : ready.byteAt (0x200 + place) = program[place] := by
    rw [← atHigh, byteAt_val]
    exact isHigh
  have lowByte : ready.byteAt (0x200 + place + 1) = program[place + 1] := by
    rw [Nat.add_assoc, ← atLow, byteAt_val]
    exact isLow
  rw [word, atPlace, Int.toNat_natCast, highByte, lowByte]

/-- Two bytes of a program are the word that is fetched where they lie. -/
theorem run_fetch
    (receives : machine.Receives program after)
    {place : Nat}
    (inProgram : place + 1 < program.length) :
    let ready := { after with programCounter := (0x200 + place : Nat) }
    Action.fetch.run ready =
      .ok (256 * program[place].toNat + program[place + 1].toNat) ready := by
  intro ready
  have counter : ready.programCounter = (0x200 + place : Nat) := rfl
  have inMemory : 0x200 + place + 1 < memorySize := by
    obtain ⟨low, atLow, -⟩ := receives.inside (place + 1) inProgram
    rw [Nat.add_assoc, ← atLow]
    exact low.isLt
  have atWord := receives.word_eq ready rfl place inProgram counter
  simp only [memorySize] at inMemory
  rw [Action.run_fetch ready (by omega) (by omega), atWord]
  rfl

end Receives

/-- A program for which there is room is put in memory. -/
theorem exists_receives_of_load
    (machine : Machine)
    {program : List UInt8}
    (fits : program.length ≤ 3584) :
    ∃ next,
      (Action.load program).run machine = .ok () next ∧
        machine.Receives program next := by
  obtain ⟨memory, stored, ran⟩ :=
    Action.exists_run_load_of_writeSpan fits machine
  have lower : (0 : Int) ≤ programStart := Int.natCast_nonneg _
  have ordered : (programStart : Int) ≤ programStart + program.length := by
    omega
  refine ⟨_, ran, rfl, ?inside, ?outside⟩
  case inside =>
    intro place inProgram
    have inMemory : 0x200 + place < memorySize := by
      simp only [memorySize]
      omega
    let cell : Fin memorySize := ⟨0x200 + place, inMemory⟩
    have atCell : ((cell : Nat) : Int) = programStart + place :=
      Int.natCast_add _ _
    have inValues :
        place < (program.map fun byte => (byte.toNat : Int)).length := by
      rwa [List.length_map]
    refine ⟨cell, rfl, ?_⟩
    rw [Memory.byte_writeSpan_between lower ordered stored inValues atCell,
      List.getElem_map, Memory.ofInt_toNat]
  case outside =>
    intro cell outside
    refine Memory.byte_writeSpan_between_of_outside lower ordered stored ?_
    simp only [programStart]
    omega

/--
A program that is loaded lies in memory as it is, and one that has no room leaves
no trace.

What is loaded on top of a program hides as much of it as it is long itself. Any
two bytes of a program make up the word that is fetched at their place. Loading
from a file is loading what is in it, and a file that cannot be read, be it missing
or for another cause, changes nothing.
-/
theorem loading_puts_program_in_place
    (machine : Machine)
    (program : List UInt8) :
    (program.length ≤ 3584 →
      ∃ next,
        (Action.load program).run machine = .ok () next ∧
          machine.Receives program next ∧
          ∀ place (inProgram : place + 1 < program.length),
            let ready :=
              { next with programCounter := (0x200 + place : Nat) }
            Action.fetch.run ready =
              .ok (256 * program[place].toNat + program[place + 1].toNat)
                ready) ∧
    (3584 < program.length →
      ∃ fault,
        (Action.load program).run machine = .error fault machine ∧
          fault.families = [.value]) ∧
    (∀ overlay : List UInt8,
      program.length ≤ 3584 →
      overlay.length ≤ 3584 →
      ∃ last,
        EStateM.run (do Action.load program; Action.load overlay) machine =
            .ok () last ∧
          (Action.load (overlay ++ program.drop overlay.length)).run machine =
            .ok () last) ∧
    ∀ fileAt path,
      (fileAt path = .ok program →
        (Action.loadFile fileAt path).run machine =
          (Action.load program).run machine) ∧
      (fileAt path = .error (.fileMissing path) →
        (Action.loadFile fileAt path).run machine =
          .error (.fileMissing path) machine) ∧
      ∀ fault,
        fileAt path = .error fault →
        (Action.loadFile fileAt path).run machine = .error fault machine := by
  refine ⟨?fits, ?tooLong, ?overlaid, ?fromFile⟩
  case fits =>
    intro fits
    obtain ⟨next, ran, receives⟩ := machine.exists_receives_of_load fits
    exact ⟨next, ran, receives, fun place => receives.run_fetch⟩
  case tooLong =>
    intro tooLong
    exact ⟨_, Action.run_load_of_tooLong tooLong machine, rfl⟩
  case overlaid =>
    intro overlay fits overlayFits
    obtain ⟨next, ran, receives⟩ := machine.exists_receives_of_load fits
    obtain ⟨last, ranOverlay, receivesOverlay⟩ :=
      next.exists_receives_of_load overlayFits
    have bothFit :
        (overlay ++ program.drop overlay.length).length ≤ 3584 := by
      rw [List.length_append, List.length_drop]
      omega
    obtain ⟨other, ranBoth, receivesBoth⟩ :=
      machine.exists_receives_of_load bothFit
    obtain rfl : other = last :=
      receivesBoth.unique (receives.trans receivesOverlay)
    exact ⟨other, by simp [ran, ranOverlay], ranBoth⟩
  case fromFile =>
    intro fileAt path
    have unread (fault : Fault) (refused : fileAt path = .error fault) :
        (Action.loadFile fileAt path).run machine = .error fault machine := by
      simp [Action.loadFile, refused]
    refine ⟨fun found => ?_, unread (.fileMissing path), unread⟩
    simp [Action.loadFile, found]

/-- A byte is loaded over three others, from a directory with one file. -/
theorem loading_puts_program_in_place_over_longer :
    let machine := fresh (Display.blank 64 32) (RandomTape.start [])
    let program : List UInt8 := [0x11, 0x11, 0x11]
    let fileAt (path : String) : Except Fault (List UInt8) :=
      if path = "a" then .ok program else .error (.fileMissing path)
    let tooLong : List UInt8 := List.replicate 3585 0
    ((program.length ≤ 3584 ∧ [0x22].length ≤ 3584) ∧
      ∃ last,
        EStateM.run (do Action.load program; Action.load [0x22]) machine =
            .ok () last ∧
          (Action.load [0x22, 0x11, 0x11]).run machine = .ok () last) ∧
    (3584 < tooLong.length ∧
      ∃ fault,
        (Action.load tooLong).run machine = .error fault machine) ∧
    (fileAt "a" = .ok program ∧
      (Action.loadFile fileAt "a").run machine =
        (Action.load program).run machine) ∧
    fileAt "b" = .error (.fileMissing "b") ∧
      (Action.loadFile fileAt "b").run machine =
        .error (.fileMissing "b") machine := by
  intro machine program fileAt tooLong
  have fits : program.length ≤ 3584 := by
    decide
  have overlayFits : [0x22].length ≤ 3584 := by
    decide
  have found : fileAt "a" = .ok program :=
    if_pos rfl
  have missing : fileAt "b" = .error (.fileMissing "b") :=
    if_neg (by decide)
  have long : 3584 < tooLong.length :=
    Nat.lt_of_lt_of_eq (by decide) List.length_replicate.symm
  obtain ⟨-, -, overlaid, fromFile⟩ :=
    loading_puts_program_in_place machine program
  obtain ⟨-, refused, -, -⟩ := loading_puts_program_in_place machine tooLong
  obtain ⟨fault, ran, -⟩ := refused long
  exact ⟨⟨⟨fits, overlayFits⟩, overlaid [0x22] fits overlayFits⟩,
    ⟨long, fault, ran⟩, ⟨found, (fromFile fileAt "a").1 found⟩,
    missing, (fromFile fileAt "b").2.1 missing⟩

end Machine

end ChipEight
