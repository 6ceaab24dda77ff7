import ChipEight.Emulator
import ChipEight.Proofs.Sessions

namespace ChipEight

/-!
# How the emulator ends

The emulator reports a failed program together with its machine, but only if
the fault counts as one of a program. The faults of an unknown word and of the
stack do. Leaving memory does not, although only a program can bring it about:
a program that does so ends the emulator without a report.
-/

namespace Machine

variable {width height : Int} {machine : Machine} {fault : Fault}

/-- A cycle fails with one fault only. -/
theorem FailsWith.eq
    {other : Fault}
    (fails : machine.FailsWith fault)
    (failsToo : machine.FailsWith other) :
    fault = other := by
  obtain ⟨stopped, ran⟩ := fails
  obtain ⟨stoppedToo, ranToo⟩ := failsToo
  rw [ran] at ranToo
  cases ranToo
  rfl

/-- Leaving memory is a failed look-up and nothing more. -/
theorem families_of_leavesMemory
    (bounded : machine.Bounded width height)
    (fails : machine.FailsWith fault)
    (leaves : machine.LeavesMemory) :
    fault.families = [.index, .lookup] := by
  obtain ⟨found, failsToo, families⟩ :=
    exists_failsWith_of_leavesMemory bounded leaves
  rw [fails.eq failsToo]
  exact families

/-- All faults of a cycle count as a program's, except those of leaving memory. -/
theorem ofProgram_iff_not_leavesMemory
    (bounded : machine.Bounded width height)
    (fails : machine.FailsWith fault) :
    fault.ofProgram = true ↔ ¬ machine.LeavesMemory := by
  constructor
  · intro ofProgram leaves
    rw [Fault.ofProgram, families_of_leavesMemory bounded fails leaves]
      at ofProgram
    exact absurd ofProgram (by decide)
  · intro stays
    rcases reason_of_failsWith bounded fails with
      ⟨rfl, -⟩ | ⟨rfl, -⟩ | ⟨rfl, -⟩ | ⟨-, leaves⟩
    · rfl
    · rfl
    · rfl
    · exact absurd leaves stays

end Machine

namespace Emulator

/--
Whether the emulator gets as far as running the program that its arguments name.
-/
structure Loads
    (surroundings : Surroundings)
    (arguments : List String)
    (path : String)
    (rate scale : Int)
    (window : Window)
    (program : List UInt8) : Prop where
  reads :
    readArguments arguments =
      .settings { file := some path, rate := some rate, scale := some scale }
  named : (captionFor path).toList.contains '\x00' = false
  opens :
    Window.create displayWidth displayHeight scale defaultBackground
        defaultForeground =
      .ok window
  found : surroundings.fileAt path = .ok program
  fits : program.length ≤ 3584

variable {surroundings : Surroundings} {arguments : List String}
  {path : String} {rate scale : Int} {window : Window} {program : List UInt8}

/-- The machine that the emulator runs the program on. -/
theorem run_loading
    (loads : Loads surroundings arguments path rate scale window program) :
    (Action.loadFile surroundings.fileAt path).run
        (newMachine surroundings.random) =
      .ok () ((newMachine surroundings.random).after (.load program)) := by
  obtain ⟨memory, ran⟩ :=
    Action.exists_run_load loads.fits (newMachine surroundings.random)
  rw [Machine.after, ran, Action.loadFile, loads.found]
  exact ran

/-- The emulator ends as the loop does. -/
theorem ending_run_of_loads
    (loads : Loads surroundings arguments path rate scale window program) :
    (run surroundings arguments).ending =
      endingOf
        (Session.run rate surroundings.frames
          ((newMachine surroundings.random).after (.load program))) := by
  simp only [run, loads.reads, runSettings, runNamed, loads.named, runWindow,
    loads.opens, runProgram, run_loading loads, runLoaded,
    Bool.false_eq_true, if_false]

theorem endingOf_of_ofProgram
    {session : Session}
    {fault : Fault}
    (raised : session.fault = some fault)
    (ofProgram : fault.ofProgram = true) :
    endingOf session = .crashed (crashReport fault session.machine) := by
  rw [endingOf, raised]
  exact if_pos ofProgram

theorem endingOf_of_not_ofProgram
    {session : Session}
    {fault : Fault}
    (raised : session.fault = some fault)
    (notOfProgram : fault.ofProgram = false) :
    endingOf session = .failed fault := by
  rw [endingOf, raised]
  exact if_neg (Bool.eq_false_iff.mp notOfProgram)

/-- The machine that a loaded program runs on keeps to its bounds. -/
theorem bounded_loaded
    (random : List Int)
    (program : List UInt8) :
    ((newMachine random).after (.load program)).Bounded
      displayWidth displayHeight :=
  (Machine.Bounded.fresh (by decide) (by decide) _).after (.load program)

/-- Surroundings in which the file at every path holds a program. -/
def holding
    (program : List UInt8)
    (frames : List (List Event)) :
    Surroundings where
  fileAt := fun _ => .ok program
  frames := frames
  random := []
  tracing := false

/-- A path of one letter names the window as it is. -/
theorem captionFor_single :
    captionFor "a" = "a" := by
  have whole : "a".splitOn "/" = ["a"] := by
    unfold String.splitOn
    -- The first step passes the letter, and the second one is at the end.
    rw [if_neg (by decide), String.splitOnAux.eq_def, if_neg (by decide),
      if_neg (by decide), String.splitOnAux.eq_def, if_pos (by decide)]
    decide
  rw [captionFor, whole]
  rfl

/-- With a file that there is room for, the emulator runs what is in it. -/
theorem exists_loads
    (frames : List (List Event))
    (program : List UInt8)
    (fits : program.length ≤ 3584) :
    ∃ window,
      Loads (holding program frames) ["-f", "a"] "a" 300 15 window program := by
  refine ⟨_, ?_, ?_, rfl, rfl, fits⟩
  · decide
  · rw [captionFor_single]
    decide

/-- A program that begins with a return fails in its first cycle. -/
theorem failsWith_after_load_return
    (random : List Int) :
    ((newMachine random).after (.load [0x00, 0xEE])).FailsWith .noOpenCall :=
  Machine.failsWith_noOpenCall (bounded_loaded random _)
    (Machine.returnsFromNoCall_after_load rfl rfl)

open Machine in
/--
A program ends the emulator without a report exactly if it leaves memory.

The first cycle to fail, if there is one, ends the emulator with a report or, if
it leaves memory, with a bare failed look-up. That is so because the faults of a
cycle count as a program's, whatever happened before, unless it leaves memory.
-/
theorem unreported_exactly_leaving_memory
    (surroundings : Surroundings)
    (arguments : List String)
    (path : String)
    (rate scale : Int)
    (window : Window)
    (program : List UInt8)
    (loads : Loads surroundings arguments path rate scale window program) :
    let chip := (newMachine surroundings.random).after (.load program)
    let ending := (run surroundings arguments).ending
    let last := surroundings.frames.findIdx fun frame => frame.any Event.ends
    let seen := chip.beforeCycle rate 0 surroundings.frames
    ((∀ place < last, ∀ fault, ¬ (seen place).FailsWith fault) →
      ending = .finished) ∧
    (∀ failing < last,
      ∀ fault,
        (∀ place < failing, ∀ fault, ¬ (seen place).FailsWith fault) →
        (seen failing).FailsWith fault →
        (¬ (seen failing).LeavesMemory →
          ending =
            .crashed
              ("\n".intercalate
                ["********** THE EMULATOR CRASHED WITH THE FOLLOWING STATE",
                  fault.message,
                  ((seen failing).after .cycle).dump])) ∧
        ((seen failing).LeavesMemory →
          ending = .failed fault ∧ fault.families = [.index, .lookup])) ∧
    ∀ width height : Int,
      1 ≤ width →
      1 ≤ height →
      ∀ random moves,
        let machine :=
          (fresh (Display.blank width height) random).afterAll moves
        ∀ fault,
          machine.FailsWith fault →
          (fault.ofProgram = true ↔ ¬ machine.LeavesMemory) := by
  intro chip ending last seen
  have asTheLoop :
      ending = endingOf (Session.run rate surroundings.frames chip) :=
    ending_run_of_loads loads
  have chipBounded : chip.Bounded displayWidth displayHeight :=
    bounded_loaded surroundings.random program
  refine ⟨?finishes, ?fails, ?ofCycle⟩
  case finishes =>
    intro succeeds
    obtain ⟨-, noFault, -⟩ := Session.run_of_succeeds rfl succeeds
    rw [asTheLoop, endingOf, noFault]
  case fails =>
    intro failing beforeLast fault succeeds fails
    obtain ⟨atEnd, raised, -⟩ :=
      Session.run_of_fails beforeLast succeeds fails
    have bounded : (seen failing).Bounded displayWidth displayHeight :=
      chipBounded.afterAll _
    have reported := ofProgram_iff_not_leavesMemory bounded fails
    constructor
    · intro stays
      rw [asTheLoop, endingOf_of_ofProgram raised (reported.mpr stays), atEnd]
      rfl
    · intro leaves
      have notOfProgram : fault.ofProgram = false :=
        Bool.eq_false_iff.mpr fun ofProgram => reported.mp ofProgram leaves
      exact ⟨asTheLoop.trans (endingOf_of_not_ofProgram raised notOfProgram),
        families_of_leavesMemory bounded fails leaves⟩
  case ofCycle =>
    intro width height wide tall random moves machine fault fails
    exact ofProgram_iff_not_leavesMemory
      ((Bounded.fresh wide tall random).afterAll moves) fails

/-- A program that begins with a return is reported. -/
theorem unreported_exactly_leaving_memory_of_first_return :
    ∃ window,
      let surroundings := holding [0x00, 0xEE] [[]]
      Loads surroundings ["-f", "a"] "a" 300 15 window [0x00, 0xEE] ∧
        ∃ dump,
          (run surroundings ["-f", "a"]).ending =
            .crashed
              ("\n".intercalate
                ["********** THE EMULATOR CRASHED WITH THE FOLLOWING STATE",
                  "Cannot return from a subroutine, the CHIP-8 stack is empty",
                  dump]) := by
  obtain ⟨window, loads⟩ :=
    exists_loads [[]] [0x00, 0xEE] (by decide)
  have fails := failsWith_after_load_return []
  have stays :=
    (Machine.ofProgram_iff_not_leavesMemory (bounded_loaded [] _) fails).mp rfl
  obtain ⟨-, firstFailure, -⟩ :=
    unreported_exactly_leaving_memory _ _ _ _ _ _ _ loads
  obtain ⟨reported, -⟩ :=
    firstFailure 0 Nat.zero_lt_one .noOpenCall nofun fails
  exact ⟨window, loads, _, reported stays⟩

/-- A program that jumps to the last cell ends the emulator without a report. -/
theorem first_jump_to_last_cell_goes_unreported :
    ∃ window,
      let surroundings := holding [0x1F, 0xFF] [[], []]
      Loads surroundings ["-f", "a"] "a" 300 15 window [0x1F, 0xFF] ∧
        (run surroundings ["-f", "a"]).ending = .failed .noSuchCell ∧
        Fault.noSuchCell.ofProgram = false := by
  -- The two cycles are run on any machine, as a given one would be evaluated.
  have secondFails
      (chip : Machine)
      (succeeds : ∀ fault, ¬ chip.FailsWith fault)
      (fails : (chip.after .cycle).FailsWith .noSuchCell) :
      (Session.run 300 [[], []] chip).fault = some .noSuchCell := by
    have onlyFirst :
        ∀ place < 1,
          ∀ fault,
            ¬ (chip.beforeCycle 300 0 [[], []] place).FailsWith fault := by
      intro place first
      obtain rfl := Nat.lt_one_iff.mp first
      exact succeeds
    have beforeLast :
        1 < [[], []].findIdx fun frame => frame.any Event.ends := by
      decide
    exact (Session.run_of_fails beforeLast onlyFirst fails).2.1
  obtain ⟨window, loads⟩ :=
    exists_loads [[], []] [0x1F, 0xFF] (by decide)
  have atJump :
      ((newMachine []).after (.load [0x1F, 0xFF])).word = 0x1FFF :=
    Machine.word_after_load_pair _ rfl 0x1F 0xFF
  have atStart :
      ((newMachine []).after (.load [0x1F, 0xFF])).programCounter = 0x200 :=
    Machine.programCounter_after_load_pair _ 0x1F 0xFF
  have succeeds :
      ∀ fault,
        ¬ ((newMachine []).after (.load [0x1F, 0xFF])).FailsWith fault :=
    Machine.not_failsWith_of_jump (by omega) (by omega) ⟨0xFFF, by decide⟩
      atJump
  have atLast :=
    Machine.programCounter_after_load_jump (newMachine []) rfl 0x1F 0xFF
      ⟨0xFFF, by decide⟩ rfl
  rw [Machine.afterAll_cons, Machine.afterAll_cons, Machine.afterAll_nil]
    at atLast
  have fails :
      (((newMachine []).after (.load [0x1F, 0xFF])).after .cycle).FailsWith
        .noSuchCell :=
    ⟨_, Action.run_cycle_of_atLast atLast⟩
  have raised := secondFails _ succeeds fails
  refine ⟨window, loads, ?_, rfl⟩
  exact (ending_run_of_loads loads).trans
    (endingOf_of_not_ofProgram raised rfl)

end Emulator

end ChipEight
