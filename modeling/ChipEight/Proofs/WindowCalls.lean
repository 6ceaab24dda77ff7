import ChipEight.Proofs.Endings
import ChipEight.Proofs.FailingCycles
import ChipEight.Proofs.Mirroring

namespace ChipEight

/-!
# What a run asks of the window system

Once its arguments are read, the emulator starts the window system first and
shuts it down last, whatever happens in between. In between it names the window,
asks for it at most once, and waits and shows in the rhythm of the loop, which
begins only when a program is loaded. A program that fails is reported with the
machine that the failing cycle found.
-/

/-- Whether a call asks for a window. -/
def Call.opensWindow : Call → Bool
  | .openWindow _ _ => true
  | .openWithoutSides => true
  | _ => false

/-- Calls in the rhythm of the loop, which shows at most once after each wait. -/
inductive Paced :
    List Call →
    Prop where
  | nil :
      Paced []
  | waits
      (rate : Int)
      {rest : List Call}
      (paced : Paced rest) :
      Paced (.pace rate :: rest)
  | shows
      (rate : Int)
      (lit : Nat)
      {rest : List Call}
      (paced : Paced rest) :
      Paced (.pace rate :: .present lit :: rest)

namespace Paced

theorem append
    {earlier later : List Call}
    (pacedEarlier : Paced earlier)
    (pacedLater : Paced later) :
    Paced (earlier ++ later) := by
  induction pacedEarlier with
  | nil => exact pacedLater
  | waits rate paced inductionHypothesis =>
      exact .waits rate inductionHypothesis
  | shows rate lit paced inductionHypothesis =>
      exact .shows rate lit inductionHypothesis

theorem flatten
    {parts : List (List Call)}
    (pacedParts : ∀ part ∈ parts, Paced part) :
    Paced parts.flatten := by
  induction parts with
  | nil => exact .nil
  | cons part rest inductionHypothesis =>
      rw [List.forall_mem_cons] at pacedParts
      exact pacedParts.1.append (inductionHypothesis pacedParts.2)

/-- In the rhythm of the loop nothing is started or shut down. -/
theorem not_mem
    {calls : List Call}
    (paced : Paced calls) :
    .start ∉ calls ∧ .shutDown ∉ calls := by
  induction paced with
  | nil => simp
  | waits rate paced inductionHypothesis => simpa using inductionHypothesis
  | shows rate lit paced inductionHypothesis => simpa using inductionHypothesis

end Paced

/--
The calls of a run that names its window after a path.

They open the window at most once, and then follow the rhythm of the loop.
-/
structure Orderly
    (path : String)
    (opening waits calls : List Call) : Prop where
  inOrder :
    calls =
      .start :: .caption (Emulator.captionFor path) :: opening ++ waits ++
        [.shutDown]
  atMostOnce :
    opening.length ≤ 1
  opensWindow :
    ∀ call ∈ opening, call.opensWindow = true
  paced :
    Paced waits

/-- In order, the window system is started once and shut down once. -/
theorem Orderly.count
    {path : String}
    {opening waits calls : List Call}
    (orderly : Orderly path opening waits calls) :
    calls.count .start = 1 ∧ calls.count .shutDown = 1 := by
  have notInOpening (call : Call) (others : call.opensWindow = false) :
      opening.count call = 0 := by
    refine List.count_eq_zero.mpr fun member => ?_
    exact Bool.eq_false_iff.mp others (orderly.opensWindow call member)
  obtain ⟨noStart, noShutDown⟩ := orderly.paced.not_mem
  have noStartInOpening := notInOpening .start rfl
  have noShutDownInOpening := notInOpening .shutDown rfl
  rw [orderly.inOrder]
  simp [List.count_eq_zero.mpr noStart, List.count_eq_zero.mpr noShutDown,
    noStartInOpening, noShutDownInOpening]

/-- The calls of a frame in which an instruction was executed. -/
def frameCalls
    (rate : Int)
    (lit : Nat)
    (executed : Executed) :
    List Call :=
  .pace rate ::
    if executed.instruction.operation = .cls ∨
        executed.instruction.operation = .drw then
      [.present lit]
    else
      []

/-- The calls of a run of the loop that executed some instructions. -/
def loopCalls
    (rate : Int)
    (lit : Nat → Nat)
    (executed : List Executed) :
    List Call :=
  (executed.mapIdx fun place record =>
      frameCalls rate (lit place) record).flatten ++
    [.pace rate]

theorem paced_frameCalls
    (rate : Int)
    (lit : Nat)
    (executed : Executed) :
    Paced (frameCalls rate lit executed) := by
  rw [frameCalls]
  split
  · exact .shows rate lit .nil
  · exact .waits rate .nil

theorem paced_loopCalls
    (rate : Int)
    (lit : Nat → Nat)
    (executed : List Executed) :
    Paced (loopCalls rate lit executed) := by
  refine Paced.append (.flatten fun part member => ?_) (.waits rate .nil)
  obtain ⟨place, inside, rfl⟩ := List.mem_mapIdx.mp member
  exact paced_frameCalls rate _ _

namespace Emulator

theorem callsFor_append
    (window : Window)
    (earlier later : List Request) :
    callsFor window (earlier ++ later) =
      callsFor window earlier ++
        callsFor (window.afterRequests earlier) later := by
  induction earlier generalizing window with
  | nil => rfl
  | cons request rest inductionHypothesis =>
      have others := inductionHypothesis (window.afterRequest request)
      cases request with
      | pace rate => exact congrArg (Call.pace rate :: ·) others
      | paint display => exact others
      | present => exact congrArg (Call.present window.litCount :: ·) others

end Emulator

open Emulator

/-- A frame that executes an instruction asks for its calls. -/
theorem Machine.callsFor_frame
    {width height : Int}
    {machine next : Machine}
    (bounded : machine.Bounded width height)
    {executed : Executed}
    (ran : Action.cycle.run machine = .ok executed next)
    (rate : Int)
    (window : Window) :
    callsFor window (.pace rate :: next.showRequests) =
      frameCalls rate (window.afterRequest (.paint next.display)).litCount
        executed := by
  rw [showRequests_eq bounded ran, requestsAfter, frameCalls]
  split <;> rfl

/-- A run of the loop asks for the calls of what it executed. -/
theorem Session.Course.exists_callsFor
    {width height : Int}
    {machine : Machine}
    {rate : Int}
    {cycles : Nat}
    {frames : List (List Event)}
    {session : Session}
    (course : Course rate cycles machine frames session)
    (bounded : machine.Bounded width height)
    (window : Window) :
    ∃ lit,
      callsFor window session.requests =
        loopCalls rate lit session.executed := by
  induction course generalizing window with
  | stops stopsIn => exact ⟨fun _ => 0, rfl⟩
  | @goesOn cycles machine next frame rest executed later keeps ran course
      inductionHypothesis =>
      have first :=
        Machine.callsFor_frame (bounded.afterAll _) ran rate window
      obtain ⟨lit, others⟩ :=
        inductionHypothesis (bounded.afterAll _)
          (window.afterRequests (.pace rate :: next.showRequests))
      let shown := (window.afterRequest (.paint next.display)).litCount
      refine ⟨fun place => place.casesOn shown lit, ?_⟩
      rw [after, callsFor_append, first, others, loopCalls, loopCalls,
        List.mapIdx_cons, List.flatten_cons, List.append_assoc]
      rfl

/--
A cycle that fails by the program's own fault leaves a machine with the
same dump.
-/
theorem Machine.dump_of_ofProgram
    {width height : Int}
    {machine stopped : Machine}
    (bounded : machine.Bounded width height)
    {fault : Fault}
    (failed : Action.cycle.run machine = .error fault stopped)
    (ofProgram : fault.ofProgram = true) :
    stopped.dump = machine.dump := by
  -- Storing digits across the end changes memory, but that fault is no program's.
  have notAcross (x : Fin 16) (stores : machine.StoresDigits x) :
      machine.indexRegister < 4094 ∨ 4095 < machine.indexRegister := by
    by_contra across
    have atEnd :
        machine.indexRegister = 4094 ∨ machine.indexRegister = 4095 := by
      omega
    rcases atEnd with beforeLast | atLast
    · rw [Action.run_cycle_before_last bounded stores beforeLast] at failed
      cases failed
      exact absurd ofProgram (by decide)
    · rw [Action.run_cycle_at_last bounded stores atLast] at failed
      cases failed
      exact absurd ofProgram (by decide)
  rw [Action.stopped_eq_settled bounded notAcross failed]
  rfl

namespace Emulator

variable {surroundings : Surroundings} {arguments : List String}

section Loaded

variable {path : String} {rate scale : Int} {window : Window}
  {program : List UInt8}

/-- A run that has loaded its program asks for what the loop asks for. -/
theorem exists_calls_of_loads
    (loads : Loads surroundings arguments path rate scale window program) :
    ∃ lit,
      (run surroundings arguments).calls =
        .start :: .caption (captionFor path) ::
            .openWindow (displayWidth * scale) (displayHeight * scale) ::
              loopCalls rate lit
                (Session.run rate surroundings.frames
                  ((newMachine surroundings.random).after
                    (.load program))).executed ++
          [.shutDown] := by
  have course :=
    Session.course_runFrom rate 0
      ((newMachine surroundings.random).after (.load program))
      surroundings.frames
  obtain ⟨lit, ofLoop⟩ :=
    course.exists_callsFor (bounded_loaded surroundings.random program) window
  refine ⟨lit, ?_⟩
  rw [Session.run, ← ofLoop]
  simp only [run, loads.reads, runSettings, runNamed, loads.named, runWindow,
    loads.opens, runProgram, run_loading loads, runLoaded, Session.run,
    Bool.false_eq_true, if_false]

/-- The calls of a run that has loaded its program are in order. -/
theorem exists_orderly_of_loads
    (loads : Loads surroundings arguments path rate scale window program) :
    ∃ opening waits,
      Orderly path opening waits (run surroundings arguments).calls := by
  obtain ⟨lit, calls⟩ := exists_calls_of_loads loads
  refine ⟨[.openWindow (displayWidth * scale) (displayHeight * scale)], _,
    calls, Nat.le_refl 1, ?_, paced_loopCalls rate lit _⟩
  simp [Call.opensWindow]

/-- Once a program is loaded, only the loop decides how a run ends. -/
theorem ending_ne_exit_of_loads
    (loads : Loads surroundings arguments path rate scale window program)
    (code : Nat) :
    (run surroundings arguments).ending ≠ .exit code := by
  rw [ending_run_of_loads loads, endingOf]
  split
  · exact Ending.noConfusion
  · split <;> exact Ending.noConfusion

end Loaded

/--
The loading stops a run with a fault, or there is a program to run and a rate to
run it at.
-/
theorem stops_or_runs
    (surroundings : Surroundings)
    (path : String)
    (rate : Option Int)
    (window : Window) :
    (∃ fault,
      (runProgram surroundings path rate window).ending = .failed fault ∧
        (runProgram surroundings path rate window).calls = []) ∨
      ∃ given program,
        rate = some given ∧
          surroundings.fileAt path = .ok program ∧
          program.length ≤ 3584 := by
  cases found : surroundings.fileAt path with
  | error fault =>
      refine .inl ⟨fault, ?_⟩
      simp [runProgram, Action.loadFile, found, stopped]
  | ok program =>
      by_cases tooLong : programRoom < program.length
      · refine .inl ⟨.programTooLong program.length programRoom, ?_⟩
        simp [runProgram, Action.loadFile, found,
          Action.run_load_of_tooLong tooLong, stopped]
      · have fits : program.length ≤ programRoom := Nat.not_lt.mp tooLong
        obtain ⟨memory, ran⟩ :=
          Action.exists_run_load fits (newMachine surroundings.random)
        cases rate with
        | none =>
            refine .inl ⟨.noRate, ?_⟩
            simp [runProgram, Action.loadFile, found, ran, runLoaded,
              stopped]
        | some given => exact .inr ⟨given, program, rfl, rfl, fits⟩

/-- A window is asked for at most once before a run stops with a fault. -/
structure Stops
    (transcript : Transcript)
    (fault : Fault)
    (opening : List Call) : Prop where
  ending : transcript.ending = .failed fault
  calls : transcript.calls = opening
  atMostOnce : opening.length ≤ 1
  opensWindow : ∀ call ∈ opening, call.opensWindow = true

/-- Opening the window stops a run with a fault, or the program in it is run. -/
theorem stops_or_opens
    (surroundings : Surroundings)
    (path : String)
    (rate scale : Option Int) :
    (∃ fault opening,
      Stops (runWindow surroundings path rate scale) fault opening) ∨
      ∃ given scaled window program,
        rate = some given ∧
          scale = some scaled ∧
          Window.create displayWidth displayHeight scaled defaultBackground
              defaultForeground =
            .ok window ∧
          surroundings.fileAt path = .ok program ∧
          program.length ≤ 3584 := by
  cases scale with
  | none =>
      exact .inl ⟨.noScale, [.openWithoutSides], rfl, rfl, Nat.le_refl 1,
        by simp [Call.opensWindow]⟩
  | some scaled =>
      let opening : List Call :=
        [.openWindow (displayWidth * scaled) (displayHeight * scaled)]
      have opens : ∀ call ∈ opening, call.opensWindow = true := by
        simp [opening, Call.opensWindow]
      cases created :
        Window.create displayWidth displayHeight scaled defaultBackground
          defaultForeground with
      | error fault =>
          refine .inl ⟨fault, opening, ?_, ?_, Nat.le_refl 1, opens⟩ <;>
            simp [runWindow, created, stopped, opening]
      | ok window =>
          rcases stops_or_runs surroundings path rate window with
            ⟨fault, ending, noCalls⟩ | ⟨given, program, hasRate, found, fits⟩
          · refine .inl ⟨fault, opening, ?_, ?_, Nat.le_refl 1, opens⟩
            · simpa [runWindow, created] using ending
            · simp [runWindow, created, noCalls, opening]
          · exact .inr ⟨given, scaled, window, program, hasRate, rfl, created,
              found, fits⟩

/--
A run with a path stops with a fault before the loop, or it loads the
program there.
-/
theorem stops_or_loads
    (surroundings : Surroundings)
    {path : String}
    {rate scale : Option Int}
    (reads :
      readArguments arguments =
        .settings { file := some path, rate := rate, scale := scale }) :
    (∃ fault opening,
      (run surroundings arguments).ending = .failed fault ∧
        Orderly path opening [] (run surroundings arguments).calls) ∨
      ∃ rate scale window program,
        Loads surroundings arguments path rate scale window program := by
  cases named : (captionFor path).toList.contains '\x00' with
  | true =>
      refine .inl ⟨.zeroInCaption, [], ?_, ?_, Nat.zero_le 1, nofun, .nil⟩ <;>
        simp only [run, reads, runSettings, runNamed, named, if_true] <;>
        rfl
  | false =>
      rcases stops_or_opens surroundings path rate scale with
        ⟨fault, opening, stops⟩ |
          ⟨given, scaled, window, program, rfl, rfl, opens, found, fits⟩
      · refine .inl ⟨fault, opening, ?_, ?_, stops.atMostOnce,
          stops.opensWindow, .nil⟩
        · simp only [run, reads, runSettings, runNamed, named,
            Bool.false_eq_true, if_false, stops.ending]
        · simp only [run, reads, runSettings, runNamed, named,
            Bool.false_eq_true, if_false, stops.calls, List.cons_append,
            List.append_nil]
      · exact .inr ⟨given, scaled, window, program, reads, named, opens,
          found, fits⟩

end Emulator

/-- The loop ends behind the last frame or with the first cycle that fails. -/
theorem Session.ends_at_first_failure
    (machine : Machine)
    (rate : Int)
    (frames : List (List Event)) :
    let session := run rate frames machine
    let count := session.executed.length
    let last := frames.findIdx fun frame => frame.any Event.ends
    let seen := machine.beforeCycle rate 0 frames
    count = last ∧ session.fault = none ∨
      count < last ∧
        ∃ fault,
          (seen count).FailsWith fault ∧
            session.fault = some fault ∧
            session.machine = (seen count).after .cycle := by
  intro session count last seen
  rcases succeeds_or_exists_first_failure seen last with
    succeeds | ⟨failing, beforeLast, succeeds, fault, fails⟩
  · obtain ⟨-, noFault, counted⟩ := run_of_succeeds rfl succeeds
    exact .inl ⟨counted, noFault⟩
  · obtain ⟨atEnd, raised, counted⟩ := run_of_fails beforeLast succeeds fails
    have isFailing : count = failing := counted
    rw [isFailing]
    exact .inr ⟨beforeLast, fault, fails, raised, atEnd⟩

namespace Emulator

variable {surroundings : Surroundings} {arguments : List String}

/-- How a run ends whose loop ended with a cycle that failed. -/
theorem endingOf_of_failsWith
    {width height : Int}
    {machine : Machine}
    (bounded : machine.Bounded width height)
    {fault : Fault}
    (fails : machine.FailsWith fault)
    {session : Session}
    (raised : session.fault = some fault)
    (atEnd : session.machine = machine.after .cycle) :
    endingOf session =
      if fault.ofProgram then
        .crashed
          ("\n".intercalate
            ["********** THE EMULATOR CRASHED WITH THE FOLLOWING STATE",
              fault.message, machine.dump])
      else
        .failed fault := by
  obtain ⟨stopped, failed⟩ := fails
  split
  · next ofProgram =>
      have sameDump := Machine.dump_of_ofProgram bounded failed ofProgram
      rw [endingOf_of_ofProgram raised ofProgram, atEnd, Machine.after,
        failed, machineOf, crashReport, crashHeader, sameDump]
  · next notOfProgram =>
      exact endingOf_of_not_ofProgram raised
        (Bool.eq_false_iff.mpr notOfProgram)

/-- A run with a path shuts down in order, and only the loop waits or reports. -/
theorem shuts_down_of_path
    (surroundings : Surroundings)
    {path : String}
    {rate scale : Option Int}
    (reads :
      readArguments arguments =
        .settings { file := some path, rate := rate, scale := scale }) :
    (∀ code, (run surroundings arguments).ending ≠ .exit code) ∧
      ∃ opening waits,
        Orderly path opening waits (run surroundings arguments).calls ∧
          ((waits ≠ [] ∨
              ∃ report, (run surroundings arguments).ending = .crashed report) →
            ∃ rate scale window program,
              Loads surroundings arguments path rate scale window
                program) := by
  rcases stops_or_loads surroundings reads with
    ⟨fault, opening, failed, orderly⟩ |
      ⟨given, scaled, window, program, loads⟩
  · rw [failed]
    refine ⟨nofun, opening, [], orderly, ?_⟩
    rintro (waits | ⟨report, isReport⟩)
    · exact absurd rfl waits
    · cases isReport
  · obtain ⟨opening, waits, orderly⟩ := exists_orderly_of_loads loads
    exact ⟨ending_ne_exit_of_loads loads, opening, waits, orderly,
      fun _ => ⟨given, scaled, window, program, loads⟩⟩

/--
Every run that starts the window system shuts it down at its end.

Arguments that are refused or ask for help end the emulator before that, and so
nothing is asked of the window system. Otherwise the calls are in order; only
with the option for the file given no value is there nothing between the start
and the shutdown. The loop is reached only by runs that load their program. Its
calls are then those of the instructions that it executed, and the first cycle
that fails ends it: with a report that shows the machine before that cycle if
the fault is the program's own.
-/
theorem every_run_shuts_down
    (surroundings : Surroundings)
    (arguments : List String) :
    let transcript := run surroundings arguments
    ((∀ settings, readArguments arguments ≠ .settings settings) →
      transcript.calls = [] ∧
        (transcript.ending = .exit 0 ∨ transcript.ending = .exit 2)) ∧
    (∀ settings,
      readArguments arguments = .settings settings →
      (∀ code, transcript.ending ≠ .exit code) ∧
      transcript.calls.count .start = 1 ∧
      transcript.calls.count .shutDown = 1 ∧
      (settings.file = none →
        transcript.calls = [.start, .shutDown] ∧
          transcript.ending = .failed .noFileName) ∧
      ∀ path,
        settings.file = some path →
        ∃ opening waits,
          Orderly path opening waits transcript.calls ∧
            ((waits ≠ [] ∨ ∃ report, transcript.ending = .crashed report) →
              ∃ rate scale window program,
                Loads surroundings arguments path rate scale window
                  program)) ∧
    ∀ path rate scale window program,
      Loads surroundings arguments path rate scale window program →
      let chip := (newMachine surroundings.random).after (.load program)
      let last :=
        surroundings.frames.findIdx fun frame => frame.any Event.ends
      let seen := chip.beforeCycle rate 0 surroundings.frames
      ∃ (executed : List Executed) (lit : Nat → Nat),
        transcript.calls =
          .start :: .caption (captionFor path) ::
            .openWindow (64 * scale) (32 * scale) ::
              ((executed.mapIdx fun place record =>
                  .pace rate ::
                    if record.instruction.operation = .cls ∨
                        record.instruction.operation = .drw then
                      [.present (lit place)]
                    else
                      []).flatten ++
                [.pace rate, .shutDown]) ∧
        (∀ place record,
          executed[place]? = some record →
          ∃ next, Action.cycle.run (seen place) = .ok record next) ∧
        (executed.length = last ∧ transcript.ending = .finished ∨
          executed.length < last ∧
            ∃ fault,
              (seen executed.length).FailsWith fault ∧
                transcript.ending =
                  if fault.ofProgram then
                    .crashed
                      ("\n".intercalate
                        ["********** THE EMULATOR CRASHED WITH THE FOLLOWING STATE",
                          fault.message, (seen executed.length).dump])
                  else
                    .failed fault) := by
  intro transcript
  refine ⟨?ended, ?started, ?loaded⟩
  case ended =>
    intro noSettings
    cases reads : readArguments arguments with
    | help => simp [transcript, run, reads, stopped]
    | refused fault => simp [transcript, run, reads, stopped]
    | settings settings => exact absurd reads (noSettings settings)
  case started =>
    rintro ⟨file, rate, scale⟩ reads
    cases file with
    | none => simp [transcript, run, reads, runSettings, stopped]
    | some path =>
        obtain ⟨noExit, opening, waits, orderly, onlyLoaded⟩ :=
          shuts_down_of_path surroundings reads
        obtain ⟨startsOnce, shutsDownOnce⟩ := orderly.count
        refine ⟨noExit, startsOnce, shutsDownOnce, by simp, ?_⟩
        intro named isPath
        obtain rfl := Option.some.inj isPath
        exact ⟨opening, waits, orderly, onlyLoaded⟩
  case loaded =>
    intro path rate scale window program loads chip last seen
    obtain ⟨lit, calls⟩ := exists_calls_of_loads loads
    have course := Session.course_runFrom rate 0 chip surroundings.frames
    have ended :=
      Session.ends_at_first_failure chip rate surroundings.frames
    refine ⟨_, lit, ?_, fun _ _ => course.ran_of_executed, ?_⟩
    · rw [calls, loopCalls]
      simp only [List.cons_append, List.append_assoc, List.nil_append]
      rfl
    · rcases ended with
        ⟨counted, noFault⟩ | ⟨before, fault, fails, raised, atEnd⟩
      · refine .inl ⟨counted, ?_⟩
        rw [ending_run_of_loads loads, endingOf, noFault]
      · refine .inr ⟨before, fault, fails, ?_⟩
        rw [ending_run_of_loads loads]
        exact endingOf_of_failsWith
          ((bounded_loaded surroundings.random program).afterAll _) fails
          raised atEnd

/-- A program that begins with a return is reported with the machine before it. -/
theorem every_run_shuts_down_after_first_return :
    ∃ window,
      let surroundings := holding [0x00, 0xEE] [[]]
      Loads surroundings ["-f", "a"] "a" 300 15 window [0x00, 0xEE] ∧
        (run surroundings ["-f", "a"]).calls =
          [.start, .caption (captionFor "a"), .openWindow 960 480, .pace 300,
            .shutDown] ∧
        (run surroundings ["-f", "a"]).ending =
          .crashed
            ("\n".intercalate
              ["********** THE EMULATOR CRASHED WITH THE FOLLOWING STATE",
                "Cannot return from a subroutine, the CHIP-8 stack is empty",
                ((newMachine []).after (.load [0x00, 0xEE])).dump]) := by
  obtain ⟨window, loads⟩ := exists_loads [[]] [0x00, 0xEE] (by decide)
  have fails := failsWith_after_load_return []
  obtain ⟨executed, lit, calls, ran, ended⟩ :=
    (every_run_shuts_down _ ["-f", "a"]).2.2 _ _ _ _ _ loads
  -- The first cycle fails, so that nothing is executed.
  have nothing : executed = [] := by
    cases executed with
    | nil => rfl
    | cons record rest =>
        obtain ⟨next, succeeded⟩ := ran 0 record rfl
        obtain ⟨stopped, failed⟩ := fails
        exact absurd (failed.symm.trans succeeded) (by simp)
  subst nothing
  refine ⟨window, loads, calls, ?_⟩
  rcases ended with ⟨counted, -⟩ | ⟨-, fault, failsToo, ending⟩
  · exact absurd counted (by decide)
  · obtain rfl := fails.eq failsToo
    exact ending

/--
A separator attached to the option for the file leaves the window
without a name.
-/
theorem attached_separator_names_no_window :
    let surroundings := holding [0x12, 0x00] []
    readArguments ["-f--"] =
        .settings { file := none, rate := some 300, scale := some 15 } ∧
      (run surroundings ["-f--"]).calls = [.start, .shutDown] ∧
      ¬ ∃ text rest,
        (run surroundings ["-f--"]).calls = .start :: .caption text :: rest := by
  intro surroundings
  have reads :
      readArguments ["-f--"] =
        .settings { file := none, rate := some 300, scale := some 15 } := by
    decide
  have calls : (run surroundings ["-f--"]).calls = [.start, .shutDown] := by
    simp [run, reads, runSettings, stopped]
  refine ⟨reads, calls, ?_⟩
  rintro ⟨text, rest, named⟩
  rw [calls] at named
  cases named

end Emulator

end ChipEight
