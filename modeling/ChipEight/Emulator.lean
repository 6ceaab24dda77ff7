import ChipEight.Machine.Dump
import ChipEight.Machine.Program
import ChipEight.Options.Settings

namespace ChipEight

/-!
# The emulator

The emulator reads its arguments, opens a window, loads the program and runs
the loop until the user ends it or the program fails. However it ends after the
arguments were read, the window system is shut down. A program that fails ends
the emulator with a report that shows the fault and the machine. An option that
was given no value is missed only when its value is needed.
-/

/-- What the emulator asks of the window system. -/
inductive Call where
  | start
  /-- Name the window. -/
  | caption (text : String)
  /-- Open the window with a width and a height. -/
  | openWindow (width : Int) (height : Int)
  /-- Open the window with sides that have no value. -/
  | openWithoutSides
  /-- Wait until the next frame at a rate of frames in a second. -/
  | pace (rate : Int)
  /--
  Make visible what was painted, with a number of cells in the
  foreground colour.
  -/
  | present (lit : Nat)
  | shutDown
  deriving DecidableEq, Repr

/-- How the emulator ends. -/
inductive Ending where
  | finished
  /-- The arguments ended it, with an exit code. -/
  | exit (code : Nat)
  /-- The program failed, and a report is given. -/
  | crashed (report : String)
  /-- Something else failed. -/
  | failed (fault : Fault)
  deriving DecidableEq, Repr

/-- What came of a run of the emulator. -/
structure Transcript where
  ending : Ending
  /-- What was asked of the window system, the earliest first. -/
  calls : List Call
  output : String
  errorOutput : String
  /-- The machine at the end, if there was one. -/
  machine : Option Machine

/-- What surrounds a run of the emulator. -/
structure Surroundings where
  /-- The bytes of the file at a path. -/
  fileAt : String → Except Fault (List UInt8)
  /-- The user's events, frame by frame. -/
  frames : List (List Event)
  /-- The random numbers that the program gets. -/
  random : List Int
  /-- Whether executed instructions are printed. -/
  tracing : Bool

namespace Emulator

/-- Lines of text, each with its line end. -/
def joinLines
    (lines : List String) :
    String :=
  String.join (lines.map fun line => line ++ "\n")

/-- The caption of the window for a program, which is the last name of its path. -/
def captionFor
    (path : String) :
    String :=
  (path.splitOn "/").getLastD path

/-- The calls to the window system that the requests of the loop lead to. -/
def callsFor
    (window : Window) :
    List Request →
    List Call
  | [] => []
  | request :: rest =>
      let next := window.afterRequest request
      match request with
      | .pace rate => .pace rate :: callsFor next rest
      | .paint _ => callsFor next rest
      | .present => .present next.litCount :: callsFor next rest

/-- The first line of the report about a failed program. -/
def crashHeader : String :=
  "********** THE EMULATOR CRASHED WITH THE FOLLOWING STATE"

/-- The report about a failed program. -/
def crashReport
    (fault : Fault)
    (machine : Machine) :
    String :=
  "\n".intercalate [crashHeader, fault.message, machine.dump]

/-- How the emulator ends when the loop ended. -/
def endingOf
    (session : Session) :
    Ending :=
  match session.fault with
  | none => .finished
  | some fault =>
      if fault.ofProgram then
        .crashed (crashReport fault session.machine)
      else
        .failed fault

/-- A machine just switched on, with a display of the usual size. -/
def newMachine
    (random : List Int) :
    Machine :=
  Machine.fresh (Display.blank displayWidth displayHeight) (RandomTape.start random)

/-- What comes of a run that something ended before the loop began. -/
def stopped
    (ending : Ending)
    (machine : Option Machine) :
    Transcript :=
  { ending := ending,
    calls := [],
    output := "",
    errorOutput := "",
    machine := machine }

/-- Run a machine with the program from a path loaded. -/
def runLoaded
    (surroundings : Surroundings)
    (path : String)
    (rate : Option Int)
    (window : Window)
    (machine : Machine) :
    Transcript :=
  let loaded := if surroundings.tracing then [loadedLine path] else []
  match rate with
  | none =>
      { stopped (.failed .noRate) (some machine) with output := joinLines loaded }
  | some rate =>
      let session := Session.run rate surroundings.frames machine
      { ending := endingOf session,
        calls := callsFor window session.requests,
        output := joinLines (loaded ++ traceLines surroundings.tracing session.executed),
        errorOutput := "",
        machine := some session.machine }

/-- Load a program and run it in an open window. -/
def runProgram
    (surroundings : Surroundings)
    (path : String)
    (rate : Option Int)
    (window : Window) :
    Transcript :=
  let loading := Action.loadFile surroundings.fileAt path
  match loading.run (newMachine surroundings.random) with
  | .error fault machine => stopped (.failed fault) (some machine)
  | .ok _ machine => runLoaded surroundings path rate window machine

/-- Open the window and run a program in it. -/
def runWindow
    (surroundings : Surroundings)
    (path : String)
    (rate : Option Int)
    (scale : Option Int) :
    Transcript :=
  match scale with
  | none =>
      { stopped (.failed .noScale) none with calls := [.openWithoutSides] }
  | some scale =>
      let transcript :=
        match
          Window.create displayWidth displayHeight scale defaultBackground
            defaultForeground
        with
        | .error fault => stopped (.failed fault) none
        | .ok window => runProgram surroundings path rate window
      { transcript with
        calls :=
          .openWindow (displayWidth * scale) (displayHeight * scale) ::
            transcript.calls }

/-- Name the window after a program and run the program in it. -/
def runNamed
    (surroundings : Surroundings)
    (path : String)
    (rate : Option Int)
    (scale : Option Int) :
    Transcript :=
  let caption := captionFor path
  let transcript :=
    if caption.toList.contains '\x00' then
      stopped (.failed .zeroInCaption) none
    else
      runWindow surroundings path rate scale
  { transcript with calls := .caption caption :: transcript.calls }

/--
Start the window system, run the program that the settings name, and shut down.
-/
def runSettings
    (surroundings : Surroundings)
    (settings : Settings) :
    Transcript :=
  let transcript :=
    match settings.file with
    | none => stopped (.failed .noFileName) none
    | some path => runNamed surroundings path settings.rate settings.scale
  { transcript with calls := .start :: transcript.calls ++ [.shutDown] }

/-- Run the emulator with the arguments of a command line. -/
def run
    (surroundings : Surroundings)
    (arguments : List String) :
    Transcript :=
  match readArguments arguments with
  | .help => { stopped (.exit 0) none with output := helpText }
  | .refused fault => { stopped (.exit 2) none with errorOutput := fault.report }
  | .settings settings => runSettings surroundings settings

end Emulator

end ChipEight
