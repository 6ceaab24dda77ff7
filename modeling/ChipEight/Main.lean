import ChipEight.Emulator
import ChipEight.Tracing

/-!
# The command line

The emulator without a window: every line of standard input is a frame whose
words are its events, `+5` when the key five goes down and `-5` when it comes
up. What the program prints is printed, and the display is shown as text when
the session ends.
-/

namespace ChipEight.CommandLine

/-- The event that a word stands for. -/
def eventOfWord
    (word : String) :
    Event :=
  match word.toList with
  | '+' :: name => .keyDown (Key.ofName (String.ofList name))
  | '-' :: name => .keyUp (Key.ofName (String.ofList name))
  | _ => if word = "quit" then .quit else .other

/-- The events of the frame that a line stands for. -/
def frameOfLine
    (line : String) :
    List Event :=
  ((line.splitOn " ").filter fun word => word ≠ "").map eventOfWord

/-- A display as lines of text. -/
def picture
    (display : Display) :
    List String :=
  display.toLists.map fun row =>
    String.ofList (row.map fun lit => if lit then '#' else '.')

/-- What is written to the error output, and the exit code. -/
def endingReport : Ending → String × UInt32
  | .finished => ("", 0)
  | .exit code => ("", UInt32.ofNat code)
  | .crashed report => (report ++ "\n", 1)
  | .failed fault => (fault.message ++ "\n", 1)

/-- The frames on standard input, up to its end. -/
partial def readFrames
    (input : IO.FS.Stream)
    (frames : List (List Event)) :
    IO (List (List Event)) := do
  let line ← input.getLine
  if line.isEmpty then
    return frames.reverse
  readFrames input (frameOfLine line.trimAscii.toString :: frames)

/-- The bytes of the file at a path. -/
def readProgram
    (path : String) :
    IO (Except Fault (List UInt8)) := do
  try
    return .ok (← IO.FS.readBinFile path).toList
  catch
    | .inappropriateType .. => return .error (.pathIsDirectory path)
    | _ => return .error (.fileMissing path)

/-- The surroundings of a run with the given arguments. -/
def surroundingsFor
    (arguments : List String)
    (tracing : Bool) :
    IO Surroundings := do
  match readArguments arguments with
  | .settings settings =>
      let content ← readProgram (settings.file.getD "")
      let frames ← readFrames (← IO.getStdin) []
      let random ← (List.range 4096).mapM fun _ => IO.rand 0 255
      return {
        fileAt := fun _ => content
        frames := frames
        random := random.map Int.ofNat
        tracing := tracing }
  | _ =>
      return {
        fileAt := fun path => .error (.fileMissing path)
        frames := []
        random := []
        tracing := tracing }

/-- Run the emulator and print what came of it. -/
def run
    (arguments : List String)
    (tracing : Bool) :
    IO UInt32 := do
  let transcript := Emulator.run (← surroundingsFor arguments tracing) arguments
  IO.print transcript.output
  if let (.finished, some machine) := (transcript.ending, transcript.machine) then
    IO.print (Emulator.joinLines (picture machine.display))
  let (report, code) := endingReport transcript.ending
  IO.eprint (transcript.errorOutput ++ report)
  return code

end ChipEight.CommandLine

/-- The emulator as a program. -/
def main
    (arguments : List String) :
    IO UInt32 := do
  match ChipEight.tracingAskedBy (← IO.getEnv ChipEight.tracingVariable) with
  | .ok tracing => ChipEight.CommandLine.run arguments tracing
  | .error fault =>
      IO.eprintln fault.message
      return 1
