import ChipEight.Text.Quoted

namespace ChipEight

/-!
# Command line options

The emulator is started with options: the program's file, which has to be
given, the rate of instructions and the scale of the window. This module says
which options there are, how they are described in the help text, and for which
reasons arguments are refused.
-/

/-- The options of the command line. -/
inductive Switch where
  /-- Show the help text. -/
  | help
  /-- The file of the program. -/
  | file
  /-- The instructions to execute in a second. -/
  | rate
  /-- The pixels to a side of a cell of the window. -/
  | scale
  deriving DecidableEq, Repr

namespace Switch

/-- The options in the order of the help text. -/
def all : List Switch :=
  [.help, .file, .rate, .scale]

/-- The ways to write an option. -/
def spellings : Switch → List String
  | .help => ["-h", "--help"]
  | .file => ["-f", "--file"]
  | .rate => ["--hz"]
  | .scale => ["--scale"]

/-- What stands for the value of an option in the help text. -/
def placeholder? : Switch → Option String
  | .help => none
  | .file => some "FILE"
  | .rate => some "HZ"
  | .scale => some "SCALE"

/-- Whether an option has a value. -/
def takesValue
    (switch : Switch) :
    Bool :=
  switch.placeholder?.isSome

/-- Whether an option has to be given. -/
def required
    (switch : Switch) :
    Bool :=
  switch = .file

/-- What the help text says about an option. -/
def summary : Switch → String
  | .help => "show this help message and exit"
  | .file => "input rom file"
  | .rate => "instructions executed per second"
  | .scale => "size in pixels of a CHIP-8 pixel"

/-- An option as messages name it. -/
def label
    (switch : Switch) :
    String :=
  "/".intercalate switch.spellings

/-- A spelling of an option with what stands for its value. -/
def withPlaceholder
    (switch : Switch)
    (spelling : String) :
    String :=
  match switch.placeholder? with
  | some placeholder => spelling ++ " " ++ placeholder
  | none => spelling

/-- An option in the usage line, in brackets when it can be left out. -/
def usage
    (switch : Switch) :
    String :=
  let shown := switch.withPlaceholder (switch.spellings.headD "")
  if switch.required then
    shown
  else
    "[" ++ shown ++ "]"

/-- The width of the column that names the options in the help text. -/
def helpColumn : Nat := 24

/-- The line of the help text about an option. -/
def helpLine
    (switch : Switch) :
    String :=
  let names :=
    "  " ++ ", ".intercalate (switch.spellings.map switch.withPlaceholder)
  names ++ String.ofList (List.replicate (helpColumn - names.length) ' ') ++
    switch.summary ++ "\n"

end Switch

/-- The name under which the emulator is started. -/
def commandName : String := "chip8"

/-- The usage line. -/
def usageLine : String :=
  "usage: " ++ " ".intercalate (commandName :: Switch.all.map Switch.usage) ++ "\n"

/-- The help text. -/
def helpText : String :=
  usageLine ++ "\noptions:\n" ++ String.join (Switch.all.map Switch.helpLine)

/-- Why the arguments of a command line are refused. -/
inductive UsageFault where
  /-- An argument abbreviates more than one spelling. -/
  | ambiguous (argument : String) (spellings : List String)
  /-- A value is attached to an option that has none. -/
  | valueIgnored (switch : Switch) (value : String)
  /-- No value follows an option that needs one. -/
  | valueMissing (switch : Switch)
  /-- The value of an option is not a whole number. -/
  | valueNotInteger (switch : Switch) (value : String)
  /-- An option that has to be given is not. -/
  | switchMissing (switch : Switch)
  /-- Arguments are left over. -/
  | unrecognized (arguments : List String)
  deriving DecidableEq, Repr

namespace UsageFault

/-- The wording of a refusal. -/
def message : UsageFault → String
  | .ambiguous argument spellings =>
      "ambiguous option: " ++ argument ++ " could match " ++ ", ".intercalate spellings
  | .valueIgnored switch value =>
      "argument " ++ switch.label ++ ": ignored explicit argument " ++ Text.quoted value
  | .valueMissing switch =>
      "argument " ++ switch.label ++ ": expected one argument"
  | .valueNotInteger switch value =>
      "argument " ++ switch.label ++ ": invalid int value: " ++ Text.quoted value
  | .switchMissing switch =>
      "the following arguments are required: " ++ switch.label
  | .unrecognized arguments =>
      "unrecognized arguments: " ++ " ".intercalate arguments

/-- What is written to the error output when arguments are refused. -/
def report
    (fault : UsageFault) :
    String :=
  usageLine ++ commandName ++ ": error: " ++ fault.message ++ "\n"

end UsageFault

end ChipEight
