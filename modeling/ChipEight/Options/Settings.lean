import ChipEight.Layout
import ChipEight.Options.Argument
import ChipEight.Text.Integer
import ChipEight.Window

namespace ChipEight

/-!
# Settings

The settings are read off the arguments from left to right. An option takes the
value that is attached to it or else the plain argument that follows it, and a
later option replaces an earlier one. The help option ends the reading as soon
as it is met. The separator, attached as a value, gives an option no value; this
is the rule of older argument parsers, and later ones keep it as the value.
-/

/-- What the options of a command line ask for. -/
structure Settings where
  /-- The path of the program. -/
  file : Option String
  rate : Option Int
  scale : Option Int
  deriving DecidableEq, Repr

/-- How the reading of arguments ends. -/
inductive Reading where
  | settings (settings : Settings)
  /-- The help text was asked for. -/
  | help
  | refused (fault : UsageFault)
  deriving DecidableEq, Repr

/-- Why the reading of arguments stops before their end. -/
inductive Halt where
  | help
  | refused (fault : UsageFault)
  deriving DecidableEq, Repr

/-- What was read so far. -/
structure Draft where
  settings : Settings
  /-- Whether the program's file was given. -/
  fileGiven : Bool
  /-- The arguments that were left over. -/
  leftOver : List String
  deriving DecidableEq, Repr

namespace Draft

/-- What holds before any argument is read. -/
def empty : Draft :=
  { settings := { file := none, rate := some defaultRate, scale := some defaultScale },
    fileGiven := false,
    leftOver := [] }

/-- Leave an argument over. -/
def leave
    (draft : Draft)
    (text : String) :
    Draft :=
  { draft with leftOver := draft.leftOver ++ [text] }

/--
The whole number that is the value of an option.

An attached separator is none, as older argument parsers have it. Later ones
read it like any other value, and refuse it since it is no whole number.
-/
def integerValue
    (switch : Switch)
    (value : String) :
    Except Halt (Option Int) :=
  if value = Argument.separatorText then
    .ok none
  else
    match Text.readInteger value with
    | .ok number => .ok (some number)
    | .error _ => .error (.refused (.valueNotInteger switch value))

/--
Give an option its value.

An attached separator leaves the file without one, as older argument parsers
have it. Later ones take the separator for the path of the file.
-/
def assign
    (draft : Draft)
    (switch : Switch)
    (value : String) :
    Except Halt Draft :=
  match switch with
  | .help => .error .help
  | .file =>
      let file := if value = Argument.separatorText then none else some value
      .ok { draft with settings := { draft.settings with file := file }, fileGiven := true }
  | .rate => do
      let rate ← integerValue .rate value
      return { draft with settings := { draft.settings with rate := rate } }
  | .scale => do
      let scale ← integerValue .scale value
      return { draft with settings := { draft.settings with scale := scale } }

/-- Why short options written together behind `-h` are refused, if they are. -/
def clusterFault? :
    List Char →
    List Argument →
    Option UsageFault
  | [], _ => none
  | letter :: rest, following =>
      match Argument.spelled? (String.ofList ['-', letter]) with
      | none => some (.valueIgnored .help (String.ofList (letter :: rest)))
      | some switch =>
          if switch.takesValue then
            match rest, following with
            | [], ⟨_, .plain⟩ :: _ => none
            | [], _ => some (.valueMissing switch)
            | _, _ => none
          else
            clusterFault? rest following

/-- How the reading stops at a help option to which a value is attached. -/
def haltAtHelp
    (spelling : String)
    (value : String)
    (following : List Argument) :
    Halt :=
  if spelling.length = 2 ∧ value ≠ "" then
    match clusterFault? value.toList following with
    | some fault => .refused fault
    | none => .help
  else
    .refused (.valueIgnored .help value)

/-- Read the arguments that remain. -/
def read
    (draft : Draft) :
    List Argument →
    Except Halt Draft
  | [] => .ok draft
  | ⟨text, .plain⟩ :: rest => (draft.leave text).read rest
  | ⟨text, .separator⟩ :: rest => (draft.leave text).read rest
  | ⟨text, .unknown⟩ :: rest => (draft.leave text).read rest
  | ⟨_, .switch switch spelling (some value)⟩ :: rest =>
      if switch.takesValue then do
        let assigned ← draft.assign switch value
        assigned.read rest
      else
        .error (haltAtHelp spelling value rest)
  | ⟨_, .switch switch _ none⟩ :: rest =>
      if switch.takesValue then
        match rest with
        | ⟨value, .plain⟩ :: rest => do
            let assigned ← draft.assign switch value
            assigned.read rest
        | _ => .error (.refused (.valueMissing switch))
      else
        .error .help

/-- The settings of a draft that all arguments were read into. -/
def finish
    (draft : Draft) :
    Reading :=
  if !draft.fileGiven then
    .refused (.switchMissing .file)
  else if draft.leftOver ≠ [] then
    .refused (.unrecognized draft.leftOver)
  else
    .settings draft.settings

end Draft

/-- Read the arguments of a command line. -/
def readArguments
    (arguments : List String) :
    Reading :=
  match Argument.classify arguments with
  | .error fault => .refused fault
  | .ok classified =>
      match Draft.empty.read classified with
      | .error .help => .help
      | .error (.refused fault) => .refused fault
      | .ok draft => draft.finish

end ChipEight
