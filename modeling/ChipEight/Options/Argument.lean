import ChipEight.Options
import ChipEight.Text.DecimalDigit

namespace ChipEight

/-!
# Arguments and their roles

Every argument of a command line is given a role before any of them is acted
on. An argument is an option when it spells one, when it spells one in front of
an equals sign, when it abbreviates a single long spelling, or when it begins
with a short spelling. An argument without a leading dash, a lone dash, a
negative number and an argument with a space are plain, and so is everything
behind the first separator `--`.
-/

/-- What an argument is taken for. -/
inductive Role where
  /-- A value, or something left over. -/
  | plain
  /-- The separator. -/
  | separator
  /-- An option, how it is spelled, and the value attached to it. -/
  | switch (switch : Switch) (spelling : String) (attached : Option String)
  /-- An option that does not exist. -/
  | unknown
  deriving DecidableEq, Repr

/-- An argument with its role. -/
structure Argument where
  text : String
  role : Role
  deriving DecidableEq, Repr

namespace Argument

/-- The separator behind which every argument is plain. -/
def separatorText : String := "--"

/-- All spellings, each with its option. -/
def spellings : List (String × Switch) :=
  Switch.all.flatMap fun switch =>
    switch.spellings.map fun spelling => (spelling, switch)

/-- The option with a spelling. -/
def spelled?
    (spelling : String) :
    Option Switch :=
  (spellings.find? fun entry => entry.1 = spelling).map Prod.snd

/--
The characters in front of the first equals sign, and those behind it if
there is one.
-/
def splitAtEquals
    (characters : List Char) :
    String × Option String :=
  let name := String.ofList (characters.takeWhile (· ≠ '='))
  match characters.dropWhile (· ≠ '=') with
  | [] => (name, none)
  | _ :: value => (name, some (String.ofList value))

/-- The options that an argument with two leading dashes abbreviates. -/
def longMatches
    (characters : List Char) :
    List (String × Role) :=
  let (name, attached) := splitAtEquals characters
  (spellings.filter fun entry => name.toList.isPrefixOf entry.1.toList).map
    fun (spelling, switch) => (spelling, .switch switch spelling attached)

/-- The options whose short spelling an argument begins with. -/
def shortMatches
    (characters : List Char) :
    List (String × Role) :=
  let short := String.ofList (characters.take 2)
  let attached := String.ofList (characters.drop 2)
  (spellings.filter fun entry => entry.1 = short).map
    fun (spelling, switch) => (spelling, .switch switch spelling (some attached))

/--
The options that an argument may stand for, each with the spelling it
stands for.
-/
def possibleMatches : List Char → List (String × Role)
  | '-' :: '-' :: rest => longMatches ('-' :: '-' :: rest)
  | characters => shortMatches characters

/-- Whether the characters are one or more decimal digits. -/
def areDigits
    (characters : List Char) :
    Bool :=
  !characters.isEmpty && characters.all Text.isDecimalDigit

/--
Whether the characters are digits, or a point with digits behind it and
perhaps before it.
-/
def areNumber
    (characters : List Char) :
    Bool :=
  areDigits characters ||
    match characters.dropWhile Text.isDecimalDigit with
    | '.' :: fraction => areDigits fraction
    | _ => false

/-- Whether an argument is a negative number, perhaps with a line end behind it. -/
def isNegativeNumber : List Char → Bool
  | '-' :: rest =>
      areNumber (if rest.getLast? = some '\n' then rest.dropLast else rest)
  | _ => false

/-- The role that the possible matches of an argument leave it. -/
def roleOfMatches
    (text : String)
    (characters : List Char) :
    Except UsageFault Role :=
  match possibleMatches characters with
  | [(_, role)] => .ok role
  | [] =>
      if isNegativeNumber characters || characters.contains ' ' then
        .ok .plain
      else
        .ok .unknown
  | several => .error (.ambiguous text (several.map Prod.fst))

/--
The role of an argument with a leading dash that spells no option as it stands.
-/
def dashRole
    (text : String) :
    Except UsageFault Role :=
  let characters := text.toList
  match splitAtEquals characters with
  | (name, some value) =>
      match spelled? name with
      | some switch => .ok (.switch switch name (some value))
      | none => roleOfMatches text characters
  | (_, none) => roleOfMatches text characters

/-- The role of an argument in front of the separator. -/
def roleOf
    (text : String) :
    Except UsageFault Role :=
  match text.toList with
  | '-' :: _ :: _ =>
      match spelled? text with
      | some switch => .ok (.switch switch text none)
      | none => dashRole text
  | _ => .ok .plain

/-- The arguments of a command line with their roles. -/
def classify : List String → Except UsageFault (List Argument)
  | [] => .ok []
  | text :: rest =>
      if text = separatorText then
        .ok (⟨text, .separator⟩ :: rest.map fun text => ⟨text, .plain⟩)
      else do
        let role ← roleOf text
        let later ← classify rest
        return ⟨text, role⟩ :: later

end Argument

end ChipEight
