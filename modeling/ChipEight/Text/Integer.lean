import ChipEight.Text.Blank
import ChipEight.Text.DecimalDigit

namespace ChipEight.Text

/-!
# Reading whole numbers

A whole number may stand between blanks. It has an optional sign and then
decimal digits of any script, with single underscores allowed between two of
them. At most 4300 digits are accepted, leading zeros included, and a number
with more of them is refused before what follows it is looked at.
-/

/-- Why a text was not read as a whole number. -/
inductive IntegerFault where
  /-- The text is not a whole number. -/
  | malformed
  /-- The number has this many digits, which is more than are accepted. -/
  | tooLong (count : Nat)
  deriving DecidableEq, Repr

/-- The most digits a number may have. -/
def digitLimit : Nat := 4300

/--
The digit values at the front of the characters, and the characters behind
them.

Nothing is returned when an underscore is not between two digits.
-/
def leadingDigits? : List Char → Option (List Nat × List Char)
  | [] => some ([], [])
  | character :: rest =>
      match digitValue? character with
      | none => some ([], character :: rest)
      | some value =>
          match rest with
          | '_' :: next :: later =>
              if isDecimalDigit next then
                (leadingDigits? (next :: later)).map fun (values, unread) =>
                  (value :: values, unread)
              else
                none
          | ['_'] => none
          | rest =>
              (leadingDigits? rest).map fun (values, unread) =>
                (value :: values, unread)

/-- The number with the given decimal digits. -/
def numberOfDigits
    (values : List Nat) :
    Nat :=
  values.foldl (fun number value => number * 10 + value) 0

/-- The sign of a number, as a factor, and the characters behind it. -/
def splitSign : List Char → Int × List Char
  | '-' :: rest => (-1, rest)
  | '+' :: rest => (1, rest)
  | characters => (1, characters)

/-- Read a whole number. -/
def readInteger
    (text : String) :
    Except IntegerFault Int :=
  let (sign, unsigned) := splitSign (trimBlanks text.toList)
  match leadingDigits? unsigned with
  | none => .error .malformed
  | some (values, unread) =>
      if values = [] then
        .error .malformed
      else if digitLimit < values.length then
        .error (.tooLong values.length)
      else if unread = [] then
        .ok (sign * numberOfDigits values)
      else
        .error .malformed

end ChipEight.Text
