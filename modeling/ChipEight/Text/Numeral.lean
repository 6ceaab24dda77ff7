namespace ChipEight.Text

/-!
# Written whole numbers

A whole number is written as a minus sign when it is negative, a marker of its
base, zeros up to a least width, and its digits. The width counts the sign and
the marker, so a negative number gets one zero less than its absolute value
would.
-/

/-- How a whole number is written. -/
structure NumeralStyle where
  /-- The base of the digits, between 2 and 16. -/
  base : Nat
  /-- What stands between the sign and the digits. -/
  marker : String
  /-- The least number of characters, sign and marker included. -/
  width : Nat
  /-- Whether the digits above nine are capital letters. -/
  capital : Bool
  deriving DecidableEq, Repr

namespace NumeralStyle

/-- Plain decimal. -/
def decimal : NumeralStyle :=
  { base := 10, marker := "", width := 0, capital := false }

/-- Hexadecimal in small letters, filled with zeros to a width. -/
def hexadecimal
    (width : Nat) :
    NumeralStyle :=
  { base := 16, marker := "", width := width, capital := false }

/-- Hexadecimal in small letters behind `0x`, filled with zeros to a width. -/
def markedHexadecimal
    (width : Nat) :
    NumeralStyle :=
  { base := 16, marker := "0x", width := width, capital := false }

/-- Hexadecimal in capital letters. -/
def capitalHexadecimal : NumeralStyle :=
  { base := 16, marker := "", width := 0, capital := true }

/-- Binary, filled with zeros to a width. -/
def binary
    (width : Nat) :
    NumeralStyle :=
  { base := 2, marker := "", width := width, capital := false }

/-- The digits of a natural number, without leading zeros. -/
def digits
    (style : NumeralStyle)
    (value : Nat) :
    List Char :=
  let small := Nat.toDigits style.base value
  if style.capital then
    small.map Char.toUpper
  else
    small

/-- The sign and the marker that stand in front of the digits. -/
def lead
    (style : NumeralStyle)
    (value : Int) :
    List Char :=
  (if value < 0 then ['-'] else []) ++ style.marker.toList

/-- The characters of a written whole number. -/
def characters
    (style : NumeralStyle)
    (value : Int) :
    List Char :=
  let lead := style.lead value
  lead ++ (style.digits value.natAbs).leftpad (style.width - lead.length) '0'

/-- A whole number as text. -/
def write
    (style : NumeralStyle)
    (value : Int) :
    String :=
  String.ofList (style.characters value)

end NumeralStyle

/-- A whole number in plain decimal. -/
def decimal
    (value : Int) :
    String :=
  NumeralStyle.decimal.write value

end ChipEight.Text
