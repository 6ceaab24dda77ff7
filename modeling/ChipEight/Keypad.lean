import ChipEight.Limits

namespace ChipEight

/-!
# The keypad

The keys that are held are the bits of a whole number in two's complement: key
`k` is held while bit `k` is set. Beside them the keypad remembers the key that
was pressed last, whether or not it is still held.
-/

/-- The keys that are held and the key pressed last. -/
structure Keypad where
  held : Int
  /-- The key pressed last, `-1` before the first press. -/
  lastPressed : Int
  deriving DecidableEq, Repr

namespace Keypad

/-- A keypad on which nothing was ever pressed. -/
def untouched : Keypad :=
  { held := 0, lastPressed := -1 }

/-- The number in which only the bit of a key is set. -/
def bitOf
    (key : Nat) :
    Int :=
  (1 <<< key : Nat)

/-- Whether a key is held. -/
def isHeld
    (keypad : Keypad)
    (key : Nat) :
    Bool :=
  keypad.held >>> key % 2 = 1

/-- Whether any key is held. -/
def anyHeld
    (keypad : Keypad) :
    Bool :=
  keypad.held ≠ 0

/-- The keypad after a key is pressed. -/
def press
    (keypad : Keypad)
    (key : Nat) :
    Keypad where
  held :=
    if keypad.isHeld key then
      keypad.held
    else
      keypad.held + bitOf key
  lastPressed := key

/-- The keypad after a key is let go. -/
def release
    (keypad : Keypad)
    (key : Nat) :
    Keypad :=
  { keypad with
    held :=
      if keypad.isHeld key then
        keypad.held - bitOf key
      else
        keypad.held }

/-- The key with a number, which must not be negative. -/
def key
    (number : Int) :
    Except Fault Nat :=
  if number < 0 then
    .error .negativeKey
  else
    .ok number.toNat

/--
How many digits of 30 bits there are in the number in which only the bit of a
key is set.
-/
def digitCount
    (key : Nat) :
    Nat :=
  1 + (key + 29) / 30

/-- The most digits that a whole number may have. -/
def mostDigits : Nat := 0x1FFFFFFFFFFFFFF9

/-- The number of bytes that hold a whole number with so many digits. -/
def bytesForDigits
    (count : Nat) :
    Nat :=
  24 + 4 * count

/-- The key with a number, for pressing it or letting it go. -/
def changeableKey
    (number : Int) :
    Except Fault Nat := do
  let key ← key number
  if mostDigits < digitCount key then
    throw .keyTooLarge
  requireBlock (bytesForDigits (digitCount key))
  return key

end Keypad

end ChipEight
