import ChipEight.Machine.State

namespace ChipEight

/-!
# Loading programs

A program is copied to memory from `programStart` on. One that is too long for
the room behind that address is refused before anything is copied.
-/

/-- The span of memory that a program of a length takes. -/
def programSpan
    (length : Nat) :
    Cells.Span :=
  .between programStart (programStart + length)

/-- The most bytes that a text of bytes may have. -/
def mostBytes : Nat := 0x7FFFFFFFFFFFFFDE

/-- The length of a program of zero bytes, as many as are asked for. -/
def zerosLength
    (count : Int) :
    Except Fault Nat := do
  let length ← byteCount count
  if mostBytes < length then
    throw .tooManyBytes
  requireBlock length
  return length

namespace Action

/-- Refuse a program length for which there is no room. -/
def requireRoom
    (length : Nat) :
    Action Unit := do
  if programRoom < length then
    throw (.programTooLong length programRoom)

/-- Copy a program to memory. -/
def load
    (program : List UInt8) :
    Action Unit := do
  requireRoom program.length
  writeBytes (programSpan program.length) (program.map fun byte => byte.toNat)

/-- Copy the program that is found in the file at a path. -/
def loadFile
    (fileAt : String → Except Fault (List UInt8))
    (path : String) :
    Action Unit := do
  let program ← attempt (fileAt path)
  load program

/-- Copy a program that is given as numbers, each of which must be a byte. -/
def loadNumbers
    (numbers : List Int) :
    Action Unit := do
  if numbers.all fun number => 0 ≤ number && number < 256 then
    load (numbers.map UInt8.ofInt)
  else
    throw .notAByte

/-- Copy a program of zero bytes. -/
def loadZeros
    (count : Int) :
    Action Unit := do
  let length ← attempt (zerosLength count)
  requireRoom length
  load (List.replicate length 0)

end Action

/-- The line of a trace that reports a program loaded from a file. -/
def loadedLine
    (path : String) :
    String :=
  "The ROM at path " ++ path ++ " has been loaded successfully"

end ChipEight
