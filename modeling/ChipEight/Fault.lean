import ChipEight.Text.Numeral
import ChipEight.Text.Quoted

namespace ChipEight

/-!
# What can go wrong

A fault is the cause for which an operation of the machine, of its program
storage or of its window did not finish. Its wording is in one place,
`Fault.message`, and `Fault.families` says which broader families it is
reported under: the machine faults are those that a program itself brings
about.
-/

/-- The cause for which an operation did not finish. -/
inductive Fault where
  /-- A program failed for the reason that the text gives. -/
  | programFailure (text : String)
  /-- No instruction of the set has this word. -/
  | noInstruction (opcode : Int)
  /-- A return was met with no call open. -/
  | noOpenCall
  /-- A call was met with all `capacity` places of the stack taken. -/
  | stackFull (capacity : Int)
  /-- An index is outside the signed 64-bit numbers. -/
  | indexTooWide
  /-- An index names no cell of a memory. -/
  | noSuchCell
  /-- An index names no place of a list that is read. -/
  | noSuchPlace
  /-- An index names no place of a list that is written. -/
  | noPlaceToWrite
  /-- The number of values differs from the number of cells selected for them. -/
  | countMismatch (values : Nat) (selected : Nat) (size : Nat)
  /-- A selection of cells advances by zero. -/
  | zeroStride
  /-- A number of bytes is negative. -/
  | negativeCount
  /-- A number of cells or bytes is outside the signed 64-bit numbers. -/
  | countTooWide
  /-- There is not enough memory. -/
  | outOfMemory
  /--
  A program of zero bytes was asked for with more bytes than a text of
  bytes may have.
  -/
  | tooManyBytes
  /-- A value is not a byte. -/
  | notAByte
  /-- A key has a negative number. -/
  | negativeKey
  /-- A key has a number so large that its bit has no place in a whole number. -/
  | keyTooLarge
  /-- A coordinate was wrapped around a side of length zero. -/
  | zeroSide
  /-- A program has more bytes than there is room for. -/
  | programTooLong (length : Nat) (room : Nat)
  /-- No file has this path. -/
  | fileMissing (path : String)
  /-- The path names a directory. -/
  | pathIsDirectory (path : String)
  /-- The path leads through a file as if it were a directory. -/
  | pathThroughFile (path : String)
  /-- The path, or a name in it, is too long. -/
  | pathTooLong (path : String)
  /-- A path holds the character zero. -/
  | zeroInPath
  /-- The caption of a window holds the character zero. -/
  | zeroInCaption
  /-- The text is not a whole number. -/
  | notAnInteger (text : String)
  /-- A written number has more digits than are accepted. -/
  | tooManyDigits (count : Nat) (limit : Nat)
  /-- A colour has not three or four parts, or a part is not a byte. -/
  | notAColor
  /-- A window was asked for with a negative side. -/
  | negativeWindow
  /-- A window was asked for with a side that is too long. -/
  | windowTooLarge
  /-- A side of a window is outside the signed 64-bit numbers. -/
  | windowTooWide
  /-- A coordinate or the side of a square is outside the signed 64-bit numbers. -/
  | squareTooWide
  /-- The option for the program's file was given no value. -/
  | noFileName
  /-- The option for the rate was given no value. -/
  | noRate
  /-- The option for the scale was given no value. -/
  | noScale
  deriving DecidableEq, Repr

namespace Fault

/-- The families under which faults are reported. -/
inductive Family where
  /-- What a running program brings about. -/
  | program
  /-- An index or a selection that does not fit. -/
  | index
  /-- Something the machine does not provide. -/
  | unimplemented
  /-- A look-up that found nothing. -/
  | lookup
  /-- A failure while running. -/
  | runtime
  /-- A value that is not acceptable. -/
  | value
  deriving DecidableEq, Repr

/-- The families of a fault, in the order in which `Family` lists them. -/
def families : Fault → List Family
  | .programFailure _ => [.program]
  | .noInstruction _ => [.program, .unimplemented, .runtime]
  | .noOpenCall => [.program, .index, .lookup]
  | .stackFull _ => [.program, .index, .lookup]
  | .indexTooWide => [.index, .lookup]
  | .noSuchCell => [.index, .lookup]
  | .noSuchPlace => [.index, .lookup]
  | .noPlaceToWrite => [.index, .lookup]
  | .countMismatch _ _ _ => [.index, .lookup]
  | .zeroStride => [.value]
  | .negativeCount => [.value]
  | .countTooWide => []
  | .outOfMemory => []
  | .tooManyBytes => []
  | .notAByte => [.value]
  | .negativeKey => [.value]
  | .keyTooLarge => []
  | .zeroSide => []
  | .programTooLong _ _ => [.value]
  | .fileMissing _ => []
  | .pathIsDirectory _ => []
  | .pathThroughFile _ => []
  | .pathTooLong _ => []
  | .zeroInPath => [.value]
  | .zeroInCaption => [.value]
  | .notAnInteger _ => [.value]
  | .tooManyDigits _ _ => [.value]
  | .notAColor => [.value]
  | .negativeWindow => [.runtime]
  | .windowTooLarge => [.runtime]
  | .windowTooWide => []
  | .squareTooWide => []
  | .noFileName => []
  | .noRate => []
  | .noScale => []

/-- Whether a running program brought the fault about. -/
def ofProgram
    (fault : Fault) :
    Bool :=
  fault.families.contains .program

/--
The most characters of a refused number, quotes included, that a message shows.
-/
def shownNumberLimit : Nat := 200

/-- The wording of a fault. -/
def message : Fault → String
  | .programFailure text => text
  | .noInstruction opcode =>
      "The opcode (" ++ (Text.NumeralStyle.markedHexadecimal 6).write opcode ++
        ") does not match any CHIP-8 instruction"
  | .noOpenCall =>
      "Cannot return from a subroutine, the CHIP-8 stack is empty"
  | .stackFull capacity =>
      "The CHIP-8 stack can contain at most " ++ Text.decimal capacity ++
        " addresses. Limit exceeded"
  | .indexTooWide => "cannot fit 'int' into an index-sized integer"
  | .noSuchCell => "bytearray index out of range"
  | .noSuchPlace => "list index out of range"
  | .noPlaceToWrite => "list assignment index out of range"
  | .countMismatch values selected size =>
      "Cannot write " ++ Text.decimal values ++ " bytes over " ++
        Text.decimal selected ++ " cells, the size is fixed at " ++ Text.decimal size
  | .zeroStride => "slice step cannot be zero"
  | .negativeCount => "negative count"
  | .countTooWide => "cannot fit 'int' into an index-sized integer"
  | .outOfMemory => ""
  | .tooManyBytes => "byte string is too large"
  | .notAByte => "bytes must be in range(0, 256)"
  | .negativeKey => "negative shift count"
  | .keyTooLarge => "too many digits in integer"
  | .zeroSide => "integer modulo by zero"
  | .programTooLong length room =>
      "The ROM is " ++ Text.decimal length ++ " bytes long, at most " ++
        Text.decimal room ++ " fit in memory"
  | .fileMissing path => "[Errno 2] No such file or directory: " ++ Text.quoted path
  | .pathIsDirectory path => "[Errno 21] Is a directory: " ++ Text.quoted path
  | .pathThroughFile path => "[Errno 20] Not a directory: " ++ Text.quoted path
  | .pathTooLong path => "[Errno 36] File name too long: " ++ Text.quoted path
  | .zeroInPath => "embedded null byte"
  | .zeroInCaption => "embedded null character"
  | .notAnInteger text =>
      "invalid literal for int() with base 10: " ++
        Text.quotedPrefix shownNumberLimit text
  | .tooManyDigits count limit =>
      "Exceeds the limit (" ++ Text.decimal limit ++
        " digits) for integer string conversion: value has " ++ Text.decimal count ++
        " digits; use sys.set_int_max_str_digits() to increase the limit"
  | .notAColor => "invalid color argument"
  | .negativeWindow => "Cannot set negative sized display mode"
  | .windowTooLarge => "Window is too large."
  | .windowTooWide => "size must be two numbers"
  | .squareTooWide => "rect argument is invalid"
  | .noFileName => "'list' object has no attribute 'split'"
  | .noRate => "unsupported operand type(s) for //: 'list' and 'int'"
  | .noScale => "size must be two numbers"

end Fault

end ChipEight
