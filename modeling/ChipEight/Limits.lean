import ChipEight.Fault

namespace ChipEight

/-!
# The limits of the host

The machine works with whole numbers of any size, but the host it runs on does
not: counts and indices are signed 64-bit numbers, the window system keeps only
the lowest 32 bits of those, and memory is finite. The limits are named here,
and the modules that meet them say which fault follows.
-/

/--
The number of signed 64-bit numbers on either side of zero, zero itself among
the upper ones.
-/
def wordLimit : Nat := 0x8000000000000000

/-- Whether a number is a signed 64-bit number. -/
def fitsWord : Int → Bool
  | .ofNat value => value < wordLimit
  | .negSucc beyond => beyond < wordLimit

/-- The signed 64-bit numbers lie between the two limits. -/
theorem fitsWord_iff
    (number : Int) :
    fitsWord number = true ↔
      -(wordLimit : Int) ≤ number ∧ number < wordLimit := by
  cases number with
  | ofNat value =>
      simp only [fitsWord, decide_eq_true_eq, Int.ofNat_eq_natCast]
      omega
  | negSucc beyond =>
      simp only [fitsWord, decide_eq_true_eq]
      omega

/-- How many numbers the lowest 32 bits tell apart. -/
def halfWordSize : Nat := 0x100000000

/--
The signed number in the lowest 32 bits of a signed 64-bit number.

There is none for a number outside the signed 64-bit numbers.
-/
def halfWord?
    (number : Int) :
    Option Int :=
  if fitsWord number then
    some (number.bmod halfWordSize)
  else
    none

/-- The bytes of memory that are never to be had in one piece. -/
def blockLimit : Nat := 0x800000000

/-- What is to be had in one piece can be counted. -/
theorem lt_wordLimit_of_lt_blockLimit
    {bytes : Nat}
    (fits : bytes < blockLimit) :
    bytes < wordLimit :=
  Nat.lt_trans fits (by decide)

/-- Refuse a piece of memory for which there are too many bytes. -/
def requireBlock
    (bytes : Nat) :
    Except Fault Unit :=
  if bytes < blockLimit then
    .ok ()
  else
    .error .outOfMemory

/-- A number of bytes that is asked for. -/
def byteCount
    (number : Int) :
    Except Fault Nat :=
  if !fitsWord number then
    .error .countTooWide
  else if number < 0 then
    .error .negativeCount
  else
    .ok number.toNat

end ChipEight
