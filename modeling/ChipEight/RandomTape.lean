namespace ChipEight

/-!
# Random numbers from a tape

The machine takes its random numbers from a tape that starts over at its end.
An empty tape gives zero for ever.
-/

/-- A cyclic tape of random numbers. -/
structure RandomTape where
  results : List Int
  /-- How many numbers have been taken. -/
  taken : Nat
  deriving DecidableEq, Repr

namespace RandomTape

/-- A tape from which nothing was taken. -/
def start
    (results : List Int) :
    RandomTape :=
  { results := results, taken := 0 }

/-- The number that is taken next. -/
def head
    (tape : RandomTape) :
    Int :=
  tape.results.getD (tape.taken % tape.results.length) 0

/-- The tape after its next number is taken. -/
def advanced
    (tape : RandomTape) :
    RandomTape :=
  { tape with taken := tape.taken + 1 }

end RandomTape

end ChipEight
