namespace ChipEight.Text

/-!
# Sets of code points

A class of characters is a list of closed ranges of code points in ascending
order. The check here says that such a list is well formed.
-/

/-- The first and the last code point of a run. -/
abbrev CodePointRange := Nat × Nat

/-- Whether some range of the list holds the code point. -/
def inRanges
    (ranges : List CodePointRange)
    (codePoint : Nat) :
    Bool :=
  ranges.any fun range =>
    range.1 ≤ codePoint && codePoint ≤ range.2

/-- Whether the ranges are non-empty, ascending and apart from each other. -/
def ascending : List CodePointRange → Bool
  | [] => true
  | [range] => range.1 ≤ range.2
  | range :: next :: rest =>
      range.1 ≤ range.2 &&
        range.2 < next.1 &&
        ascending (next :: rest)

end ChipEight.Text
