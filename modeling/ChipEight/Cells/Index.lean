import ChipEight.Limits

namespace ChipEight.Cells

/-!
# One cell by its index

An index that is not negative counts cells from the first one, and a negative
index counts them back from the last one, which is cell `-1`. Indices outside
the signed 64-bit numbers are refused as such. `locate_eq_ok_iff` says which
cell an index names, and so also which indices name one.
-/

/--
The cell that an index names among `size` cells.

An index that names none is answered with the fault `outside`.
-/
def locate
    (size : Nat)
    (index : Int)
    (outside : Fault) :
    Except Fault (Fin size) :=
  match index with
  | .ofNat place =>
      if wordLimit ≤ place then
        .error .indexTooWide
      else if inside : place < size then
        .ok ⟨place, inside⟩
      else
        .error outside
  | .negSucc place =>
      if wordLimit ≤ place then
        .error .indexTooWide
      else if inside : place < size then
        .ok ⟨size - 1 - place, Nat.sub_one_sub_lt_of_lt inside⟩
      else
        .error outside

/--
A cell is the one that an index names when its place is the index, counted from
the end for a negative index.

This needs no more cells than signed indices can count.
-/
theorem locate_eq_ok_iff
    {size : Nat}
    {index : Int}
    {outside : Fault}
    {cell : Fin size}
    (bounded : size < wordLimit) :
    locate size index outside = .ok cell ↔
      (cell : Int) = if index < 0 then index + size else index := by
  have inside := cell.isLt
  cases index with
  | ofNat place =>
      simp only [locate, Int.ofNat_eq_natCast]
      split
      · simp only [reduceCtorEq, false_iff]
        omega
      · split
        · simp only [Except.ok.injEq, Fin.ext_iff]
          omega
        · simp only [reduceCtorEq, false_iff]
          omega
  | negSucc place =>
      simp only [locate, Int.negSucc_lt_zero, ↓reduceIte]
      split
      · simp only [reduceCtorEq, false_iff]
        omega
      · split
        · simp only [Except.ok.injEq, Fin.ext_iff]
          omega
        · simp only [reduceCtorEq, false_iff]
          omega

end ChipEight.Cells
