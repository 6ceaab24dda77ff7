import ChipEight.Proofs.Numerals

namespace ChipEight.Text

/-!
# Legible texts

A way to write values is legible if a text says which value was written and
where it ends, as long as nothing follows that goes on with it. Written numbers
are legible, and so is what is put together from legible parts: parts with a
text between them that closes the first one, and lists with separators.
-/

/--
Whether a rest begins with no character that goes on with the text in
front of it.
-/
def EndsAt
    (goesOn : Char → Bool)
    (rest : List Char) :
    Prop :=
  ∀ character ∈ rest.head?, goesOn character = false

/--
Whether a text begins with a character that does not go on with the text in
front of it.
-/
def closes
    (goesOn : Char → Bool) :
    List Char →
    Bool
  | [] => false
  | character :: _ => !goesOn character

/--
Whether a way to write values is legible in front of rests that do not
go on with it.
-/
def Legible
    {α : Type}
    (write : α → List Char)
    (goesOn : Char → Bool) :
    Prop :=
  ∀ first second afterFirst afterSecond,
    EndsAt goesOn afterFirst →
    EndsAt goesOn afterSecond →
    write first ++ afterFirst = write second ++ afterSecond →
    first = second ∧ afterFirst = afterSecond

/-- Two values written one after the other, with a text between them. -/
def writePair
    {α β : Type}
    (writeFirst : α → List Char)
    (between : List Char)
    (writeSecond : β → List Char)
    (values : α × β) :
    List Char :=
  writeFirst values.1 ++ (between ++ writeSecond values.2)

/-- A list written with a separator in front of each value. -/
def writeTail
    {α : Type}
    (separator : List Char)
    (write : α → List Char)
    (values : List α) :
    List Char :=
  values.flatMap fun value => separator ++ write value

/-- What goes on with a list: its values, its separators and further values. -/
def listGoesOn
    (goesOn : Char → Bool)
    (opening : Char)
    (separator : List Char)
    (character : Char) :
    Bool :=
  goesOn character || character == opening ||
    separator.head? == some character

theorem endsAt_append
    {goesOn : Char → Bool}
    {text : List Char}
    (ends : closes goesOn text)
    (rest : List Char) :
    EndsAt goesOn (text ++ rest) := by
  cases text with
  | nil => cases ends
  | cons first others =>
      intro character isHead
      obtain rfl := Option.some.inj isHead
      simpa [closes] using ends

namespace Legible

variable {α β : Type} {write : α → List Char} {goesOn : Char → Bool}

/-- A text in front of the values does not matter. -/
theorem behind
    (legible : Legible write goesOn)
    (text : List Char) :
    Legible (fun value => text ++ write value) goesOn := by
  intro first second afterFirst afterSecond firstEnds secondEnds same
  rw [List.append_assoc, List.append_assoc] at same
  exact legible first second afterFirst afterSecond firstEnds secondEnds
    (List.append_cancel_left same)

/-- Two values are legible with a text between them that closes the first one. -/
theorem pair
    (firstLegible : Legible write goesOn)
    {between : List Char}
    (ends : closes goesOn between)
    {writeSecond : β → List Char}
    {secondGoesOn : Char → Bool}
    (secondLegible : Legible writeSecond secondGoesOn) :
    Legible (writePair write between writeSecond) secondGoesOn := by
  rintro ⟨first, firstPartner⟩ ⟨second, secondPartner⟩ afterFirst afterSecond
    firstEnds secondEnds same
  simp only [writePair, List.append_assoc] at same
  obtain ⟨rfl, sameRest⟩ :=
    firstLegible first second _ _ (endsAt_append ends _)
      (endsAt_append ends _) same
  obtain ⟨rfl, sameAfter⟩ :=
    secondLegible firstPartner secondPartner afterFirst afterSecond firstEnds
      secondEnds (List.append_cancel_left sameRest)
  exact ⟨rfl, sameAfter⟩

section Separated

variable {opening : Char} {separator : List Char}

/-- Behind a value of a list that value has ended. -/
theorem endsAt_tail
    (ends : closes goesOn separator)
    (values : List α)
    {rest : List Char}
    (restEnds : EndsAt (listGoesOn goesOn opening separator) rest) :
    EndsAt goesOn (writeTail separator write values ++ rest) := by
  cases values with
  | nil =>
      intro character isHead
      have outside := restEnds character isHead
      simp only [listGoesOn, Bool.or_eq_false_iff] at outside
      exact outside.1.1
  | cons value values =>
      rw [writeTail, List.flatMap_cons, List.append_assoc, List.append_assoc]
      exact endsAt_append ends _

/-- Further values of a list cannot be taken for what follows the list. -/
theorem tail_ne_rest
    (ends : closes goesOn separator)
    (value : α)
    (values : List α)
    (after : List Char)
    {rest : List Char}
    (restEnds : EndsAt (listGoesOn goesOn opening separator) rest) :
    writeTail separator write (value :: values) ++ after ≠ rest := by
  rintro rfl
  cases separator with
  | nil => cases ends
  | cons first others =>
      have outside := restEnds first rfl
      simp [listGoesOn] at outside

theorem tail
    (legible : Legible write goesOn)
    (ends : closes goesOn separator) :
    Legible (writeTail separator write)
      (listGoesOn goesOn opening separator) := by
  intro first second afterFirst afterSecond firstEnds secondEnds same
  induction first generalizing second with
  | nil =>
      cases second with
      | nil => exact ⟨rfl, same⟩
      | cons value values =>
          exact (tail_ne_rest ends value values afterSecond firstEnds
            same.symm).elim
  | cons value values inductionHypothesis =>
      cases second with
      | nil =>
          exact (tail_ne_rest ends value values afterFirst secondEnds
            same).elim
      | cons other otherValues =>
          simp only [writeTail, List.flatMap_cons, List.append_assoc] at same
          obtain ⟨rfl, sameTail⟩ :=
            legible value other _ _ (endsAt_tail ends values firstEnds)
              (endsAt_tail ends otherValues secondEnds)
              (List.append_cancel_left same)
          obtain ⟨rfl, sameAfter⟩ := inductionHypothesis otherValues sameTail
          exact ⟨rfl, sameAfter⟩

end Separated

end Legible

/-- Written numbers are legible in front of what they do not use. -/
theorem NumeralStyle.legible
    {style : NumeralStyle}
    (readable : style.Readable) :
    Legible style.characters style.uses := by
  intro first second afterFirst afterSecond firstEnds secondEnds same
  exact style.eq_of_characters_append readable firstEnds secondEnds same

end ChipEight.Text
