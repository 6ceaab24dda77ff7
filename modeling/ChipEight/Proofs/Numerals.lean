import ChipEight.Text.Numeral
import Mathlib.Data.List.Basic

namespace ChipEight.Text

/-!
# Reading written numbers back

A written number can be read back whatever its style: the digits give its
absolute value, and zeros in front of them do not matter. So no two numbers are
written alike. Where a number is followed by a character that it cannot contain,
it can also be told where it ends.
-/

/-- The character of a digit, in small or capital letters. -/
def digitCharacter
    (capital : Bool)
    (value : Nat) :
    Char :=
  if capital then
    (Nat.digitChar value).toUpper
  else
    Nat.digitChar value

/-- The value that a character has as a digit. -/
def valueOf
    (capital : Bool)
    (character : Char) :
    Nat :=
  ((List.range 16).map (digitCharacter capital)).idxOf character

/-- No two digits are the same character. -/
theorem valueOf_digitCharacter
    (capital : Bool)
    (value : Fin 16) :
    valueOf capital (digitCharacter capital value) = value := by
  revert capital value
  decide

namespace NumeralStyle

/-- The number that digits make up, the highest digit first. -/
def read
    (style : NumeralStyle)
    (characters : List Char) :
    Nat :=
  characters.foldl
    (fun number character =>
      style.base * number + valueOf style.capital character)
    0

/-- Whether a character may stand in a written number. -/
def uses
    (style : NumeralStyle)
    (character : Char) :
    Bool :=
  character == '-' ||
    style.marker.toList.contains character ||
    ((List.range style.base).map (digitCharacter style.capital)).contains
      character

/-- Whether numbers of a style can be read back. -/
structure Readable
    (style : NumeralStyle) : Prop where
  base :
    2 ≤ style.base ∧ style.base ≤ 16
  marker :
    style.marker.toList.head? ≠ some '-'

variable {style : NumeralStyle}

theorem digits_of_lt
    {value : Nat}
    (below : value < style.base) :
    style.digits value = [digitCharacter style.capital value] := by
  rw [digits, Nat.toDigits_of_lt_base below, digitCharacter]
  split <;> rfl

/-- The last digit is the remainder, and the others are those of the quotient. -/
theorem digits_of_le
    (readable : style.Readable)
    {value : Nat}
    (above : style.base ≤ value) :
    style.digits value =
      style.digits (value / style.base) ++
        [digitCharacter style.capital (value % style.base)] := by
  have ⟨two, _⟩ := readable.base
  rw [digits, Nat.toDigits_of_base_le two above, digits, digitCharacter]
  split
  · rw [List.map_append]
    rfl
  · rfl

/-- Digits are written one by one. -/
theorem digits_induction
    (readable : style.Readable)
    {holds : Nat → List Char → Prop}
    (single :
      ∀ value < style.base,
        holds value [digitCharacter style.capital value])
    (further :
      ∀ value characters,
        ∀ last < style.base,
          holds value characters →
          holds (style.base * value + last)
            (characters ++ [digitCharacter style.capital last]))
    (value : Nat) :
    holds value (style.digits value) := by
  have ⟨two, _⟩ := readable.base
  induction value using Nat.strongRecOn with
  | ind value inductionHypothesis =>
      by_cases below : value < style.base
      · rw [digits_of_lt below]
        exact single value below
      · have above := Nat.not_lt.mp below
        have smaller : value / style.base < value :=
          Nat.div_lt_self (by omega) two
        have remainder : value % style.base < style.base :=
          Nat.mod_lt value (by omega)
        have next :=
          further _ _ _ remainder (inductionHypothesis _ smaller)
        rw [Nat.div_add_mod, ← digits_of_le readable above] at next
        exact next

/-- The digits of a number are read back as that number. -/
theorem read_digits
    (readable : style.Readable)
    (value : Nat) :
    style.read (style.digits value) = value := by
  have ⟨_, sixteen⟩ := readable.base
  have valueOf_last {last : Nat} (below : last < style.base) :
      valueOf style.capital (digitCharacter style.capital last) = last :=
    valueOf_digitCharacter style.capital ⟨last, by omega⟩
  induction value using digits_induction readable with
  | single value below => simp [read, valueOf_last below]
  | further value characters last below inductionHypothesis =>
      rw [read, List.foldl_append, ← read, inductionHypothesis]
      simp [valueOf_last below]

/-- Zeros in front of digits do not count. -/
theorem read_leftpad
    (style : NumeralStyle)
    (width : Nat)
    (characters : List Char) :
    style.read (characters.leftpad width '0') = style.read characters := by
  have zero : valueOf style.capital '0' = 0 := by
    cases style.capital <;> decide
  have zeros (count : Nat) : style.read (List.replicate count '0') = 0 := by
    induction count with
    | zero => rfl
    | succ count inductionHypothesis =>
        rw [List.replicate_succ', read, List.foldl_append, ← read,
          inductionHypothesis]
        simp [zero]
  rw [List.leftpad, read, List.foldl_append, ← read, zeros, read]

/-- Digits and the zeros in front of them are digits below the base. -/
theorem exists_digit_of_mem_leftpad
    (readable : style.Readable)
    (value width : Nat) :
    ∀ character ∈ (style.digits value).leftpad width '0',
      ∃ digit < style.base,
        character = digitCharacter style.capital digit := by
  have ⟨two, _⟩ := readable.base
  intro character member
  rcases List.mem_append.mp member with zero | inDigits
  · have isDigit : digitCharacter style.capital 0 = '0' := by
      cases style.capital <;> decide
    exact ⟨0, by omega, (List.eq_of_mem_replicate zero).trans isDigit.symm⟩
  · clear member
    induction value using digits_induction readable with
    | single value below =>
        exact ⟨value, below, List.mem_singleton.mp inDigits⟩
    | further value characters last below inductionHypothesis =>
        rcases List.mem_append.mp inDigits with earlier | atLast
        · exact inductionHypothesis earlier
        · exact ⟨last, below, List.mem_singleton.mp atLast⟩

/-- A written number contains only what its style uses. -/
theorem uses_of_mem_characters
    (readable : style.Readable)
    (value : Int) :
    ∀ character ∈ style.characters value, style.uses character := by
  intro character member
  simp only [uses, Bool.or_eq_true, beq_iff_eq, List.contains_iff_mem,
    List.mem_map, List.mem_range]
  rcases List.mem_append.mp member with inLead | inDigits
  · rcases List.mem_append.mp inLead with sign | inMarker
    · split at sign
      · exact Or.inl (Or.inl (List.mem_singleton.mp sign))
      · cases sign
    · exact Or.inl (Or.inr inMarker)
  · obtain ⟨digit, below, isDigit⟩ :=
      exists_digit_of_mem_leftpad readable _ _ character inDigits
    exact Or.inr ⟨digit, below, isDigit.symm⟩

/-- There are digits, also where no zeros are needed. -/
theorem leftpad_digits_ne_nil
    (style : NumeralStyle)
    (value width : Nat) :
    (style.digits value).leftpad width '0' ≠ [] := by
  rw [List.leftpad, digits]
  split <;> simp

theorem characters_ne_nil
    (style : NumeralStyle)
    (value : Int) :
    style.characters value ≠ [] :=
  List.append_ne_nil_of_right_ne_nil _ (leftpad_digits_ne_nil style _ _)

/-- Only a negative number begins with a sign. -/
theorem head?_characters
    (readable : style.Readable)
    (value : Int) :
    (style.characters value).head? = some '-' ↔ value < 0 := by
  by_cases negative : value < 0
  · simp [characters, lead, negative]
  · suffices (style.characters value).head? ≠ some '-' by
      simpa only [negative, iff_false] using this
    intro isSign
    rw [characters, lead, if_neg negative, List.nil_append,
      List.head?_append] at isSign
    have ⟨_, sixteen⟩ := readable.base
    cases inMarker : style.marker.toList.head? with
    | some character =>
        rw [inMarker] at isSign
        exact readable.marker (inMarker.trans isSign)
    | none =>
        rw [inMarker] at isSign
        obtain ⟨digit, below, isDigit⟩ :=
          exists_digit_of_mem_leftpad readable _ _ '-'
            (List.mem_of_head? isSign)
        have noSign (capital : Bool) (value : Fin 16) :
            '-' ≠ digitCharacter capital value := by
          revert capital value
          decide
        exact noSign style.capital ⟨digit, by omega⟩ isDigit

/-- No two numbers are written alike. -/
theorem characters_injective
    (readable : style.Readable)
    {first second : Int}
    (same : style.characters first = style.characters second) :
    first = second := by
  have sameSign : first < 0 ↔ second < 0 := by
    rw [← head?_characters readable, ← head?_characters readable, same]
  have sameLead : style.lead first = style.lead second := by
    simp only [lead, sameSign]
  have sameDigits :=
    congrArg style.read
      (List.append_cancel_left (by
        simpa only [characters, sameLead] using same))
  rw [read_leftpad, read_leftpad, read_digits readable,
    read_digits readable] at sameDigits
  omega

/-- A written number ends where something follows that its style does not use. -/
theorem eq_of_characters_append
    (readable : style.Readable)
    {first second : Int}
    {afterFirst afterSecond : List Char}
    (firstEnds :
      ∀ character ∈ afterFirst.head?, style.uses character = false)
    (secondEnds :
      ∀ character ∈ afterSecond.head?, style.uses character = false)
    (same :
      style.characters first ++ afterFirst =
        style.characters second ++ afterSecond) :
    first = second ∧ afterFirst = afterSecond := by
  have stops
      {value : Int}
      {after : List Char}
      (ends : ∀ character ∈ after.head?, style.uses character = false) :
      (style.characters value ++ after).takeWhile style.uses =
        style.characters value := by
    rw [List.takeWhile_append_of_pos (uses_of_mem_characters readable value)]
    cases after with
    | nil => simp
    | cons character rest => simp [ends character rfl]
  have sameNumber := congrArg (List.takeWhile style.uses) same
  rw [stops firstEnds, stops secondEnds] at sameNumber
  rw [sameNumber] at same
  exact ⟨characters_injective readable sameNumber,
    List.append_cancel_left same⟩

end NumeralStyle

end ChipEight.Text
