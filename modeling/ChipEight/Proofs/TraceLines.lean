import ChipEight.Machine.Cycle
import ChipEight.Proofs.Encoding
import ChipEight.Proofs.Numerals

namespace ChipEight

/-!
# Reading trace lines back

A line of a trace is told apart from every other one character by character:
where two templates first differ they differ in a character that neither of
them can have there, and a number ends where its template goes on with
something that is no digit. So a line says at which address which instruction
was executed with which operands, save that the shifts do not show their second
register.
-/

open Text

theorem NumeralStyle.decimal_readable : NumeralStyle.decimal.Readable :=
  ⟨by decide, by decide⟩

theorem NumeralStyle.capitalHexadecimal_readable :
    NumeralStyle.capitalHexadecimal.Readable :=
  ⟨by decide, by decide⟩

theorem NumeralStyle.hexadecimal_readable
    (width : Nat) :
    (NumeralStyle.hexadecimal width).Readable :=
  ⟨⟨Nat.le_of_ble_eq_true rfl, Nat.le_refl 16⟩, nofun⟩

/--
What a template says of one place of the text: a character, or a number
in a style.
-/
inductive Mark where
  | letter (character : Char)
  | number (style : NumeralStyle) (readable : style.Readable) (field : Field)

namespace Mark

/-- A mark written with the values of the fields. -/
def characters
    (value : Field → Int) :
    Mark →
    List Char
  | .letter character => [character]
  | .number style _ field => style.characters (value field)

/-- Marks written one after the other. -/
def spell
    (value : Field → Int)
    (marks : List Mark) :
    List Char :=
  marks.flatMap (characters value)

/-- Whether a number in front of marks is seen to end there. -/
def endNumber
    (style : NumeralStyle) :
    List Mark →
    Bool
  | [] => true
  | .letter character :: _ => !style.uses character
  | .number _ _ _ :: _ => false

/-- Whether all numbers among marks are seen to end. -/
def allEnd : List Mark → Bool
  | [] => true
  | .letter _ :: rest => allEnd rest
  | .number style _ _ :: rest => endNumber style rest && allEnd rest

/-- Whether marks are told apart from others, whatever the numbers are. -/
def toldApart : List Mark → List Mark → Bool
  | [], [] => false
  | [], _ :: _ => true
  | _ :: _, [] => true
  | .letter character :: rest, .letter other :: otherRest =>
      character != other || toldApart rest otherRest
  | .letter character :: _, .number style _ _ :: _ => !style.uses character
  | .number style _ _ :: _, .letter character :: _ => !style.uses character
  | .number style _ _ :: rest, .number other _ _ :: otherRest =>
      style == other && endNumber style rest && endNumber style otherRest &&
        toldApart rest otherRest

/-- The fields whose numbers marks show. -/
def shown : List Mark → List Field
  | [] => []
  | .letter _ :: rest => shown rest
  | .number _ _ field :: rest => field :: shown rest

end Mark

/-- The marks of a piece of a template. -/
def Piece.marks : Piece → List Mark
  | .words text => text.toList.map .letter
  | .decimal field => [.number _ NumeralStyle.decimal_readable field]
  | .capital field => [.number _ NumeralStyle.capitalHexadecimal_readable field]
  | .hexadecimal width field =>
      [.number _ (NumeralStyle.hexadecimal_readable width) field]

/-- The marks of the template of an operation. -/
def Operation.marks
    (operation : Operation) :
    List Mark :=
  operation.template.flatMap Piece.marks

namespace Mark

variable {value other : Field → Int} {marks : List Mark}

/-- What follows a number that is seen to end does not go on with it. -/
theorem head?_spell_of_endNumber
    {style : NumeralStyle}
    (ends : endNumber style marks) :
    ∀ character ∈ (spell value marks).head?, style.uses character = false := by
  intro character isHead
  cases marks with
  | nil => cases isHead
  | cons mark rest =>
      cases mark with
      | number => cases ends
      | letter first =>
          obtain rfl := Option.some.inj isHead
          simpa [endNumber] using ends

/-- A text that begins with a number begins with a character of it. -/
theorem exists_head?_spell_number
    (value : Field → Int)
    (style : NumeralStyle)
    (readable : style.Readable)
    (field : Field)
    (rest : List Mark) :
    ∃ character,
      (spell value (.number style readable field :: rest)).head? =
          some character ∧
        style.uses character := by
  obtain ⟨character, others, written⟩ :=
    List.exists_cons_of_ne_nil (style.characters_ne_nil (value field))
  have member : character ∈ style.characters (value field) := by
    rw [written]
    exact List.mem_cons_self
  refine ⟨character, ?_, style.uses_of_mem_characters readable _ _ member⟩
  simp [spell, characters, written]

theorem spell_letter
    (character : Char)
    (rest : List Mark) :
    spell value (.letter character :: rest) = character :: spell value rest :=
  rfl

theorem spell_number
    (style : NumeralStyle)
    (readable : style.Readable)
    (field : Field)
    (rest : List Mark) :
    spell value (.number style readable field :: rest) =
      style.characters (value field) ++ spell value rest :=
  rfl

theorem spell_cons_ne_nil
    (mark : Mark)
    (rest : List Mark) :
    spell value (mark :: rest) ≠ [] := by
  cases mark with
  | letter character => exact List.cons_ne_nil _ _
  | number style readable field =>
      exact List.append_ne_nil_of_left_ne_nil (style.characters_ne_nil _) _

/-- A character that a style does not use begins no number of it. -/
theorem letter_ne_number
    {style : NumeralStyle}
    {character : Char}
    (unused : !style.uses character)
    (readable : style.Readable)
    (field : Field)
    (rest otherRest : List Mark) :
    spell value (.letter character :: rest) ≠
      spell other (.number style readable field :: otherRest) := by
  intro same
  obtain ⟨first, isHead, used⟩ :=
    exists_head?_spell_number other style readable field otherRest
  rw [← same, spell_letter, List.head?_cons, Option.some.injEq] at isHead
  rw [isHead, used] at unused
  cases unused

/-- Marks that are told apart are never written alike. -/
theorem spell_ne_of_toldApart
    {first second : List Mark}
    (apart : toldApart first second) :
    spell value first ≠ spell other second := by
  induction first, second using toldApart.induct with
  | case1 => cases apart
  | case2 mark rest => exact (spell_cons_ne_nil mark rest).symm
  | case3 mark rest => exact spell_cons_ne_nil mark rest
  | case4 character rest otherCharacter otherRest inductionHypothesis =>
      rw [toldApart, Bool.or_eq_true, bne_iff_ne] at apart
      intro same
      rw [spell_letter, spell_letter, List.cons.injEq] at same
      rcases apart with differ | later
      · exact differ same.1
      · exact inductionHypothesis later same.2
  | case5 character rest style readable field otherRest =>
      exact letter_ne_number apart readable field rest otherRest
  | case6 style readable field rest character otherRest =>
      exact (letter_ne_number apart readable field otherRest rest).symm
  | case7 style readable field rest otherStyle otherReadable otherField
      otherRest inductionHypothesis =>
      simp only [toldApart, Bool.and_eq_true, beq_iff_eq] at apart
      obtain ⟨⟨⟨rfl, ends⟩, otherEnds⟩, later⟩ := apart
      intro same
      rw [spell_number, spell_number] at same
      exact inductionHypothesis later
        (style.eq_of_characters_append readable
          (head?_spell_of_endNumber ends) (head?_spell_of_endNumber otherEnds)
          same).2

/-- Where all numbers end, marks that are written alike have the same numbers. -/
theorem eq_of_spell_eq
    (ends : allEnd marks)
    (same : spell value marks = spell other marks) :
    ∀ field ∈ shown marks, value field = other field := by
  induction marks with
  | nil => exact nofun
  | cons mark rest inductionHypothesis =>
      cases mark with
      | letter character =>
          exact inductionHypothesis ends (List.tail_eq_of_cons_eq same)
      | number style readable field =>
          rw [allEnd, Bool.and_eq_true] at ends
          obtain ⟨sameNumber, sameRest⟩ :=
            style.eq_of_characters_append readable
              (head?_spell_of_endNumber ends.1)
              (head?_spell_of_endNumber ends.1) same
          rw [shown, List.forall_mem_cons]
          exact ⟨sameNumber, inductionHypothesis ends.2 sameRest⟩

/-- Marks are written alike with the same numbers. -/
theorem spell_congr
    (same : ∀ field ∈ shown marks, value field = other field) :
    spell value marks = spell other marks := by
  induction marks with
  | nil => rfl
  | cons mark rest inductionHypothesis =>
      cases mark with
      | letter character =>
          rw [spell_letter, spell_letter, inductionHypothesis same]
      | number style readable field =>
          have ⟨here, there⟩ := List.forall_mem_cons.mp same
          rw [spell_number, spell_number, here, inductionHypothesis there]

end Mark

namespace Operation

/-- Whether the text of an operation leaves a field of it out. -/
def Hides
    (operation : Operation)
    (field : Field) :
    Prop :=
  field = .y ∧ (operation = .shr ∨ operation = .shl)

instance
    (operation : Operation)
    (field : Field) :
    Decidable (operation.Hides field) :=
  inferInstanceAs (Decidable (_ ∧ (_ ∨ _)))

/-- Two operations are told apart by their templates. -/
theorem toldApart_marks
    {first second : Operation}
    (differ : first ≠ second) :
    Mark.toldApart first.marks second.marks := by
  have table :
      ∀ entry ∈ instructionTable,
        ∀ other ∈ instructionTable,
          entry.operation = other.operation ∨
            Mark.toldApart entry.operation.marks other.operation.marks := by
    decide +kernel
  obtain ⟨entry, member, rfl⟩ := first.exists_entry
  obtain ⟨other, otherMember, rfl⟩ := second.exists_entry
  exact (table entry member other otherMember).resolve_left differ

/-- In every template the numbers are seen to end. -/
theorem allEnd_marks
    (operation : Operation) :
    Mark.allEnd operation.marks := by
  cases operation <;> decide

/--
A template shows the fields of its format that it does not hide, and no others.
-/
theorem mem_shown_iff
    (operation : Operation)
    (field : Field) :
    field ∈ Mark.shown operation.marks ↔
      field ∈ operation.format.fields ∧ ¬ operation.Hides field := by
  cases operation <;> cases field <;> decide

end Operation

namespace Instruction

/-- The text of an instruction is its marks, written with its operands. -/
theorem toList_assembly
    (instruction : Instruction) :
    instruction.assembly.toList =
      Mark.spell instruction.operands.valueOf instruction.operation.marks := by
  rw [assembly, String.toList_join, List.flatMap_map, Operation.marks,
    Mark.spell, List.flatMap_assoc]
  refine List.flatMap_congr fun piece member => ?_
  cases piece with
  | words text =>
      simp [Piece.write, Piece.marks, List.flatMap_map, Mark.characters]
  | decimal field | capital field | hexadecimal width field =>
      obtain ⟨value, found⟩ :=
        instruction.exists_value_of_mem_template member rfl
      simp [Piece.write, Piece.marks, Piece.field?, Piece.style,
        Mark.characters, NumeralStyle.write, Operands.valueOf, found]

theorem operation_eq_of_assembly_eq
    {first second : Instruction}
    (same : first.assembly = second.assembly) :
    first.operation = second.operation := by
  by_contra differ
  have sameMarks := congrArg String.toList same
  rw [toList_assembly, toList_assembly] at sameMarks
  exact Mark.spell_ne_of_toldApart (Operation.toldApart_marks differ) sameMarks

/-- The text of an instruction says which it is, but for what it hides. -/
theorem assembly_eq_iff
    (first second : Instruction) :
    first.assembly = second.assembly ↔
      first.operation = second.operation ∧
        ∀ field,
          first.operands.value? field = second.operands.value? field ∨
            first.operation.Hides field := by
  constructor
  · intro same
    have sameOperation := operation_eq_of_assembly_eq same
    refine ⟨sameOperation, fun field => ?_⟩
    by_cases hides : first.operation.Hides field
    · exact Or.inr hides
    · have firstHas := Format.isSome_value?_iff first.operands field
      have secondHas :
          (second.operands.value? field).isSome ↔
            field ∈ first.operation.format.fields := by
        rw [sameOperation]
        exact Format.isSome_value?_iff second.operands field
      by_cases inFormat : field ∈ first.operation.format.fields
      · have sameMarks := congrArg String.toList same
        have sameTemplate :
            second.operation.marks = first.operation.marks :=
          congrArg Operation.marks sameOperation.symm
        rw [toList_assembly, toList_assembly, sameTemplate] at sameMarks
        have sameValue :=
          Mark.eq_of_spell_eq first.operation.allEnd_marks sameMarks field
            ((first.operation.mem_shown_iff field).mpr ⟨inFormat, hides⟩)
        exact Or.inl
          ((Option.getD_inj (firstHas.mpr inFormat)
            (secondHas.mpr inFormat)).mp sameValue)
      · have firstLacks :=
          Option.not_isSome_iff_eq_none.mp (mt firstHas.mp inFormat)
        have secondLacks :=
          Option.not_isSome_iff_eq_none.mp (mt secondHas.mp inFormat)
        exact Or.inl (firstLacks.trans secondLacks.symm)
  · rintro ⟨sameOperation, sameValues⟩
    have sameText :
        Mark.spell first.operands.valueOf first.operation.marks =
          Mark.spell second.operands.valueOf first.operation.marks := by
      refine Mark.spell_congr fun field isShown => ?_
      have visible := ((first.operation.mem_shown_iff field).mp isShown).2
      rw [Operands.valueOf, Operands.valueOf,
        (sameValues field).resolve_right visible]
    rw [← String.toList_inj, toList_assembly, toList_assembly, sameText,
      sameOperation]

end Instruction

namespace Executed

theorem toList_line
    (executed : Executed) :
    executed.line.toList =
      "mem_addr: 0x".toList ++
        ((NumeralStyle.hexadecimal 4).characters executed.address ++
          ("    instruction: " ++ executed.instruction.assembly).toList) := by
  simp only [line, NumeralStyle.write, String.toList_append,
    String.toList_ofList, List.append_assoc]

/-- A line says at which address which text was executed. -/
theorem line_eq_iff
    (first second : Executed) :
    first.line = second.line ↔
      first.address = second.address ∧
        first.instruction.assembly = second.instruction.assembly := by
  constructor
  · intro same
    -- Behind the address there is a blank, which no number contains.
    have blankEnds
        (rest : String) :
        ∀ character ∈ ("    instruction: " ++ rest).toList.head?,
          (NumeralStyle.hexadecimal 4).uses character = false := by
      intro character isHead
      rw [String.toList_append, List.head?_append] at isHead
      obtain rfl := Option.some.inj isHead
      decide
    have sameCharacters := congrArg String.toList same
    rw [toList_line, toList_line] at sameCharacters
    obtain ⟨sameAddress, sameRest⟩ :=
      NumeralStyle.eq_of_characters_append (NumeralStyle.hexadecimal_readable 4)
        (blankEnds _) (blankEnds _) (List.append_cancel_left sameCharacters)
    rw [String.toList_inj, String.append_right_inj] at sameRest
    exact ⟨sameAddress, sameRest⟩
  · rintro ⟨sameAddress, sameText⟩
    rw [line, line, sameAddress, sameText]

end Executed

open Instruction in
/--
A line of a trace identifies what was executed.

Two lines are the same exactly if they are about the same address and the same
entry of the instruction table, with operands that agree in every field; only
the second register of a shift may differ, since its text leaves it out. Of
whatever operands, no two operations have a text in common.
-/
theorem trace_line_identifies_instruction :
    (∀ address otherAddress opcode otherOpcode : Int,
      ∀ instruction otherInstruction,
        decode opcode = .ok instruction →
        decode otherOpcode = .ok otherInstruction →
        ((⟨address, instruction⟩ : Executed).line =
            (⟨otherAddress, otherInstruction⟩ : Executed).line ↔
          address = otherAddress ∧
            findEntry? instructionTable opcode =
              findEntry? instructionTable otherOpcode ∧
            ∀ field,
              instruction.operands.value? field =
                  otherInstruction.operands.value? field ∨
                field = .y ∧
                  (instruction.operation = .shr ∨
                    instruction.operation = .shl))) ∧
    ∀ first second : Instruction,
      first.assembly = second.assembly →
      first.operation = second.operation := by
  refine ⟨?lines, fun first second => operation_eq_of_assembly_eq⟩
  case lines =>
    intro address otherAddress opcode otherOpcode instruction otherInstruction
      decoded otherDecoded
    obtain ⟨entry, found, member, isOperation, -⟩ := sum_of_decode decoded
    obtain ⟨other, otherFound, otherMember, isOther, -⟩ :=
      sum_of_decode otherDecoded
    have sameEntry :
        findEntry? instructionTable opcode =
            findEntry? instructionTable otherOpcode ↔
          instruction.operation = otherInstruction.operation := by
      rw [found, otherFound, ← isOperation, ← isOther, Option.some.injEq]
      exact ⟨congrArg Entry.operation,
        Entry.eq_of_operation_eq entry member other otherMember⟩
    rw [Executed.line_eq_iff, assembly_eq_iff, sameEntry]
    exact Iff.rfl

/-- Shifts of a register by different ones have the same line. -/
theorem trace_line_identifies_instruction_of_shifts :
    Instruction.decode 0x8126 = .ok ⟨.shr, .registerPair 1 2⟩ ∧
      Instruction.decode 0x8136 = .ok ⟨.shr, .registerPair 1 3⟩ ∧
      (⟨0x200, ⟨.shr, .registerPair 1 2⟩⟩ : Executed).line =
        (⟨0x200, ⟨.shr, .registerPair 1 3⟩⟩ : Executed).line := by
  have decoded :
      Instruction.decode 0x8126 = .ok ⟨.shr, .registerPair 1 2⟩ := rfl
  have otherDecoded :
      Instruction.decode 0x8136 = .ok ⟨.shr, .registerPair 1 3⟩ := rfl
  refine ⟨decoded, otherDecoded, ?_⟩
  refine (trace_line_identifies_instruction.1 0x200 0x200 _ _ _ _ decoded
    otherDecoded).mpr ⟨rfl, rfl, fun field => ?_⟩
  cases field with
  | y => exact Or.inr ⟨rfl, Or.inl rfl⟩
  | nnn => exact Or.inl rfl
  | x => exact Or.inl rfl
  | kk => exact Or.inl rfl
  | n => exact Or.inl rfl

end ChipEight
