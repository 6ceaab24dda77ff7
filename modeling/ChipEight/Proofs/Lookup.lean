import ChipEight.Proofs.Decoding
import Mathlib.Data.List.Find
import Mathlib.Tactic.FinCases

namespace ChipEight

/-!
# The instruction set by its digits

The digits of a word say which operation it stands for: the first one always
does, and for some groups the last one or the last two do as well. The two bare
words are opcodes of their own, and only as they stand. Looking an opcode up in
the table finds the operation that its digits spell, and the order of the table
decides nothing but the opcodes that end in a bare word without being one.
-/

namespace Operation

/--
Whether the digits of a word spell an operation.

The operations without operands have no digits to spell them: their words are
read as a whole.
-/
def Spelled
    (word : Nat) :
    Operation →
    Prop
  | .cls => False
  | .ret => False
  | .sys => word / 0x1000 = 0x0
  | .jp => word / 0x1000 = 0x1
  | .call => word / 0x1000 = 0x2
  | .se => word / 0x1000 = 0x3
  | .sne => word / 0x1000 = 0x4
  | .seReg => word / 0x1000 = 0x5 ∧ word % 0x10 = 0x0
  | .ld => word / 0x1000 = 0x6
  | .add => word / 0x1000 = 0x7
  | .ldReg => word / 0x1000 = 0x8 ∧ word % 0x10 = 0x0
  | .or => word / 0x1000 = 0x8 ∧ word % 0x10 = 0x1
  | .and => word / 0x1000 = 0x8 ∧ word % 0x10 = 0x2
  | .xor => word / 0x1000 = 0x8 ∧ word % 0x10 = 0x3
  | .addReg => word / 0x1000 = 0x8 ∧ word % 0x10 = 0x4
  | .sub => word / 0x1000 = 0x8 ∧ word % 0x10 = 0x5
  | .shr => word / 0x1000 = 0x8 ∧ word % 0x10 = 0x6
  | .subn => word / 0x1000 = 0x8 ∧ word % 0x10 = 0x7
  | .shl => word / 0x1000 = 0x8 ∧ word % 0x10 = 0xE
  | .sneReg => word / 0x1000 = 0x9 ∧ word % 0x10 = 0x0
  | .ldI => word / 0x1000 = 0xA
  | .jpV0 => word / 0x1000 = 0xB
  | .rnd => word / 0x1000 = 0xC
  | .drw => word / 0x1000 = 0xD
  | .skp => word / 0x1000 = 0xE ∧ word % 0x100 = 0x9E
  | .sknp => word / 0x1000 = 0xE ∧ word % 0x100 = 0xA1
  | .ldVxDt => word / 0x1000 = 0xF ∧ word % 0x100 = 0x07
  | .ldVxK => word / 0x1000 = 0xF ∧ word % 0x100 = 0x0A
  | .ldDtVx => word / 0x1000 = 0xF ∧ word % 0x100 = 0x15
  | .ldStVx => word / 0x1000 = 0xF ∧ word % 0x100 = 0x18
  | .addI => word / 0x1000 = 0xF ∧ word % 0x100 = 0x1E
  | .ldF => word / 0x1000 = 0xF ∧ word % 0x100 = 0x29
  | .ldB => word / 0x1000 = 0xF ∧ word % 0x100 = 0x33
  | .ldMemVx => word / 0x1000 = 0xF ∧ word % 0x100 = 0x55
  | .ldVxMem => word / 0x1000 = 0xF ∧ word % 0x100 = 0x65

/-- Whether an opcode stands for an operation. -/
def MeantBy
    (opcode : Int)
    (operation : Operation) :
    Prop :=
  if opcode = 0x00E0 then
    operation = .cls
  else if opcode = 0x00EE then
    operation = .ret
  else
    operation.Spelled (lowWord opcode)

theorem exists_entry
    (operation : Operation) :
    ∃ entry ∈ instructionTable, entry.operation = operation := by
  cases operation <;> decide

end Operation

theorem lowWord_lt
    (opcode : Int) :
    lowWord opcode < 0x10000 := by
  simp only [lowWord]
  omega

theorem natCast_lowWord
    (opcode : Int) :
    (lowWord opcode : Int) = opcode % 0x10000 := by
  simp only [lowWord]
  omega

namespace Entry

/-- An entry fits an opcode whose lowest sixteen bits it fits. -/
theorem fits_lowWord
    (entry : Entry)
    (opcode : Int) :
    entry.fits (lowWord opcode) = entry.fits opcode := by
  have same : lowWord (lowWord opcode) = lowWord opcode := by
    simp only [lowWord]
    omega
  simp only [fits, same]

theorem fits_iff_identity
    {entry : Entry}
    (member : entry ∈ instructionTable)
    (opcode : Int) :
    entry.fits opcode = true ↔
      entry.operation.format.identity (lowWord opcode) = entry.pattern := by
  rw [← fits_lowWord, fits_iff entry (lowWord_lt opcode),
    mask_of_mem entry member, Format.and_mask _ (lowWord_lt opcode)]

/--
A word has the pattern of an entry that is not literal when its digits
spell the operation.
-/
theorem spelled_iff
    {entry : Entry}
    (member : entry ∈ instructionTable)
    (word : Nat) :
    entry.operation.Spelled word ↔
      entry.isLiteral = false ∧
        entry.operation.format.identity word = entry.pattern := by
  fin_cases member <;>
    simp only [Operation.Spelled, Operation.format, Format.identity, isLiteral,
      reduceCtorEq, decide_true, decide_false, Bool.or_true, Bool.true_or,
      Bool.or_self, Bool.true_eq_false, false_and, true_and] <;>
    omega

/--
The digits of an opcode spell an operation when its entry fits and is
not literal.
-/
theorem spelled_lowWord_iff
    {entry : Entry}
    (member : entry ∈ instructionTable)
    (opcode : Int) :
    entry.operation.Spelled (lowWord opcode) ↔
      entry.isLiteral = false ∧ entry.fits opcode = true := by
  rw [spelled_iff member, fits_iff_identity member]

/-- A word that is the pattern of an entry fits it. -/
theorem fits_of_isWord
    {entry : Entry}
    (member : entry ∈ instructionTable)
    {opcode : Int}
    (isWord : entry.isWord opcode) :
    entry.fits opcode = true := by
  have same : (entry.pattern : Int) = opcode := by
    simpa only [Entry.isWord, decide_eq_true_eq] using isWord
  have isSmall := pattern_lt entry member
  rw [← same, fits_iff entry isSmall, mask_of_mem entry member,
    Format.and_mask _ isSmall]
  exact identity_of_mem entry member

theorem eq_of_spelled
    {first second : Entry}
    (firstMember : first ∈ instructionTable)
    (secondMember : second ∈ instructionTable)
    {opcode : Int}
    (bySecond : second.operation.Spelled (lowWord opcode))
    (byFirst : first.operation.Spelled (lowWord opcode)) :
    first = second := by
  rw [spelled_lowWord_iff firstMember, ← fits_lowWord] at byFirst
  rw [spelled_lowWord_iff secondMember, ← fits_lowWord] at bySecond
  rcases eq_of_fits firstMember secondMember (lowWord_lt opcode) byFirst.2
      bySecond.2 with
    same | ⟨-, isLiteral⟩ | ⟨-, isLiteral⟩
  · exact same
  · rw [bySecond.1] at isLiteral
    cases isLiteral
  · rw [byFirst.1] at isLiteral
    cases isLiteral

/-- A literal entry fits the opcodes that end in its word. -/
theorem pattern_of_isLiteral
    {entry : Entry}
    (member : entry ∈ instructionTable)
    (isLiteral : entry.isLiteral)
    {opcode : Int}
    (fits : entry.fits opcode) :
    lowWord opcode = entry.pattern ∧
      (entry.pattern = 0x00E0 ∨ entry.pattern = 0x00EE) := by
  have literal :
      ∀ entry ∈ instructionTable,
        entry.isLiteral →
        entry.operation.format = .bare ∧
          (entry.pattern = 0x00E0 ∨ entry.pattern = 0x00EE) := by
    decide
  obtain ⟨isBare, isPattern⟩ := literal entry member isLiteral
  rw [fits_iff_identity member, isBare] at fits
  exact ⟨fits, isPattern⟩

end Entry

/--
Whether an opcode ends in the word of a literal entry without being that word.
-/
def EndsInBareWord
    (opcode : Int) :
    Prop :=
  (opcode < 0 ∨ 0x10000 ≤ opcode) ∧
    (lowWord opcode = 0x00E0 ∨ lowWord opcode = 0x00EE)

section AnyOrder

variable {entries : List Entry} {opcode : Int} {entry : Entry}

/-- An entry that is found fits, in whichever pass. -/
theorem fits_of_found
    (reordered : entries.Perm instructionTable)
    (found : findEntry? entries opcode = some entry) :
    entry ∈ instructionTable ∧ entry.fits opcode = true := by
  unfold findEntry? at found
  rw [Option.or_eq_some_iff] at found
  rcases found with literally | ⟨-, masked⟩
  · have member := reordered.subset (List.mem_of_find?_eq_some literally)
    have isWord := List.find?_some literally
    exact ⟨member, Entry.fits_of_isWord member isWord⟩
  · have member := reordered.subset (List.mem_of_find?_eq_some masked)
    have fits := List.find?_some masked
    exact ⟨member, fits⟩

/-- Where an entry fits, one is found. -/
theorem exists_found_of_fits
    (reordered : entries.Perm instructionTable)
    (member : entry ∈ instructionTable)
    (fits : entry.fits opcode = true) :
    ∃ found, findEntry? entries opcode = some found := by
  rw [← Option.isSome_iff_exists, findEntry?, Option.isSome_or,
    Bool.or_eq_true]
  exact Or.inr (List.find?_isSome.mpr ⟨entry, reordered.symm.subset member, fits⟩)

/--
The first pass does not depend on the order, since no two patterns are the same.
-/
theorem find?_isWord_of_perm
    (reordered : entries.Perm instructionTable)
    (opcode : Int) :
    (entries.find? fun entry => entry.isWord opcode) =
      instructionTable.find? fun entry => entry.isWord opcode := by
  have apart :
      ∀ first ∈ instructionTable,
        ∀ second ∈ instructionTable,
          first.pattern = second.pattern → first = second := by
    decide +kernel
  symm
  refine List.find?_eq_find?_of_perm reordered.symm ?_
  rintro first ⟨firstMember, isFirst⟩ second ⟨secondMember, isSecond⟩
  simp only [Entry.isWord, decide_eq_true_eq] at isFirst isSecond
  exact apart first firstMember second secondMember (by omega)

theorem found_of_isWord
    (reordered : entries.Perm instructionTable)
    (literally :
      (instructionTable.find? fun entry => entry.isWord opcode) =
        some entry) :
    findEntry? entries opcode = some entry := by
  unfold findEntry?
  rw [find?_isWord_of_perm reordered, literally, Option.some_or]

/-- In any order the entry is found that an opcode stands for. -/
theorem found_iff_meantBy
    (reordered : entries.Perm instructionTable)
    (ordinary : ¬ EndsInBareWord opcode) :
    findEntry? entries opcode = some entry ↔
      entry ∈ instructionTable ∧ entry.operation.MeantBy opcode := by
  have only (literal : Entry) (isEntry : literal ∈ instructionTable) :
      some literal = some entry ↔
        entry ∈ instructionTable ∧ entry.operation = literal.operation := by
    rw [Option.some_inj]
    constructor
    · rintro rfl
      exact ⟨isEntry, rfl⟩
    · rintro ⟨member, same⟩
      exact Entry.eq_of_operation_eq _ isEntry _ member same.symm
  by_cases isCls : opcode = 0x00E0
  · subst isCls
    rw [found_of_isWord reordered rfl]
    exact only _ (by decide)
  by_cases isRet : opcode = 0x00EE
  · subst isRet
    rw [found_of_isWord reordered rfl]
    exact only _ (by decide)
  -- Any other opcode is found by its digits: no literal entry fits it.
  have spelled {found : Entry}
      (isFound : findEntry? entries opcode = some found) :
      found ∈ instructionTable ∧
        found.operation.Spelled (lowWord opcode) := by
    obtain ⟨member, fits⟩ := fits_of_found reordered isFound
    refine ⟨member, (Entry.spelled_lowWord_iff member opcode).mpr ⟨?_, fits⟩⟩
    by_contra isLiteral
    rw [Bool.not_eq_false] at isLiteral
    obtain ⟨ends, isBare⟩ := Entry.pattern_of_isLiteral member isLiteral fits
    have inside : ¬ (opcode < 0 ∨ 0x10000 ≤ opcode) :=
      fun outside => ordinary ⟨outside, by omega⟩
    have whole := natCast_lowWord opcode
    omega
  simp only [Operation.MeantBy, if_neg isCls, if_neg isRet]
  constructor
  · exact spelled
  · rintro ⟨member, isSpelled⟩
    have fits := ((Entry.spelled_lowWord_iff member opcode).mp isSpelled).2
    obtain ⟨found, isFound⟩ := exists_found_of_fits reordered member fits
    obtain ⟨foundMember, foundSpelled⟩ := spelled isFound
    rw [isFound, Entry.eq_of_spelled member foundMember foundSpelled isSpelled]

/-- Behind the words the earlier of two entries is found that fit. -/
theorem found_behind_words
    (reordered : entries.Perm instructionTable)
    (outside : opcode < 0 ∨ 0x10000 ≤ opcode)
    {first second : Operation}
    (fitting :
      ∀ entry ∈ instructionTable,
        entry.fits opcode =
          decide (entry.operation = first ∨ entry.operation = second)) :
    findEntry? entries opcode =
      entries.find? fun entry =>
        entry.operation = first ∨ entry.operation = second := by
  have noWord : (entries.find? fun entry => entry.isWord opcode) = none := by
    rw [List.find?_eq_none]
    intro entry member
    have isSmall := Entry.pattern_lt entry (reordered.subset member)
    simp only [Entry.isWord, decide_eq_true_eq]
    omega
  unfold findEntry?
  rw [noWord, Option.none_or]
  exact List.find?_congr fun entry member =>
    fitting entry (reordered.subset member)

/-- The entries that fit an opcode are those that fit the word that it ends in. -/
theorem fits_of_endsIn
    {word : Nat}
    (ends : lowWord opcode = word)
    {first second : Operation}
    (fitting :
      ∀ entry ∈ instructionTable,
        entry.fits word =
          decide (entry.operation = first ∨ entry.operation = second)) :
    ∀ entry ∈ instructionTable,
      entry.fits opcode =
        decide (entry.operation = first ∨ entry.operation = second) := by
  intro entry member
  rw [← Entry.fits_lowWord, ends]
  exact fitting entry member

theorem found_of_endsInCls
    (reordered : entries.Perm instructionTable)
    (outside : opcode < 0 ∨ 0x10000 ≤ opcode)
    (ends : lowWord opcode = 0x00E0) :
    findEntry? entries opcode =
      entries.find? fun entry =>
        entry.operation = .sys ∨ entry.operation = .cls :=
  found_behind_words reordered outside
    (fits_of_endsIn ends (by decide +kernel))

theorem found_of_endsInRet
    (reordered : entries.Perm instructionTable)
    (outside : opcode < 0 ∨ 0x10000 ≤ opcode)
    (ends : lowWord opcode = 0x00EE) :
    findEntry? entries opcode =
      entries.find? fun entry =>
        entry.operation = .sys ∨ entry.operation = .ret :=
  found_behind_words reordered outside
    (fits_of_endsIn ends (by decide +kernel))

end AnyOrder

/--
In the order of the table an opcode that only ends in a bare word is one
of `sys`.
-/
theorem found_sys_of_endsInBareWord
    {opcode : Int}
    (behind : EndsInBareWord opcode) :
    findEntry? instructionTable opcode = some ⟨.sys, 0x0000, 0xF000⟩ := by
  obtain ⟨outside, ends | ends⟩ := behind
  · exact found_of_endsInCls (List.Perm.refl _) outside ends
  · exact found_of_endsInRet (List.Perm.refl _) outside ends

/-- In the order of the table the entry is found that an opcode stands for. -/
theorem found_in_table_iff
    (opcode : Int)
    (entry : Entry) :
    findEntry? instructionTable opcode = some entry ↔
      entry ∈ instructionTable ∧ entry.operation.MeantBy opcode := by
  by_cases behind : EndsInBareWord opcode
  · have sysMember : ⟨.sys, 0x0000, 0xF000⟩ ∈ instructionTable := by
      decide
    have notCls : opcode ≠ 0x00E0 := by
      rcases behind with ⟨outside, -⟩
      omega
    have notRet : opcode ≠ 0x00EE := by
      rcases behind with ⟨outside, -⟩
      omega
    have isSys : Operation.sys.Spelled (lowWord opcode) := by
      rcases behind.2 with ends | ends <;> rw [ends] <;> rfl
    simp only [Operation.MeantBy, if_neg notCls, if_neg notRet,
      found_sys_of_endsInBareWord behind, Option.some_inj]
    constructor
    · rintro rfl
      exact ⟨sysMember, isSys⟩
    · rintro ⟨member, spelled⟩
      exact Entry.eq_of_spelled sysMember member spelled isSys
  · exact found_iff_meantBy (List.Perm.refl _) behind

/-- No entry is found for an opcode that stands for no operation. -/
theorem notFound_iff_not_meantBy
    (opcode : Int) :
    findEntry? instructionTable opcode = none ↔
      ∀ operation : Operation, ¬ operation.MeantBy opcode := by
  rw [Option.eq_none_iff_forall_ne_some]
  constructor
  · intro notFound operation meant
    obtain ⟨entry, member, rfl⟩ := operation.exists_entry
    exact notFound entry ((found_in_table_iff opcode entry).mpr ⟨member, meant⟩)
  · intro notMeant entry found
    exact notMeant _ ((found_in_table_iff opcode entry).mp found).2

theorem Instruction.decode_eq_error_iff_not_meantBy
    (opcode : Int)
    (fault : Fault) :
    decode opcode = .error fault ↔
      fault = .noInstruction opcode ∧
        ∀ operation : Operation, ¬ operation.MeantBy opcode := by
  rw [← notFound_iff_not_meantBy, decode]
  cases found : findEntry? instructionTable opcode with
  | some entry => simp only [reduceCtorEq, and_false]
  | none => simp only [Except.error.injEq, and_true, eq_comm]

/--
An opcode is looked up by what it stands for, in whatever order the table is.

Every opcode counts, also one that is negative or has more than sixteen bits.
What is found is the entry of the operation that the opcode stands for, and an
opcode that stands for none is refused as it is. Reordering the table changes
the answer for no opcode but those that end in a bare word without being one:
there the entry of `sys` and the one of the bare word fit, and the earlier wins.
-/
theorem lookup_follows_digits_in_every_order
    (opcode : Int) :
    (∀ entry,
      findEntry? instructionTable opcode = some entry ↔
        entry ∈ instructionTable ∧ entry.operation.MeantBy opcode) ∧
    (∀ fault,
      Instruction.decode opcode = .error fault ↔
        fault = .noInstruction opcode ∧
          ∀ operation : Operation, ¬ operation.MeantBy opcode) ∧
    (∀ entries : List Entry,
      entries.Perm instructionTable →
      (¬ ((opcode < 0 ∨ 0x10000 ≤ opcode) ∧
            (lowWord opcode = 0x00E0 ∨ lowWord opcode = 0x00EE)) →
        findEntry? entries opcode = findEntry? instructionTable opcode) ∧
      (opcode < 0 ∨ 0x10000 ≤ opcode →
        (lowWord opcode = 0x00E0 →
          findEntry? entries opcode =
            entries.find? fun entry =>
              entry.operation = .sys ∨ entry.operation = .cls) ∧
        (lowWord opcode = 0x00EE →
          findEntry? entries opcode =
            entries.find? fun entry =>
              entry.operation = .sys ∨ entry.operation = .ret))) := by
  refine ⟨found_in_table_iff opcode,
    Instruction.decode_eq_error_iff_not_meantBy opcode, ?_⟩
  intro entries reordered
  refine ⟨?_, fun outside => ⟨?_, ?_⟩⟩
  · intro ordinary
    apply Option.ext
    intro entry
    rw [found_iff_meantBy reordered ordinary, found_in_table_iff]
  · exact found_of_endsInCls reordered outside
  · exact found_of_endsInRet reordered outside

/--
With the table reversed, the opcode `0x100E0` is the bare word's and no longer
one of `sys`.
-/
theorem lookup_follows_digits_in_every_order_of_reversed :
    instructionTable.reverse.Perm instructionTable ∧
      lowWord 0x100E0 = 0x00E0 ∧
      findEntry? instructionTable 0x100E0 =
        some ⟨.sys, 0x0000, 0xF000⟩ ∧
      findEntry? instructionTable.reverse 0x100E0 =
        some ⟨.cls, 0x00E0, 0xFFFF⟩ := by
  have reordered : instructionTable.reverse.Perm instructionTable :=
    List.reverse_perm instructionTable
  have ends : lowWord 0x100E0 = 0x00E0 := rfl
  obtain ⟨found, -, inOrder⟩ := lookup_follows_digits_in_every_order 0x100E0
  have earlier :=
    ((inOrder _ reordered).2 (Or.inr (by decide))).1 ends
  refine ⟨reordered, ends, (found _).mpr ⟨by decide, ?_⟩, earlier.trans rfl⟩
  rfl

end ChipEight
