import ChipEight.Instruction.Table
import ChipEight.Layout

namespace ChipEight

/-!
# Decoding and encoding instruction words

In every word the bits of the mask identify the operation and the remaining
bits are the operands: the mask depends on the format alone, and each format
splits a word without loss. Two entries of the table that fit one word are the
same, except that the words of `cls` and `ret` also have the layout of `sys`.
Hence a word is decoded to an instruction exactly when it is the word of that
instruction.
-/

/-- Operands that a word has room for. -/
inductive Operands.Proper : {format : Format} → Operands format → Prop where
  | bare : Proper .bare
  | address (nnn : Fin 0x1000) : Proper (.address (nnn : Nat))
  | registerValue (x : Fin registerCount) (kk : Fin 0x100) :
      Proper (.registerValue (x : Nat) (kk : Nat))
  | registerPair (x y : Fin registerCount) :
      Proper (.registerPair (x : Nat) (y : Nat))
  | register (x : Fin registerCount) : Proper (.register (x : Nat))
  | sprite (x y : Fin registerCount) (n : Fin 0x10) :
      Proper (.sprite (x : Nat) (y : Nat) (n : Nat))

namespace Field

/-- How many values a field has. -/
def range : Field → Nat
  | .nnn => 0x1000
  | .x => 0x10
  | .y => 0x10
  | .kk => 0x100
  | .n => 0x10

/-- The value that is read from a field is one that it has. -/
theorem exists_read
    (field : Field)
    (opcode : Int) :
    ∃ value : Fin field.range, field.read opcode = (value : Nat) := by
  cases field with
  | nnn => exact ⟨⟨(opcode % 0x1000).toNat, by simp only [range]; omega⟩, by
      simp only [read]; omega⟩
  | x => exact ⟨⟨(opcode / 0x100 % 0x10).toNat, by simp only [range]; omega⟩, by
      simp only [read]; omega⟩
  | y => exact ⟨⟨(opcode / 0x10 % 0x10).toNat, by simp only [range]; omega⟩, by
      simp only [read]; omega⟩
  | kk => exact ⟨⟨(opcode % 0x100).toNat, by simp only [range]; omega⟩, by
      simp only [read]; omega⟩
  | n => exact ⟨⟨(opcode % 0x10).toNat, by simp only [range]; omega⟩, by
      simp only [read]; omega⟩

end Field

namespace Format

theorem proper_read
    (format : Format)
    (opcode : Int) :
    (format.read opcode).Proper := by
  obtain ⟨nnn, atNnn⟩ := Field.nnn.exists_read opcode
  obtain ⟨x, atX⟩ := Field.x.exists_read opcode
  obtain ⟨y, atY⟩ := Field.y.exists_read opcode
  obtain ⟨kk, atKk⟩ := Field.kk.exists_read opcode
  obtain ⟨n, atN⟩ := Field.n.exists_read opcode
  cases format <;>
    simp only [read, operandsOf, atNnn, atX, atY, atKk, atN]
  · exact .bare
  · exact .address nnn
  · exact .registerValue x kk
  · exact .registerPair x y
  · exact .register x
  · exact .sprite x y n

/-- The bits of a word that identify an operation of a format. -/
def mask : Format → Nat
  | .bare => 0xFFFF
  | .address => 0xF000
  | .registerValue => 0xF000
  | .registerPair => 0xF00F
  | .register => 0xF0FF
  | .sprite => 0xF000

/-- What is left of a word when the operands of a format are taken away. -/
def identity
    (format : Format)
    (word : Nat) :
    Nat :=
  match format with
  | .bare => word
  | .address => 0x1000 * (word / 0x1000)
  | .registerValue => 0x1000 * (word / 0x1000)
  | .registerPair => 0x1000 * (word / 0x1000) + word % 0x10
  | .register => 0x1000 * (word / 0x1000) + word % 0x100
  | .sprite => 0x1000 * (word / 0x1000)

/-- A mask that keeps the first nibble keeps it apart from the rest. -/
theorem and_firstNibble
    {word rest : Nat}
    (small : word < 0x10000)
    (inRest : rest < 0x1000) :
    word &&& (0xF000 + rest) =
      0x1000 * (word / 0x1000) + (word % 0x1000 &&& rest) := by
  have upper :
      (word &&& (0xF000 + rest)) / 0x1000 =
        word / 0x1000 &&& (0xF000 + rest) / 0x1000 :=
    Nat.and_div_two_pow (n := 12)
  have lower :
      (word &&& (0xF000 + rest)) % 0x1000 =
        word % 0x1000 &&& (0xF000 + rest) % 0x1000 :=
    Nat.and_mod_two_pow (n := 12)
  have firstNibble : word / 0x1000 &&& 0xF = word / 0x1000 % 0x10 :=
    Nat.and_two_pow_sub_one_eq_mod (word / 0x1000) 4
  rw [show (0xF000 + rest) / 0x1000 = 0xF by omega, firstNibble] at upper
  rw [show (0xF000 + rest) % 0x1000 = rest by omega] at lower
  omega

theorem and_mask
    (format : Format)
    {word : Nat}
    (small : word < 0x10000) :
    word &&& format.mask = format.identity word := by
  have firstOnly : word &&& 0xF000 = 0x1000 * (word / 0x1000) := by
    have split := and_firstNibble small (by decide : 0 < 0x1000)
    simpa only [Nat.and_zero, Nat.add_zero] using split
  cases format with
  | bare =>
      have whole := Nat.and_two_pow_sub_one_eq_mod word 16
      exact whole.trans (Nat.mod_eq_of_lt small)
  | address => exact firstOnly
  | registerValue => exact firstOnly
  | registerPair =>
      have split := and_firstNibble small (by decide : 0xF < 0x1000)
      have last := Nat.and_two_pow_sub_one_eq_mod (word % 0x1000) 4
      rw [Nat.mod_mod_of_dvd word (by decide)] at last
      exact split.trans (congrArg _ last)
  | register =>
      have split := and_firstNibble small (by decide : 0xFF < 0x1000)
      have last := Nat.and_two_pow_sub_one_eq_mod (word % 0x1000) 8
      rw [Nat.mod_mod_of_dvd word (by decide)] at last
      exact split.trans (congrArg _ last)
  | sprite => exact firstOnly

end Format

/-- What operands add to the word of an instruction. -/
def Operands.weight : {format : Format} → Operands format → Int
  | _, .bare => 0
  | _, .address nnn => nnn
  | _, .registerValue x kk => 0x100 * x + kk
  | _, .registerPair x y => 0x100 * x + 0x10 * y
  | _, .register x => 0x100 * x
  | _, .sprite x y n => 0x100 * x + 0x10 * y + n

namespace Format

/-- A word is what identifies its operation and the weight of its operands. -/
theorem identity_add_weight
    (format : Format)
    (word : Nat) :
    (format.identity word : Int) + (format.read word).weight = word := by
  cases format <;>
    simp only [identity, read, operandsOf, Operands.weight, Field.read]
  all_goals omega

/-- Adding operands to a pattern of their format leaves its identity. -/
theorem identity_of_weight
    {format : Format}
    {pattern word : Nat}
    {operands : Operands format}
    (proper : operands.Proper)
    (ofFormat : format.identity pattern = pattern)
    (weighed : (word : Int) = pattern + operands.weight) :
    format.identity word = pattern := by
  cases proper with
  | bare =>
      simp only [identity, Operands.weight] at *
      omega
  | address nnn =>
      simp only [identity, Operands.weight] at *
      omega
  | registerValue x kk =>
      have register : (x : Nat) < 0x10 := x.isLt
      simp only [identity, Operands.weight] at *
      omega
  | registerPair x y =>
      have first : (x : Nat) < 0x10 := x.isLt
      have second : (y : Nat) < 0x10 := y.isLt
      simp only [identity, Operands.weight] at *
      omega
  | register x =>
      have register : (x : Nat) < 0x10 := x.isLt
      simp only [identity, Operands.weight] at *
      omega
  | sprite x y n =>
      have first : (x : Nat) < 0x10 := x.isLt
      have second : (y : Nat) < 0x10 := y.isLt
      simp only [identity, Operands.weight] at *
      omega

theorem read_of_weight
    {format : Format}
    {pattern word : Nat}
    {operands : Operands format}
    (proper : operands.Proper)
    (ofFormat : format.identity pattern = pattern)
    (weighed : (word : Int) = pattern + operands.weight) :
    format.read word = operands := by
  cases proper with
  | bare => rfl
  | address nnn =>
      simp only [identity, Operands.weight, read, operandsOf, Field.read,
        Operands.address.injEq] at *
      omega
  | registerValue x kk =>
      have register : (x : Nat) < 0x10 := x.isLt
      simp only [identity, Operands.weight, read, operandsOf, Field.read,
        Operands.registerValue.injEq] at *
      omega
  | registerPair x y =>
      have first : (x : Nat) < 0x10 := x.isLt
      have second : (y : Nat) < 0x10 := y.isLt
      simp only [identity, Operands.weight, read, operandsOf, Field.read,
        Operands.registerPair.injEq] at *
      omega
  | register x =>
      have register : (x : Nat) < 0x10 := x.isLt
      simp only [identity, Operands.weight, read, operandsOf, Field.read,
        Operands.register.injEq] at *
      omega
  | sprite x y n =>
      have first : (x : Nat) < 0x10 := x.isLt
      have second : (y : Nat) < 0x10 := y.isLt
      simp only [identity, Operands.weight, read, operandsOf, Field.read,
        Operands.sprite.injEq] at *
      omega

end Format

namespace Entry

theorem mask_of_mem :
    ∀ entry ∈ instructionTable, entry.mask = entry.operation.format.mask := by
  decide

theorem identity_of_mem :
    ∀ entry ∈ instructionTable,
      entry.operation.format.identity entry.pattern = entry.pattern := by
  decide

/-- The two operations whose words also have the layout of `sys`. -/
def isLiteral (entry : Entry) : Bool :=
  entry.operation = .cls || entry.operation = .ret

/-- Entries whose patterns agree are the same, `sys` and the literal ones apart. -/
theorem eq_of_agree :
    ∀ first ∈ instructionTable,
      ∀ second ∈ instructionTable,
        first.pattern &&& second.mask = second.pattern &&& first.mask →
        first = second ∨
          first.operation = .sys ∧ second.isLiteral ∨
          second.operation = .sys ∧ first.isLiteral := by
  decide +kernel

/-- The word of a literal entry is its pattern. -/
theorem mask_of_isLiteral :
    ∀ entry ∈ instructionTable,
      entry.isLiteral →
      entry.mask = 0xFFFF ∧
        (entry.pattern = 0x00E0 ∨ entry.pattern = 0x00EE) := by
  decide

theorem eq_of_operation_eq :
    ∀ first ∈ instructionTable,
      ∀ second ∈ instructionTable,
        first.operation = second.operation →
        first = second := by
  decide +kernel

theorem fits_iff
    (entry : Entry)
    {word : Nat}
    (small : word < 0x10000) :
    entry.fits word = true ↔ word &&& entry.mask = entry.pattern := by
  have low : lowWord word = word := by
    simp only [lowWord]
    omega
  simp only [fits, low, decide_eq_true_eq]

/-- Entries that fit one word are the same, `sys` and the literal ones apart. -/
theorem eq_of_fits
    {first second : Entry}
    (firstMember : first ∈ instructionTable)
    (secondMember : second ∈ instructionTable)
    {word : Nat}
    (small : word < 0x10000)
    (firstFits : first.fits word)
    (secondFits : second.fits word) :
    first = second ∨
      first.operation = .sys ∧ second.isLiteral ∨
      second.operation = .sys ∧ first.isLiteral := by
  rw [fits_iff first small] at firstFits
  rw [fits_iff second small] at secondFits
  apply eq_of_agree first firstMember second secondMember
  rw [← firstFits, ← secondFits, Nat.and_assoc, Nat.and_assoc,
    Nat.and_comm first.mask]

end Entry

/-- Whether an entry is the one that recognises a word. -/
structure Entry.Recognises
    (entry : Entry)
    (word : Nat) : Prop where
  member :
    entry ∈ instructionTable
  fits :
    entry.fits word
  notLiteral :
    entry.operation = .sys →
    word ≠ 0x00E0 ∧ word ≠ 0x00EE

namespace Entry.Recognises

/-- A word is recognised by one entry only. -/
theorem unique
    {first second : Entry}
    {word : Nat}
    (small : word < 0x10000)
    (recognised : first.Recognises word)
    (again : second.Recognises word) :
    first = second := by
  have literal
      {sys other : Entry}
      (bySys : sys.Recognises word)
      (byOther : other.Recognises word)
      (isSys : sys.operation = .sys)
      (isLiteral : other.isLiteral) :
      False := by
    obtain ⟨mask, pattern⟩ :=
      mask_of_isLiteral other byOther.member isLiteral
    have notLiteral := bySys.notLiteral isSys
    have fits := (fits_iff other small).mp byOther.fits
    have whole := Format.bare.and_mask small
    simp only [Format.mask, Format.identity] at whole
    rw [mask, whole] at fits
    omega
  rcases eq_of_fits recognised.member again.member small
      recognised.fits again.fits with
    same | ⟨isSys, isLiteral⟩ | ⟨isSys, isLiteral⟩
  · exact same
  · exact (literal recognised again isSys isLiteral).elim
  · exact (literal again recognised isSys isLiteral).elim

end Entry.Recognises

/-- An entry that is found for a word recognises it. -/
theorem recognises_of_found
    {entry : Entry}
    {word : Nat}
    (small : word < 0x10000)
    (found : findEntry? instructionTable word = some entry) :
    entry.Recognises word := by
  unfold findEntry? at found
  rw [Option.or_eq_some_iff] at found
  rcases found with literally | ⟨notLiterally, masked⟩
  · have member := List.mem_of_find?_eq_some literally
    have isWord := List.find?_some literally
    have same : entry.pattern = word := by
      simpa only [Entry.isWord, decide_eq_true_eq, Int.natCast_inj] using isWord
    refine { member := member, fits := ?_, notLiteral := ?_ }
    · rw [Entry.fits_iff entry small, Entry.mask_of_mem entry member,
        Format.and_mask _ small, ← same]
      exact Entry.identity_of_mem entry member
    · intro isSys
      have zero :
          ∀ entry ∈ instructionTable,
            entry.operation = .sys → entry.pattern = 0 := by decide
      have pattern := zero entry member isSys
      omega
  · have noWord := List.find?_eq_none.mp notLiterally
    have fits := List.find?_some masked
    refine
      { member := List.mem_of_find?_eq_some masked,
        fits := fits,
        notLiteral := ?_ }
    rintro -
    constructor
    · rintro rfl
      exact noWord ⟨.cls, 0x00E0, 0xFFFF⟩ (by decide) (by decide)
    · rintro rfl
      exact noWord ⟨.ret, 0x00EE, 0xFFFF⟩ (by decide) (by decide)

theorem found_of_recognises
    {entry : Entry}
    {word : Nat}
    (small : word < 0x10000)
    (recognised : entry.Recognises word) :
    findEntry? instructionTable word = some entry := by
  cases found : findEntry? instructionTable word with
  | some other =>
      have again := recognises_of_found small found
      rw [again.unique small recognised]
  | none =>
      unfold findEntry? at found
      rw [Option.or_eq_none_iff] at found
      have misfit := List.find?_eq_none.mp found.2 entry recognised.member
      exact (misfit recognised.fits).elim

theorem notFound_iff
    {word : Nat}
    (small : word < 0x10000) :
    findEntry? instructionTable word = none ↔
      ∀ entry ∈ instructionTable, word &&& entry.mask ≠ entry.pattern := by
  constructor
  · intro notFound entry member fits
    unfold findEntry? at notFound
    rw [Option.or_eq_none_iff] at notFound
    have misfit := List.find?_eq_none.mp notFound.2 entry member
    exact misfit ((Entry.fits_iff entry small).mpr fits)
  · intro misfits
    cases found : findEntry? instructionTable word with
    | none => rfl
    | some entry =>
        have recognised := recognises_of_found small found
        have fits := (Entry.fits_iff entry small).mp recognised.fits
        exact (misfits entry recognised.member fits).elim

namespace Instruction

/-- A word is decoded to an instruction when it is the word of it. -/
theorem decode_eq_ok_iff
    {word : Nat}
    (small : word < 0x10000)
    {instruction : Instruction} :
    decode word = .ok instruction ↔
      instruction.operands.Proper ∧
        (instruction.operation = .sys → word ≠ 0x00E0 ∧ word ≠ 0x00EE) ∧
        ∃ entry ∈ instructionTable,
          entry.operation = instruction.operation ∧
            (word : Int) = entry.pattern + instruction.operands.weight := by
  constructor
  · intro decoded
    rw [decode] at decoded
    split at decoded
    · next entry found =>
        have recognised := recognises_of_found small found
        obtain rfl := Except.ok.inj decoded
        refine ⟨Format.proper_read _ _, recognised.notLiteral, entry,
          recognised.member, rfl, ?_⟩
        have fits := (Entry.fits_iff entry small).mp recognised.fits
        rw [Entry.mask_of_mem entry recognised.member,
          Format.and_mask _ small] at fits
        have split := entry.operation.format.identity_add_weight word
        rw [fits] at split
        exact split.symm
    · cases decoded
  · rintro ⟨proper, notLiteral, entry, member, same, weighed⟩
    obtain ⟨operation, operands⟩ := instruction
    obtain ⟨named, pattern, mask⟩ := entry
    simp only at same
    subst same
    have ofFormat := Entry.identity_of_mem _ member
    have recognised : Entry.Recognises ⟨named, pattern, mask⟩ word :=
      { member := member,
        fits := by
          rw [Entry.fits_iff _ small, Entry.mask_of_mem _ member,
            Format.and_mask _ small]
          exact Format.identity_of_weight proper ofFormat weighed,
        notLiteral := notLiteral }
    rw [decode, found_of_recognises small recognised]
    simp only [Format.read_of_weight proper ofFormat weighed]

/-- A word is refused when it fits no entry of the table. -/
theorem decode_eq_error_iff
    {word : Nat}
    (small : word < 0x10000)
    {fault : Fault} :
    decode word = .error fault ↔
      fault = .noInstruction word ∧
        ∀ entry ∈ instructionTable, word &&& entry.mask ≠ entry.pattern := by
  rw [← notFound_iff small, decode]
  cases findEntry? instructionTable word with
  | none => simp [eq_comm]
  | some entry => simp

/-- The word of an instruction is its pattern and the weight of its operands. -/
theorem decode_eq_ok_iff_of_mem
    (operation : Operation)
    (pattern mask : Nat)
    (member : ⟨operation, pattern, mask⟩ ∈ instructionTable)
    (notSys : operation ≠ .sys)
    {operands : Operands operation.format}
    (proper : operands.Proper)
    {weight : Nat}
    (weighs : operands.weight = weight)
    {word : Nat}
    (small : word < 0x10000) :
    decode word = .ok ⟨operation, operands⟩ ↔ word = pattern + weight := by
  rw [decode_eq_ok_iff small]
  constructor
  · rintro ⟨-, -, entry, entryMember, sameOperation, weighed⟩
    obtain rfl :=
      Entry.eq_of_operation_eq entry entryMember _ member sameOperation
    simp only [weighs] at weighed
    exact_mod_cast weighed
  · intro atWord
    refine ⟨proper, fun isSys => (notSys isSys).elim, _, member, rfl, ?_⟩
    simp only [weighs]
    exact_mod_cast atWord

/-! The words of the instructions that may fail, and of some that never do. -/

section Words

variable {word : Nat} (small : word < 0x10000)

include small

theorem decode_eq_ret_iff :
    decode word = .ok ⟨.ret, .bare⟩ ↔ word = 0x00EE :=
  decode_eq_ok_iff_of_mem .ret 0x00EE 0xFFFF (by decide) (by decide)
    .bare rfl small

theorem decode_eq_call_iff
    (nnn : Fin 0x1000) :
    decode word = .ok ⟨.call, .address (nnn : Nat)⟩ ↔
      word = 0x2000 + nnn :=
  decode_eq_ok_iff_of_mem .call 0x2000 0xF000 (by decide) (by decide)
    (.address nnn) rfl small

theorem decode_eq_jp_iff
    (nnn : Fin 0x1000) :
    decode word = .ok ⟨.jp, .address (nnn : Nat)⟩ ↔
      word = 0x1000 + nnn :=
  decode_eq_ok_iff_of_mem .jp 0x1000 0xF000 (by decide) (by decide)
    (.address nnn) rfl small

theorem decode_eq_drw_iff
    (x y : Fin registerCount)
    (n : Fin 0x10) :
    decode word = .ok ⟨.drw, .sprite (x : Nat) (y : Nat) (n : Nat)⟩ ↔
      word = 0xD000 + (0x100 * x + 0x10 * y + n) :=
  decode_eq_ok_iff_of_mem .drw 0xD000 0xF000 (by decide) (by decide)
    (.sprite x y n) rfl small

theorem decode_eq_skp_iff
    (x : Fin registerCount) :
    decode word = .ok ⟨.skp, .register (x : Nat)⟩ ↔
      word = 0xE09E + 0x100 * x :=
  decode_eq_ok_iff_of_mem .skp 0xE09E 0xF0FF (by decide) (by decide)
    (.register x) rfl small

theorem decode_eq_sknp_iff
    (x : Fin registerCount) :
    decode word = .ok ⟨.sknp, .register (x : Nat)⟩ ↔
      word = 0xE0A1 + 0x100 * x :=
  decode_eq_ok_iff_of_mem .sknp 0xE0A1 0xF0FF (by decide) (by decide)
    (.register x) rfl small

theorem decode_eq_ldDtVx_iff
    (x : Fin registerCount) :
    decode word = .ok ⟨.ldDtVx, .register (x : Nat)⟩ ↔
      word = 0xF015 + 0x100 * x :=
  decode_eq_ok_iff_of_mem .ldDtVx 0xF015 0xF0FF (by decide) (by decide)
    (.register x) rfl small

theorem decode_eq_ldStVx_iff
    (x : Fin registerCount) :
    decode word = .ok ⟨.ldStVx, .register (x : Nat)⟩ ↔
      word = 0xF018 + 0x100 * x :=
  decode_eq_ok_iff_of_mem .ldStVx 0xF018 0xF0FF (by decide) (by decide)
    (.register x) rfl small

theorem decode_eq_ldB_iff
    (x : Fin registerCount) :
    decode word = .ok ⟨.ldB, .register (x : Nat)⟩ ↔
      word = 0xF033 + 0x100 * x :=
  decode_eq_ok_iff_of_mem .ldB 0xF033 0xF0FF (by decide) (by decide)
    (.register x) rfl small

theorem decode_eq_ldMemVx_iff
    (x : Fin registerCount) :
    decode word = .ok ⟨.ldMemVx, .register (x : Nat)⟩ ↔
      word = 0xF055 + 0x100 * x :=
  decode_eq_ok_iff_of_mem .ldMemVx 0xF055 0xF0FF (by decide) (by decide)
    (.register x) rfl small

theorem decode_eq_ldVxMem_iff
    (x : Fin registerCount) :
    decode word = .ok ⟨.ldVxMem, .register (x : Nat)⟩ ↔
      word = 0xF065 + 0x100 * x :=
  decode_eq_ok_iff_of_mem .ldVxMem 0xF065 0xF0FF (by decide) (by decide)
    (.register x) rfl small

end Words

end Instruction

end ChipEight
