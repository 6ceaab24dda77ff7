import ChipEight.Proofs.Cycles
import ChipEight.Proofs.Encoding

namespace ChipEight

/-!
# Executing opcodes

What an opcode does is what the instruction does that is decoded from it, on any
machine, whether or not the opcode is the next word of that machine's program. A
cycle executes the next word, after it forgot whether the display was drawn on.
-/

/--
An entry of the table with operands decodes from the pattern and their weight.
-/
theorem Instruction.decode_of_mem
    (operation : Operation)
    (pattern mask : Nat)
    (member : ⟨operation, pattern, mask⟩ ∈ instructionTable)
    (notSys : operation ≠ .sys)
    {operands : Operands operation.format}
    (proper : operands.Proper)
    {weight : Nat}
    (weighs : operands.weight = weight) :
    decode ((pattern + weight : Nat) : Int) = .ok ⟨operation, operands⟩ := by
  rw [Int.natCast_add, ← weighs]
  exact decode_sum member (Operands.inRange_of_proper proper)
    fun isSys => (notSys isSys).elim

namespace Machine

/-- Executing an opcode succeeds and leads to another machine. -/
def Executes
    (machine : Machine)
    (opcode : Nat)
    (next : Machine) :
    Prop :=
  ∃ instruction,
    Instruction.decode opcode = .ok instruction ∧
      (Action.execute instruction.operation instruction.operands).run
          machine =
        .ok () next

variable {machine next : Machine} {opcode : Nat}

section Table

variable
  (operation : Operation)
  (pattern mask : Nat)
  (member : ⟨operation, pattern, mask⟩ ∈ instructionTable)
  (notSys : operation ≠ .sys)
  {operands : Operands operation.format}
  (proper : operands.Proper)
  {weight : Nat}
  (weighs : operands.weight = weight)

include member notSys proper weighs

/-- The opcode of an instruction executes it. -/
theorem executes_of_mem
    (ran : (Action.execute operation operands).run machine = .ok () next) :
    machine.Executes (pattern + weight) next :=
  ⟨⟨operation, operands⟩,
    Instruction.decode_of_mem operation pattern mask member notSys proper
      weighs,
    ran⟩

/-- An opcode of an instruction that fails leads nowhere. -/
theorem not_executes_of_mem
    {fault : Fault}
    {stopped : Machine}
    (failed :
      (Action.execute operation operands).run machine =
        .error fault stopped) :
    ¬ machine.Executes (pattern + weight) next := by
  rintro ⟨instruction, decoded, ran⟩
  have found :=
    Instruction.decode_of_mem operation pattern mask member notSys proper
      weighs
  obtain rfl := Except.ok.inj (found.symm.trans decoded)
  cases failed.symm.trans ran

end Table

/-- An opcode leads to one machine only. -/
theorem Executes.unique
    {other : Machine}
    (executes : machine.Executes opcode next)
    (executesToo : machine.Executes opcode other) :
    next = other := by
  obtain ⟨instruction, decoded, ran⟩ := executes
  obtain ⟨instructionToo, decodedToo, ranToo⟩ := executesToo
  obtain rfl := Except.ok.inj (decoded.symm.trans decodedToo)
  injection ran.symm.trans ranToo

/-- A cycle executes the next word. -/
theorem Executes.run_cycle
    (executes : machine.settled.Executes machine.word next)
    (lower : 0 ≤ machine.programCounter)
    (inside : machine.programCounter < 4095) :
    ∃ executed, Action.cycle.run machine = .ok executed next := by
  obtain ⟨instruction, decoded, ran⟩ := executes
  rw [Action.run_cycle_of_decoded machine lower inside decoded, ran]
  exact ⟨_, rfl⟩

/-- What a cycle leads to, its word leads to. -/
theorem executes_of_run_cycle
    (lower : 0 ≤ machine.programCounter)
    {executed : Executed}
    (ran : Action.cycle.run machine = .ok executed next) :
    machine.settled.Executes machine.word next := by
  rcases Action.stops_or_decodes machine lower with
    ⟨fault, stopped⟩ | ⟨inside, instruction, decoded⟩
  · rw [stopped] at ran
    cases ran
  · rw [Action.run_cycle_of_decoded machine lower inside decoded] at ran
    refine ⟨instruction, decoded, ?_⟩
    cases result :
      (Action.execute instruction.operation instruction.operands).run
        machine.settled with
    | ok _ reached =>
        rw [result] at ran
        injection ran with _ same
        rw [same]
    | error fault stopped =>
        rw [result] at ran
        cases ran

end Machine

end ChipEight
