import ChipEight.Proofs.Histories
import Mathlib.Data.Set.Defs

namespace ChipEight

/-!
# What a cycle cannot see

Five things reach a program from outside: the two timers, the keypad, what is
on the display and the random numbers. Each of them is read by a few operations
only. So two machines that agree on everything but some of these inputs do the
same in a cycle that reads none of them: the same instruction is executed or
the same fault is met, and the machines agree as before.
-/

/-- What reaches a program from outside. -/
inductive Input where
  | delayTimer
  | soundTimer
  | keypad
  | display
  | random

/-- The operations that read an input. -/
def Input.readers : Input → List Operation
  | .delayTimer => [.ldVxDt]
  | .soundTimer => []
  | .keypad => [.skp, .sknp, .ldVxK]
  | .display => [.drw]
  | .random => [.rnd]

/-- Whether an operation reads none of some inputs. -/
def Operation.Ignores
    (operation : Operation)
    (hidden : Set Input) :
    Prop :=
  ∀ input ∈ hidden, operation ∉ input.readers

namespace RandomTape

/-- The number that is taken after a count of others. -/
def ahead
    (tape : RandomTape)
    (count : Nat) :
    Int :=
  { tape with taken := tape.taken + count }.head

theorem ahead_advanced
    (tape : RandomTape)
    (count : Nat) :
    tape.advanced.ahead count = tape.ahead (1 + count) := by
  simp only [ahead, advanced, Nat.add_assoc]

end RandomTape

namespace Machine

/--
Whether two machines agree on everything but some inputs.

Random numbers agree when all those still to come do.
-/
structure AgreesOff
    (hidden : Set Input)
    (first second : Machine) : Prop where
  memory :
    first.memory = second.memory
  registers :
    first.registers = second.registers
  stack :
    first.stack = second.stack
  stackTop :
    first.stackTop = second.stackTop
  programCounter :
    first.programCounter = second.programCounter
  indexRegister :
    first.indexRegister = second.indexRegister
  displayChanged :
    first.displayChanged = second.displayChanged
  delayTimer :
    .delayTimer ∉ hidden →
    first.delayTimer = second.delayTimer
  soundTimer :
    .soundTimer ∉ hidden →
    first.soundTimer = second.soundTimer
  keypad :
    .keypad ∉ hidden →
    first.keypad = second.keypad
  display :
    .display ∉ hidden →
    first.display = second.display
  random :
    .random ∉ hidden →
    ∀ count, first.random.ahead count = second.random.ahead count

/--
Whether two runs end alike: with one value or one fault, on machines that agree.
-/
inductive EndsAlike
    (hidden : Set Input)
    {α : Type} :
    EStateM.Result Fault Machine α →
    EStateM.Result Fault Machine α →
    Prop where
  | ok
      (value : α)
      {first second : Machine}
      (agrees : AgreesOff hidden first second) :
      EndsAlike hidden (.ok value first) (.ok value second)
  | error
      (fault : Fault)
      {first second : Machine}
      (agrees : AgreesOff hidden first second) :
      EndsAlike hidden (.error fault first) (.error fault second)

variable {hidden : Set Input} {first second : Machine}

/-- What an instruction did is recorded alike when it ended alike. -/
theorem EndsAlike.record
    (executed : Executed)
    {firstResult secondResult : EStateM.Result Fault Machine Unit} :
    EndsAlike hidden firstResult secondResult →
    EndsAlike hidden
      (match firstResult with
      | .ok _ next => .ok executed next
      | .error fault stopped => .error fault stopped)
      (match secondResult with
      | .ok _ next => .ok executed next
      | .error fault stopped => .error fault stopped)
  | .ok _ agrees => .ok executed agrees
  | .error fault agrees => .error fault agrees

/-- An operation that may meet an obstacle reads no input. -/
theorem Obstacle.ignores
    {machine : Machine}
    {fault : Fault}
    {operation : Operation}
    {operands : Operands operation.format}
    (meets : machine.Obstacle fault operation operands)
    (hidden : Set Input) :
    operation.Ignores hidden := by
  intro input _ reads
  have readers : input.readers ⊆ [.ldVxDt, .skp, .sknp, .ldVxK, .drw, .rnd] := by
    cases input <;> simp [Input.readers]
  have isReader := readers reads
  simp only [List.mem_cons, List.not_mem_nil, or_false] at isReader
  rcases isReader with rfl | rfl | rfl | rfl | rfl | rfl <;>
    cases operands <;> exact meets

namespace AgreesOff

theorem refl
    (hidden : Set Input)
    (machine : Machine) :
    AgreesOff hidden machine machine := by
  constructor <;> intros <;> rfl

theorem settled
    (agrees : AgreesOff hidden first second) :
    AgreesOff hidden first.settled second.settled :=
  { agrees with displayChanged := rfl }

/-- Machines that agree are at the same word. -/
theorem word
    (agrees : AgreesOff hidden first second) :
    first.word = second.word := by
  simp only [Machine.word, byteAt, agrees.memory, agrees.programCounter]

end AgreesOff

end Machine

namespace Action

open Machine

variable
  {width height : Int}
  {hidden : Set Input}
  {first second : Machine}

theorem endsAlike_ret
    (bounded : first.Bounded width height)
    (agrees : AgreesOff hidden first second) :
    EndsAlike hidden
      ((execute .ret .bare).run first)
      ((execute .ret .bare).run second) := by
  have sameTop := agrees.stackTop
  rcases bounded.empty_or_top with empty | ⟨place, top⟩
  · rw [run_ret_of_empty first (by omega), run_ret_of_empty second (by omega)]
    exact .error _ agrees
  · rw [run_ret first top, run_ret second (sameTop ▸ top)]
    exact .ok _
      { agrees with
        programCounter := by simp only [agrees.stack]
        stackTop := rfl }

theorem endsAlike_call
    (bounded : first.Bounded width height)
    (agrees : AgreesOff hidden first second)
    (nnn : Int) :
    EndsAlike hidden
      ((execute .call (.address nnn)).run first)
      ((execute .call (.address nnn)).run second) := by
  have sameTop := agrees.stackTop
  rcases bounded.full_or_free with full | ⟨place, free⟩
  · have noRoom : (stackCapacity : Int) ≤ first.stackTop + 1 := by
      rw [full]
      decide
    rw [run_call_of_full first nnn noRoom,
      run_call_of_full second nnn (sameTop ▸ noRoom)]
    exact .error _ agrees
  · rw [run_call first nnn free, run_call second nnn (sameTop ▸ free)]
    exact .ok _
      { agrees with
        stack := by simp only [agrees.stack, agrees.programCounter]
        stackTop := rfl
        programCounter := rfl }

/-- A sprite is drawn alike on displays that are the same. -/
theorem endsAlike_drw
    (bounded : first.Bounded width height)
    (agrees : AgreesOff hidden first second)
    (visible : .display ∉ hidden)
    (x y : Fin registerCount)
    (n : Nat) :
    EndsAlike hidden
      ((execute .drw (.sprite (x : Nat) (y : Nat) n)).run first)
      ((execute .drw (.sprite (x : Nat) (y : Nat) n)).run second) := by
  have ⟨sameWidth, sameHeight⟩ := bounded.display
  have ⟨wide, tall⟩ := bounded.visible
  have lower := bounded.indexRegister
  obtain ⟨drawn, erased, drawing, -⟩ :=
    first.display.struck_draw (by omega) (by omega) (indexedBytes first n)
      (first.registers.byte x).toNat (first.registers.byte y).toNat
  rw [run_drw first x y n lower drawing]
  simp only [indexedBytes, agrees.display visible, agrees.memory,
    agrees.registers, agrees.indexRegister] at drawing lower
  rw [run_drw second x y n lower drawing]
  exact .ok _
    { agrees with
      display := fun _ => rfl
      registers := by simp only [agrees.registers]
      displayChanged := rfl
      programCounter := by simp only [agrees.programCounter] }

/-- Digits are stored alike, also where the end of memory cuts them off. -/
theorem endsAlike_ldB
    (bounded : first.Bounded width height)
    (agrees : AgreesOff hidden first second)
    (x : Fin registerCount) :
    EndsAlike hidden
      ((execute .ldB (.register (x : Nat))).run first)
      ((execute .ldB (.register (x : Nat))).run second) := by
  have sameIndex := agrees.indexRegister
  cases digitCells bounded.indexRegister with
  | inside hundreds tens units atHundreds atTens atUnits =>
      rw [run_ldB first x atHundreds atTens atUnits,
        run_ldB second x (sameIndex ▸ atHundreds) (sameIndex ▸ atTens)
          (sameIndex ▸ atUnits)]
      exact .ok _
        { agrees with
          memory := by simp only [agrees.memory, agrees.registers]
          programCounter := by simp only [agrees.programCounter] }
  | beforeLast hundreds tens atHundreds atTens last =>
      rw [run_ldB_before_last first x atHundreds atTens last,
        run_ldB_before_last second x (sameIndex ▸ atHundreds)
          (sameIndex ▸ atTens) (sameIndex ▸ last)]
      exact .error _
        { agrees with
          memory := by simp only [agrees.memory, agrees.registers] }
  | atLast hundreds atHundreds last =>
      rw [run_ldB_at_last first x atHundreds last,
        run_ldB_at_last second x (sameIndex ▸ atHundreds) (sameIndex ▸ last)]
      exact .error _
        { agrees with
          memory := by simp only [agrees.memory, agrees.registers] }
  | behind outside =>
      rw [run_ldB_of_size_le first x outside,
        run_ldB_of_size_le second x (sameIndex ▸ outside), sameIndex]
      exact .error _ agrees

/-- A block of registers is stored alike, or refused alike. -/
theorem endsAlike_ldMemVx
    (agrees : AgreesOff hidden first second)
    (x : Fin registerCount) :
    EndsAlike hidden
      ((execute .ldMemVx (.register (x : Nat))).run first)
      ((execute .ldMemVx (.register (x : Nat))).run second) := by
  have sameValues :
      firstRegisters first (x + 1) = firstRegisters second (x + 1) := by
    simp only [firstRegisters, agrees.registers]
  cases stored :
      first.memory.writeSpan
        (.between first.indexRegister (first.indexRegister + x + 1))
        (firstRegisters first (x + 1)) with
  | error fault =>
      rw [run_ldMemVx_error first x stored]
      rw [agrees.memory, agrees.indexRegister, sameValues] at stored
      rw [run_ldMemVx_error second x stored]
      exact .error _ agrees
  | ok written =>
      rw [run_ldMemVx first x stored]
      rw [agrees.memory, agrees.indexRegister, sameValues] at stored
      rw [run_ldMemVx second x stored]
      exact .ok _
        { agrees with
          memory := rfl
          programCounter := by simp only [agrees.programCounter] }

/-- A block of registers is loaded alike, or refused alike. -/
theorem endsAlike_ldVxMem
    (bounded : first.Bounded width height)
    (agrees : AgreesOff hidden first second)
    (x : Fin registerCount) :
    EndsAlike hidden
      ((execute .ldVxMem (.register (x : Nat))).run first)
      ((execute .ldVxMem (.register (x : Nat))).run second) := by
  have lower := bounded.indexRegister
  have lowerToo : 0 ≤ second.indexRegister := agrees.indexRegister ▸ lower
  have sameValues : indexedBytes first (x + 1) = indexedBytes second (x + 1) := by
    simp only [indexedBytes, agrees.memory, agrees.indexRegister]
  cases loaded :
      first.registers.writeSpan (.before ((x : Nat) + 1))
        (indexedBytes first (x + 1)) with
  | error fault =>
      rw [run_ldVxMem_error first x lower loaded]
      rw [agrees.registers, sameValues] at loaded
      rw [run_ldVxMem_error second x lowerToo loaded]
      exact .error _ agrees
  | ok written =>
      rw [run_ldVxMem first x lower loaded]
      rw [agrees.registers, sameValues] at loaded
      rw [run_ldVxMem second x lowerToo loaded]
      exact .ok _
        { agrees with
          registers := rfl
          programCounter := by simp only [agrees.programCounter] }

/--
An operation that reads none of the hidden inputs ends alike on machines
that agree.
-/
theorem endsAlike_execute
    (bounded : first.Bounded width height)
    (agrees : AgreesOff hidden first second)
    {operation : Operation}
    {operands : Operands operation.format}
    (proper : operands.Proper)
    (ignores : operation.Ignores hidden) :
    EndsAlike hidden
      ((execute operation operands).run first)
      ((execute operation operands).run second) := by
  -- An input that the operation reads is not hidden.
  have visible
      {input : Input}
      (reads : operation ∈ input.readers) :
      input ∉ hidden :=
    fun member => ignores input member reads
  have sameRegisters := agrees.registers
  have sameCounter := agrees.programCounter
  cases operation
  case ret =>
    cases proper
    exact endsAlike_ret bounded agrees
  case call =>
    cases proper
    exact endsAlike_call bounded agrees _
  case drw =>
    cases proper
    exact endsAlike_drw bounded agrees (visible (by decide)) _ _ _
  case ldB =>
    cases proper
    exact endsAlike_ldB bounded agrees _
  case ldMemVx =>
    cases proper
    exact endsAlike_ldMemVx agrees _
  case ldVxMem =>
    cases proper
    exact endsAlike_ldVxMem bounded agrees _
  case sys | jp | jpV0 | se | sne | seReg | sneReg =>
    cases proper
    simp only [run_sys, run_jp, run_jpV0, run_se, run_sne, run_seReg,
      run_sneReg]
    exact .ok _
      { agrees with
        programCounter := by simp only [sameRegisters, sameCounter] }
  case ld | add | ldReg | or | and | xor | addReg | sub | shr | subn | shl =>
    cases proper
    simp only [run_ld, run_add, run_ldReg, run_or, run_and, run_xor,
      run_addReg, run_sub, run_shr, run_subn, run_shl, run_writeFlagged]
    exact .ok _
      { agrees with
        registers := by simp only [sameRegisters]
        programCounter := by simp only [sameCounter] }
  case skp | sknp =>
    cases proper
    have sameKeypad := agrees.keypad (visible (by decide))
    simp only [run_skp, run_sknp]
    exact .ok _
      { agrees with
        programCounter := by
          simp only [sameRegisters, sameCounter, sameKeypad] }
  case ldVxK =>
    cases proper
    have sameKeypad := agrees.keypad (visible (by decide))
    simp only [run_ldVxK, ← sameKeypad]
    split
    · exact .ok _
        { agrees with
          registers := by simp only [sameRegisters]
          programCounter := by simp only [sameCounter]
          keypad := fun _ => rfl }
    · exact .ok _ agrees
  case ldVxDt =>
    cases proper
    have sameTimer := agrees.delayTimer (visible (by decide))
    simp only [run_ldVxDt]
    exact .ok _
      { agrees with
        registers := by simp only [sameRegisters, sameTimer]
        programCounter := by simp only [sameCounter] }
  case rnd =>
    cases proper
    have sameNumbers := agrees.random (visible (by decide))
    have sameHead : first.random.head = second.random.head := sameNumbers 0
    simp only [run_rnd]
    exact .ok _
      { agrees with
        registers := by simp only [sameRegisters, sameHead]
        programCounter := by simp only [sameCounter]
        random := fun _ count => by
          simp only [RandomTape.ahead_advanced, sameNumbers] }
  case cls =>
    cases proper
    simp only [run_cls]
    exact .ok _
      { agrees with
        displayChanged := rfl
        display := fun visible => by simp only [agrees.display visible]
        programCounter := by simp only [sameCounter] }
  case ldI | addI | ldF =>
    cases proper
    simp only [run_ldI, run_addI, run_ldF]
    exact .ok _
      { agrees with
        indexRegister := by simp only [sameRegisters, agrees.indexRegister]
        programCounter := by simp only [sameCounter] }
  case ldDtVx =>
    cases proper
    simp only [run_ldDtVx]
    exact .ok _
      { agrees with
        delayTimer := fun _ => by simp only [sameRegisters]
        programCounter := by simp only [sameCounter] }
  case ldStVx =>
    cases proper
    simp only [run_ldStVx]
    exact .ok _
      { agrees with
        soundTimer := fun _ => by simp only [sameRegisters]
        programCounter := by simp only [sameCounter] }

/--
A cycle ends alike on machines that agree.

The instruction that it executes, if there is one, must read none of the hidden
inputs.
-/
theorem endsAlike_cycle
    (bounded : first.Bounded width height)
    (agrees : AgreesOff hidden first second)
    (ignores :
      ∀ executed next,
        cycle.run first = .ok executed next →
        executed.instruction.operation.Ignores hidden) :
    EndsAlike hidden (cycle.run first) (cycle.run second) := by
  have lower := bounded.programCounter.1
  have lowerToo : 0 ≤ second.programCounter := agrees.programCounter ▸ lower
  by_cases inside : first.programCounter < 4095
  · have insideToo : second.programCounter < 4095 :=
      agrees.programCounter ▸ inside
    cases decoded : Instruction.decode first.word with
    | error fault =>
        rw [run_cycle_of_unknown first lower inside decoded,
          run_cycle_of_unknown second lowerToo insideToo
            (agrees.word ▸ decoded)]
        exact .error _ agrees.settled
    | ok instruction =>
        have proper :=
          ((Instruction.decode_eq_ok_iff first.word_lt).mp decoded).1
        have ignoresHere : instruction.operation.Ignores hidden := by
          rcases outcome_cycle bounded inside decoded with
            ⟨next, ran, -, -⟩ | ⟨fault, stopped, -, -, meets⟩
          · exact ignores _ next ran
          · exact meets.ignores hidden
        have alike :=
          endsAlike_execute bounded.settled agrees.settled proper ignoresHere
        rw [run_cycle_of_decoded first lower inside decoded,
          run_cycle_of_decoded second lowerToo insideToo
            (agrees.word ▸ decoded),
          agrees.programCounter]
        exact .record _ alike
  · have behind := Int.not_lt.mp inside
    rw [run_cycle_of_le first behind,
      run_cycle_of_le second (agrees.programCounter ▸ behind),
      agrees.programCounter]
    exact .error _ agrees.settled

end Action

end ChipEight
