import ChipEight.Proofs.Failures

namespace ChipEight

/-!
# What a failing cycle leaves

A cycle that fails changes nothing: it only forgets whether the display was
drawn on. So it fails again with the same fault, as often as it is run, and
there is never a line to print. The one exception is storing digits
across the end of memory: the digits that still have a cell are stored before
the cycle fails, and they may even replace the word that it failed at.
-/

namespace Machine

/-- Whether the next instruction stores the digits of a register. -/
def StoresDigits
    (machine : Machine)
    (x : Fin 16) :
    Prop :=
  machine.programCounter < 4095 ∧
    machine.word = 0xF033 + 0x100 * x

end Machine

namespace Action

open Machine

variable {width height : Int} {machine : Machine}

/--
An operation that fails changes nothing, unless it stores digits across the end.
-/
theorem stopped_eq_of_execute
    (bounded : machine.Bounded width height)
    {operation : Operation}
    {operands : Operands operation.format}
    (proper : operands.Proper)
    (notAcross :
      operation = .ldB →
      machine.indexRegister < 4094 ∨ 4095 < machine.indexRegister)
    {fault : Fault}
    {stopped : Machine}
    (failed :
      (execute operation operands).run machine = .error fault stopped) :
    stopped = machine := by
  have outcome := outcome_execute bounded proper
  rw [failed] at outcome
  obtain ⟨-, obstacle⟩ := outcome
  -- Only five operations have an obstacle to fail at.
  cases operation
  case ret =>
    cases proper
    obtain ⟨empty, -⟩ := obstacle
    rw [run_ret_of_empty machine (by omega)] at failed
    cases failed
    rfl
  case call =>
    cases proper
    obtain ⟨full, -⟩ := obstacle
    rw [run_call_of_full machine _ (by simp [full, stackCapacity])] at failed
    cases failed
    rfl
  case ldB =>
    cases proper
    obtain ⟨beyond, -⟩ := obstacle
    have behind : memorySize ≤ machine.indexRegister := by
      have across := notAcross rfl
      simp only [memorySize]
      omega
    rw [run_ldB_of_size_le machine _ behind] at failed
    cases failed
    rfl
  case ldMemVx =>
    cases proper with
    | register x =>
        obtain ⟨refusal, refused, -⟩ :=
          exists_run_ldMemVx_error bounded.indexRegister obstacle.1
        rw [refused] at failed
        cases failed
        rfl
  case ldVxMem =>
    cases proper with
    | register x =>
        obtain ⟨refusal, refused, -⟩ :=
          exists_run_ldVxMem_error bounded.indexRegister obstacle.1
        rw [refused] at failed
        cases failed
        rfl
  all_goals
    cases proper
    exact obstacle.elim

/-- A cycle that fails changes nothing, unless it stores digits across the end. -/
theorem stopped_eq_settled
    (bounded : machine.Bounded width height)
    (notAcross :
      ∀ x,
        machine.StoresDigits x →
        machine.indexRegister < 4094 ∨ 4095 < machine.indexRegister)
    {fault : Fault}
    {stopped : Machine}
    (failed : cycle.run machine = .error fault stopped) :
    stopped = machine.settled := by
  have lower := bounded.programCounter.1
  rcases stops_or_decodes machine lower with
    ⟨refusal, ran⟩ | ⟨inside, ⟨operation, operands⟩, decoded⟩
  · rw [ran] at failed
    cases failed
    rfl
  · have proper :=
      ((Instruction.decode_eq_ok_iff machine.word_lt).mp decoded).1
    have elsewhere :
        operation = .ldB →
        machine.indexRegister < 4094 ∨ 4095 < machine.indexRegister := by
      rintro rfl
      cases proper with
      | register x =>
          have atWord :=
            (Instruction.decode_eq_ldB_iff machine.word_lt x).mp decoded
          exact notAcross x ⟨inside, atWord⟩
    have settled : machine.settled.Bounded width height := bounded.settled
    rw [run_cycle_of_decoded machine lower inside decoded] at failed
    cases ran : (execute operation operands).run machine.settled with
    | ok _ next =>
        simp only [ran] at failed
        cases failed
    | error found halted =>
        simp only [ran] at failed
        cases failed
        exact stopped_eq_of_execute settled proper elsewhere ran

/-- Storing digits at the last cell stores the first one of them and fails. -/
theorem run_cycle_at_last
    (bounded : machine.Bounded width height)
    {x : Fin 16}
    (stores : machine.StoresDigits x)
    (atLast : machine.indexRegister = 4095) :
    cycle.run machine =
      .error .noSuchCell { machine with
        displayChanged := false,
        memory :=
          machine.memory.set ⟨4095, by decide⟩
            ((machine.registers.byte x).toNat / 100) } := by
  obtain ⟨inside, atWord⟩ := stores
  have decoded :=
    (Instruction.decode_eq_ldB_iff machine.word_lt x).mpr atWord
  let last : Fin memorySize := ⟨4095, by decide⟩
  have atHundreds : machine.settled.indexRegister = (last : Nat) := atLast
  have atEnd : machine.settled.indexRegister + 1 = memorySize := by
    rw [atHundreds]
    rfl
  have ran := run_ldB_at_last machine.settled x atHundreds atEnd
  rw [run_cycle_of_decoded machine bounded.programCounter.1 inside decoded]
  simp only [ran]
  rfl

/-- Storing digits at the last cell but one stores two of them and fails. -/
theorem run_cycle_before_last
    (bounded : machine.Bounded width height)
    {x : Fin 16}
    (stores : machine.StoresDigits x)
    (beforeLast : machine.indexRegister = 4094) :
    cycle.run machine =
      .error .noSuchCell { machine with
        displayChanged := false,
        memory :=
          (machine.memory.set ⟨4094, by decide⟩
            ((machine.registers.byte x).toNat / 100)).set ⟨4095, by decide⟩
              ((machine.registers.byte x).toNat / 10 % 10) } := by
  obtain ⟨inside, atWord⟩ := stores
  have decoded :=
    (Instruction.decode_eq_ldB_iff machine.word_lt x).mpr atWord
  let hundreds : Fin memorySize := ⟨4094, by decide⟩
  let tens : Fin memorySize := ⟨4095, by decide⟩
  have atHundreds : machine.settled.indexRegister = (hundreds : Nat) :=
    beforeLast
  have atTens : machine.settled.indexRegister + 1 = (tens : Nat) := by
    rw [atHundreds]
    rfl
  have atEnd : machine.settled.indexRegister + 2 = memorySize := by
    rw [atHundreds]
    rfl
  have ran :=
    run_ldB_before_last machine.settled x atHundreds atTens atEnd
  rw [run_cycle_of_decoded machine bounded.programCounter.1 inside decoded]
  simp only [ran]
  rfl

/-- A cycle does not depend on whether the display was drawn on before. -/
theorem run_cycle_settled
    (machine : Machine) :
    cycle.run machine.settled = cycle.run machine :=
  rfl

end Action

namespace Machine

variable {machine : Machine} {fault : Fault}

/-- A machine that a failing cycle leaves alone stays as it is for ever. -/
theorem afterAll_cycles_of_stuck
    (stuck : Action.cycle.run machine = .error fault machine)
    (count : Nat) :
    machine.afterAll (List.replicate count .cycle) = machine := by
  induction count with
  | zero => rfl
  | succ count inductionHypothesis =>
      have afterCycle : machine.after .cycle = machine := by
        rw [after, stuck, machineOf]
      rw [List.replicate_succ, afterAll_cons, afterCycle]
      exact inductionHypothesis

/--
A cycle that leaves a machine alone when it fails, fails the same way
every time.
-/
theorem fails_again
    (failed : Action.cycle.run machine = .error fault machine.settled)
    (count : Nat) :
    Action.cycle.run (machine.afterAll (List.replicate count .cycle)) =
      .error fault machine.settled := by
  cases count with
  | zero => exact failed
  | succ count =>
      have stuck :
          Action.cycle.run machine.settled = .error fault machine.settled :=
        (Action.run_cycle_settled machine).trans failed
      have afterCycle : machine.after .cycle = machine.settled := by
        rw [after, failed, machineOf]
      rw [List.replicate_succ, afterAll_cons, afterCycle,
        afterAll_cycles_of_stuck stuck]
      exact stuck

/--
A cycle that fails changes nothing, and fails again as often as it is run.

Only the mark that the display was drawn on is taken away, and no line is left
to print. The exception is storing digits at the last cell of memory or
at the one before it, which stores the first one or the first two digits.
-/
theorem failing_cycle_changes_nothing
    (width height : Int)
    (wide : 1 ≤ width)
    (tall : 1 ≤ height)
    (random : RandomTape)
    (moves : List Move) :
    let machine := (fresh (Display.blank width height) random).afterAll moves
    ∀ fault stopped,
      Action.cycle.run machine = .error fault stopped →
      (∀ tracing count,
        traceLines tracing (machine.runCycles (count + 1)).executed = []) ∧
      (∀ x,
        machine.StoresDigits x →
        machine.indexRegister = 4095 →
        stopped =
          { machine with
            displayChanged := false,
            memory :=
              machine.memory.set ⟨4095, by decide⟩
                ((machine.registers.byte x).toNat / 100) }) ∧
      (∀ x,
        machine.StoresDigits x →
        machine.indexRegister = 4094 →
        stopped =
          { machine with
            displayChanged := false,
            memory :=
              (machine.memory.set ⟨4094, by decide⟩
                ((machine.registers.byte x).toNat / 100)).set ⟨4095, by decide⟩
                  ((machine.registers.byte x).toNat / 10 % 10) }) ∧
      ((∀ x,
          machine.StoresDigits x →
          machine.indexRegister < 4094 ∨ 4095 < machine.indexRegister) →
        stopped = { machine with displayChanged := false } ∧
          ∀ count,
            Action.cycle.run
                (machine.afterAll (List.replicate count .cycle)) =
              .error fault { machine with displayChanged := false }) := by
  intro machine fault stopped failed
  have bounded : machine.Bounded width height :=
    (Bounded.fresh wide tall random).afterAll moves
  refine ⟨?silent, ?oneDigit, ?twoDigits, ?nothing⟩
  case silent =>
    intro tracing count
    have noneExecuted : (machine.runCycles (count + 1)).executed = [] := by
      simp only [runCycles, failed]
    rw [noneExecuted]
    cases tracing <;> rfl
  case oneDigit =>
    intro x stores atLast
    rw [Action.run_cycle_at_last bounded stores atLast] at failed
    cases failed
    rfl
  case twoDigits =>
    intro x stores beforeLast
    rw [Action.run_cycle_before_last bounded stores beforeLast] at failed
    cases failed
    rfl
  case nothing =>
    intro notAcross
    obtain rfl := Action.stopped_eq_settled bounded notAcross failed
    exact ⟨rfl, fails_again failed⟩

/-- A program that jumps to the last cell fails there for ever. -/
theorem failing_cycle_changes_nothing_at_last_cell :
    let machine :=
      (fresh (Display.blank 64 32) (RandomTape.start [])).afterAll
        [.load [0x1F, 0xFF], .cycle]
    (1 : Int) ≤ 64 ∧ (1 : Int) ≤ 32 ∧
      Action.cycle.run machine = .error .noSuchCell machine.settled ∧
      ∀ count,
        Action.cycle.run (machine.afterAll (List.replicate count .cycle)) =
          .error .noSuchCell machine.settled := by
  have wide : (1 : Int) ≤ 64 := by decide
  have tall : (1 : Int) ≤ 32 := by decide
  have atLast :=
    programCounter_after_load_jump
      (fresh (Display.blank 64 32) (RandomTape.start [])) rfl 0x1F 0xFF
      ⟨0xFFF, by decide⟩ rfl
  have failed := Action.run_cycle_of_atLast atLast
  obtain ⟨-, -, -, nothing⟩ :=
    failing_cycle_changes_nothing 64 32 wide tall (RandomTape.start [])
      [.load [0x1F, 0xFF], .cycle] _ _ failed
  obtain ⟨-, again⟩ := nothing (by
    rintro x ⟨inside, -⟩
    rw [atLast] at inside
    exact absurd inside (by decide))
  exact ⟨wide, tall, failed, again⟩

end Machine

end ChipEight
