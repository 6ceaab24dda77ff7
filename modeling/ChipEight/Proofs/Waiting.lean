import ChipEight.Proofs.KeypadMoves
import ChipEight.Proofs.RegisterArithmetic

namespace ChipEight

/-!
# Waiting for a key

A machine whose next word waits for a key stays where it is while no key is
held: a cycle executes the same word again and nothing but the timers goes on.
Once a key is held the next cycle ends the wait. What it loads is the key that
was pressed last, which need not be among those that are held.
-/

namespace Keypad

/-- No key of the keypad is held. -/
def IsFree
    (keypad : Keypad) :
    Prop :=
  ∀ key : Fin 16, keypad.isHeld key = false

theorem Bounded.isFree_iff
    {keypad : Keypad}
    (bounded : keypad.Bounded) :
    keypad.IsFree ↔ keypad.anyHeld = false := by
  rw [anyHeld, decide_eq_false_iff_not, Ne, not_not]
  constructor
  · intro isFree
    obtain ⟨bits, isBits⟩ := Int.eq_ofNat_of_zero_le bounded.held.1
    have noBit (place : Nat) : bits.testBit place = false := by
      rw [← isHeld_of_held_eq isBits]
      by_cases inside : place < 16
      · exact isFree ⟨place, inside⟩
      · exact not_isHeld_of_le bounded (Nat.not_lt.mp inside)
    rw [isBits, Nat.zero_of_testBit_eq_false noBit]
    rfl
  · intro noneHeld key
    rw [isHeld_of_held_eq (noneHeld.trans Int.natCast_zero.symm),
      Nat.zero_testBit]

end Keypad

/--
Moves without a load or a cycle, which let go every key again that they press.
-/
structure Move.AreTaps (moves : List Move) : Prop where
  noLoad :
    ∀ program, Move.load program ∉ moves
  noCycle :
    Move.cycle ∉ moves
  letsGo :
    ∀ earlier key rest,
      moves = earlier ++ .press key :: rest →
      .release key ∈ rest

/-- Machines with one memory and one program counter fetch the same word. -/
theorem Action.run_fetch_congr
    {machine other : Machine}
    {opcode : Int}
    (fetched : fetch.run machine = .ok opcode machine)
    (sameMemory : other.memory = machine.memory)
    (sameCounter : other.programCounter = machine.programCounter) :
    fetch.run other = .ok opcode other := by
  cases high : machine.memory.read machine.programCounter with
  | error fault => simp [-bind_pure_comp, fetch, readByte, high] at fetched
  | ok highByte =>
      cases low : machine.memory.read (machine.programCounter + 1) with
      | error fault =>
          simp [-bind_pure_comp, fetch, readByte, high, low] at fetched
      | ok lowByte =>
          simp only [fetch, readByte, EStateM.run_bind, EStateM.run_get,
            EStateM.run_pure, sameMemory, sameCounter, high, low,
            run_attempt_ok, EStateM.Result.ok.injEq, and_true] at fetched ⊢
          exact fetched

namespace Machine

/-- Nothing of a machine differs but its timers, its keypad and whether it drew. -/
structure Rests
    (before after : Machine) : Prop where
  memory : after.memory = before.memory
  registers : after.registers = before.registers
  stack : after.stack = before.stack
  stackTop : after.stackTop = before.stackTop
  programCounter : after.programCounter = before.programCounter
  indexRegister : after.indexRegister = before.indexRegister
  display : after.display = before.display
  random : after.random = before.random

/-- Whether the next word of a machine waits for a key to load into a register. -/
def Waits
    (machine : Machine)
    (x : Fin registerCount) :
    Prop :=
  Action.fetch.run machine = .ok (0xF00A + 0x100 * (x : Nat)) machine

/-- Every cycle among some moves is run while no key is held. -/
def CyclesFree
    (machine : Machine)
    (moves : List Move) :
    Prop :=
  ∀ earlier rest,
    moves = earlier ++ .cycle :: rest →
    (machine.afterAll earlier).keypad.IsFree

namespace Rests

variable {machine reached : Machine}

theorem refl
    (machine : Machine) :
    machine.Rests machine :=
  ⟨rfl, rfl, rfl, rfl, rfl, rfl, rfl, rfl⟩

theorem settled
    (rests : machine.Rests reached) :
    machine.Rests reached.settled :=
  { rests with }

/-- Ticks and keys do not rouse a machine that rests. -/
theorem after
    (rests : machine.Rests reached)
    {move : Move}
    (notLoad : ∀ program, move ≠ .load program)
    (notCycle : move ≠ .cycle) :
    machine.Rests (reached.after move) := by
  cases move with
  | load program => exact absurd rfl (notLoad program)
  | cycle => exact absurd rfl notCycle
  | tick => exact { rests with }
  | press key => exact { rests with }
  | release key => exact { rests with }

theorem afterAll
    (rests : machine.Rests reached)
    {moves : List Move}
    (noLoad : ∀ program, Move.load program ∉ moves)
    (noCycle : Move.cycle ∉ moves) :
    machine.Rests (reached.afterAll moves) := by
  induction moves generalizing reached with
  | nil => exact rests
  | cons move rest inductionHypothesis =>
      have next : machine.Rests (reached.after move) := by
        refine rests.after ?_ ?_
        · rintro program rfl
          exact noLoad program List.mem_cons_self
        · rintro rfl
          exact noCycle List.mem_cons_self
      exact inductionHypothesis next
        (fun program member =>
          noLoad program (List.mem_cons_of_mem move member))
        (fun member => noCycle (List.mem_cons_of_mem move member))

theorem waits
    (rests : machine.Rests reached)
    {x : Fin registerCount}
    (waits : machine.Waits x) :
    reached.Waits x :=
  Action.run_fetch_congr waits rests.memory rests.programCounter

end Rests

namespace Waits

variable {machine : Machine} {x : Fin registerCount}

/-- A cycle loads the key pressed last while any is held, and does nothing else. -/
theorem run_cycle
    (waits : machine.Waits x) :
    ∃ executed,
      Action.cycle.run machine =
        .ok executed
          (if machine.keypad.anyHeld then
            machine.settled.withRegisters
              (machine.registers.set x machine.keypad.lastPressed)
          else
            machine.settled) := by
  have decoded :
      Instruction.decode (0xF00A + 0x100 * (x : Nat)) =
        .ok ⟨.ldVxK, .register (x : Nat)⟩ :=
    Instruction.decode_of_mem .ldVxK 0xF00A 0xF0FF (by decide) (by decide)
      (.register x) rfl
  have fetched : machine.settled.Waits x :=
    (Rests.refl machine).settled.waits waits
  rw [Action.run_cycle_of_fetched machine fetched decoded, Action.run_ldVxK]
  exact ⟨_, rfl⟩

theorem run_cycle_of_isFree
    (waits : machine.Waits x)
    (bounded : machine.keypad.Bounded)
    (isFree : machine.keypad.IsFree) :
    ∃ executed, Action.cycle.run machine = .ok executed machine.settled := by
  have noneHeld := bounded.isFree_iff.mp isFree
  simpa only [noneHeld, Bool.false_eq_true, ↓reduceIte] using waits.run_cycle

/--
A machine that waits rests as long as its cycles find no key held, and
no cycle fails.
-/
theorem rests_afterAll
    (waits : machine.Waits x)
    (bounded : machine.keypad.Bounded)
    {later : List Move}
    (noLoad : ∀ program, Move.load program ∉ later)
    (cyclesFree : machine.CyclesFree later) :
    machine.Rests (machine.afterAll later) ∧
      ∀ result ∈ machine.cycleResults later,
        ∃ executed next, result = .ok executed next := by
  induction later using List.reverseRecOn with
  | nil => exact ⟨Rests.refl machine, by simp [cycleResults]⟩
  | append_singleton later move inductionHypothesis =>
      have notLoad (program : List UInt8) : move ≠ .load program := by
        rintro rfl
        exact noLoad program (by simp)
      obtain ⟨rests, succeeded⟩ :=
        inductionHypothesis
          (fun program member =>
            noLoad program (List.mem_append_left _ member))
          (fun earlier rest shape =>
            cyclesFree earlier (rest ++ [move]) (by simp [shape]))
      rw [afterAll_append, afterAll_cons, afterAll_nil, cycleResults_append]
      by_cases isCycle : move = .cycle
      · subst isCycle
        obtain ⟨executed, ran⟩ :=
          (rests.waits waits).run_cycle_of_isFree
            (keypadBounded_afterAll bounded later)
            (cyclesFree later [] rfl)
        refine ⟨?_, ?_⟩
        · rw [after, ran]
          exact rests.settled
        · intro result member
          rcases List.mem_append.mp member with before | last
          · exact succeeded result before
          · rw [cycleResults, ran] at last
            obtain rfl := List.mem_singleton.mp last
            exact ⟨executed, _, rfl⟩
      · have noResult : (machine.afterAll later).cycleResults [move] = [] := by
          cases move with
          | load program => rfl
          | cycle => exact absurd rfl isCycle
          | tick => rfl
          | press key => rfl
          | release key => rfl
        rw [noResult, List.append_nil]
        exact ⟨rests.after notLoad isCycle, succeeded⟩

end Waits

/-- After keys were only tapped no key is held if none was before. -/
theorem isFree_of_areTaps
    {machine : Machine}
    (bounded : machine.keypad.Bounded)
    (isFree : machine.keypad.IsFree)
    {moves : List Move}
    (areTaps : Move.AreTaps moves) :
    (machine.afterAll moves).keypad.IsFree := by
  intro key
  by_contra notFree
  rcases held_or_pressed_of_isHeld bounded
    (Bool.eq_true_of_not_eq_false notFree) with
    isHeld | ⟨earlier, rest, shape, notReleased⟩
  · rw [isFree key] at isHeld
    cases isHeld
  · exact notReleased (areTaps.letsGo earlier key rest shape)

/--
Waiting for a key ends with the key that was pressed last in the whole history.

The machine may have got anywhere by any history, and ticks, keys and cycles go
on. As long as every cycle finds no key held, nothing changes but the timers and
the keypad, and no cycle fails; keys that are only tapped between two cycles do
not change that. The first cycle that finds a key held loads the key of the last
press, whether it came before the wait and whether it was let go since, and goes
on to the next instruction.
-/
theorem wait_ends_with_last_press
    (display : Display)
    (random : RandomTape)
    (moves later : List Move)
    (x : Fin registerCount) :
    let machine := (fresh display random).afterAll moves
    let reached := machine.afterAll later
    machine.Waits x →
    (∀ program, Move.load program ∉ later) →
    machine.CyclesFree later →
    machine.Rests reached ∧
    (∀ result ∈ machine.cycleResults later,
      ∃ executed next, result = .ok executed next) ∧
    (¬ reached.keypad.IsFree →
      ∃ key : Fin 16,
        ((moves ++ later).filterMap Move.pressed?).getLast? = some key ∧
          ∃ executed next,
            Action.cycle.run reached = .ok executed next ∧
              next.programCounter = machine.programCounter + 2 ∧
              machine.registers.Loaded next.registers x (key : Nat) ∧
              next = reached.settled.withRegisters next.registers) ∧
    (reached.keypad.IsFree →
      ∀ taps,
        Move.AreTaps taps →
        ∃ executed next,
          Action.cycle.run (reached.afterAll taps) = .ok executed next ∧
            machine.Rests next) := by
  intro machine reached waits noLoad cyclesFree
  have bounded : machine.keypad.Bounded :=
    keypadBounded_afterAll Keypad.Bounded.untouched moves
  have boundedReached : reached.keypad.Bounded :=
    keypadBounded_afterAll bounded later
  obtain ⟨rests, succeeded⟩ :=
    waits.rests_afterAll bounded noLoad cyclesFree
  have waitsReached : reached.Waits x := rests.waits waits
  refine ⟨rests, succeeded, ?held, ?tapped⟩
  case held =>
    intro notFree
    have anyHeld : reached.keypad.anyHeld = true := by
      rw [boundedReached.isFree_iff, Bool.not_eq_false] at notFree
      exact notFree
    obtain ⟨executed, ran⟩ := waitsReached.run_cycle
    rw [if_pos anyHeld] at ran
    have fromFresh :
        reached = (fresh display random).afterAll (moves ++ later) :=
      (afterAll_append (fresh display random) moves later).symm
    rw [fromFresh] at anyHeld
    obtain ⟨key, lastPress, isKey⟩ :=
      exists_lastPressed_of_anyHeld display random (moves ++ later) anyHeld
    rw [← fromFresh] at isKey
    have loaded := machine.registers.loaded_set x reached.keypad.lastPressed
    have isByte : ((key : Nat) : Int) % 256 = (key : Nat) := by
      omega
    rw [isKey, isByte] at loaded
    rw [isKey, rests.registers] at ran
    refine ⟨key, lastPress, executed, _, ran, ?_, loaded, rfl⟩
    exact congrArg (· + 2) rests.programCounter
  case tapped =>
    intro isFree taps areTaps
    have stillFree := isFree_of_areTaps boundedReached isFree areTaps
    have boundedTapped := keypadBounded_afterAll boundedReached taps
    have stillRests : machine.Rests (reached.afterAll taps) :=
      rests.afterAll areTaps.noLoad areTaps.noCycle
    obtain ⟨executed, ran⟩ :=
      (stillRests.waits waits).run_cycle_of_isFree boundedTapped stillFree
    exact ⟨executed, _, ran, stillRests.settled⟩

/--
A tapped key does not end the wait; of two others the one pressed last
is loaded.
-/
theorem wait_ends_with_last_press_of_two_keys :
    let moves : List Move := [.press 7, .release 7, .load [0xF0, 0x0A]]
    let taps : List Move := [.press 9, .release 9]
    let later : List Move :=
      [.cycle, .tick, .press 3, .press 5, .release 5]
    let machine :=
      (fresh (Display.blank 1 1) (RandomTape.start [])).afterAll moves
    machine.Waits first ∧
      (Move.AreTaps taps ∧
        ∃ executed next,
          Action.cycle.run (machine.afterAll taps) = .ok executed next ∧
            machine.Rests next) ∧
      ((∀ program, Move.load program ∉ later) ∧
        machine.CyclesFree later ∧
        ∃ executed next,
          Action.cycle.run (machine.afterAll later) = .ok executed next ∧
            ((next.registers.byte first).toNat : Int) = 5) := by
  intro moves taps later machine
  let before :=
    (fresh (Display.blank 1 1) (RandomTape.start [])).afterAll
      [.press 7, .release 7]
  have atStart : machine.programCounter = 0x200 :=
    programCounter_after_load_pair before 0xF0 0x0A
  have atWord : machine.word = 0xF00A :=
    word_after_load_pair before rfl 0xF0 0x0A
  have waits : machine.Waits first := by
    rw [Waits, Action.run_fetch machine (by omega) (by omega), atWord]
    rfl
  have keypad (earlier : List Move) :
      (machine.afterAll earlier).keypad =
        Keypad.afterEvents ((moves ++ earlier).filterMap Move.event?) := by
    rw [← keypad_afterAll_fresh (Display.blank 1 1) (RandomTape.start []),
      afterAll_append]
  have isFree : machine.keypad.IsFree := by
    intro key
    rw [← machine.afterAll_nil, keypad]
    revert key
    decide
  have areTaps : Move.AreTaps taps := by
    refine ⟨by simp [taps], by simp [taps], fun earlier key rest shape => ?_⟩
    -- The only press is the first move.
    rcases List.cons_eq_append_iff.mp shape with ⟨rfl, same⟩ | ⟨others, -, tail⟩
    · cases same
      exact List.mem_singleton_self _
    · have inTail : Move.press key ∈ others ++ .press key :: rest := by
        simp
      rw [← tail] at inTail
      simp at inTail
  have noLoad : ∀ program, Move.load program ∉ later := by
    simp [later]
  have cyclesFree : machine.CyclesFree later := by
    intro earlier rest shape
    -- The only cycle is the first move.
    rcases List.cons_eq_append_iff.mp shape with ⟨rfl, -⟩ | ⟨others, -, tail⟩
    · rw [afterAll_nil]
      exact isFree
    · have inTail : Move.cycle ∈ others ++ .cycle :: rest := by
        simp
      rw [← tail] at inTail
      simp at inTail
  have notFree : ¬ (machine.afterAll later).keypad.IsFree := by
    intro isFree
    have isHeld := isFree 3
    rw [keypad] at isHeld
    revert isHeld
    decide
  obtain ⟨-, -, -, tapped⟩ :=
    wait_ends_with_last_press (Display.blank 1 1) (RandomTape.start []) moves
      [] first waits (by simp) (fun _ _ shape => by simp at shape)
  obtain ⟨-, -, ends, -⟩ :=
    wait_ends_with_last_press (Display.blank 1 1) (RandomTape.start []) moves
      later first waits noLoad cyclesFree
  obtain ⟨key, lastPress, executed, next, ran, -, loaded, -⟩ := ends notFree
  obtain rfl : key = 5 := (Option.some.inj lastPress).symm
  rw [afterAll_nil] at tapped
  exact ⟨waits, ⟨areTaps, tapped isFree taps areTaps⟩,
    noLoad, cyclesFree, executed, next, ran, loaded.value⟩

end Machine

end ChipEight
