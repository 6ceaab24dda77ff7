import ChipEight.Loop
import ChipEight.Proofs.Failures
import Mathlib.Data.List.TakeWhile

namespace ChipEight

/-!
# The schedule of the loop

What the loop does to a machine is a history: in every frame the keys come
first, then the cycle, and then a tick of the timers when the number of
completed cycles is a multiple of the period. The schedule spells this history
out from the frames alone. A loop whose cycles succeed follows its schedule
from frame to frame, until a frame ends it or a cycle fails.
-/

/-- The move that an event makes, if it is for the keypad. -/
def Event.move? : Event → Option Move
  | .keyDown (.pad key) => some (.press key)
  | .keyUp (.pad key) => some (.release key)
  | _ => none

/-- Whether a move is a tick of the timers. -/
def Move.isTick : Move → Bool
  | .tick => true
  | _ => false

/-- The rate at which a request asks the clock to wait, if it does. -/
def Request.rate? : Request → Option Int
  | .pace rate => some rate
  | _ => none

/-- The moves that events make. -/
def keyMoves
    (events : List Event) :
    List Move :=
  events.filterMap Event.move?

/-- The ticks that are due when a number of cycles are completed. -/
def tickMoves
    (rate : Int)
    (cycles : Nat) :
    List Move :=
  if cycles % tickPeriod rate = 0 then
    [.tick]
  else
    []

/-- The moves of a frame that is completed after a number of cycles. -/
def frameMoves
    (rate : Int)
    (cycles : Nat)
    (frame : List Event) :
    List Move :=
  keyMoves frame ++ .cycle :: tickMoves rate (cycles + 1)

/-- The moves of frames that are completed after a number of cycles. -/
def schedule
    (rate : Int) :
    Nat →
    List (List Event) →
    List Move
  | _, [] => []
  | cycles, frame :: rest =>
      frameMoves rate cycles frame ++ schedule rate (cycles + 1) rest

namespace Machine

/-- The machine that the cycle of a frame is run on. -/
def beforeCycle
    (machine : Machine)
    (rate : Int)
    (cycles : Nat)
    (frames : List (List Event))
    (place : Nat) :
    Machine :=
  machine.afterAll
    (schedule rate cycles (frames.take place) ++
      keyMoves (frames.getD place []))

/-- Whether the loop completes all of some frames after a number of cycles. -/
structure Completes
    (machine : Machine)
    (rate : Int)
    (cycles : Nat)
    (frames : List (List Event)) : Prop where
  goesOn :
    ∀ frame ∈ frames,
      frame.any Event.ends = false
  succeeds :
    ∀ place < frames.length,
      ∀ fault, ¬ (machine.beforeCycle rate cycles frames place).FailsWith fault

end Machine

/-! The keys of a frame. -/

theorem keyMoves_cons
    (event : Event)
    (rest : List Event) :
    keyMoves (event :: rest) = event.move?.toList ++ keyMoves rest := by
  rw [keyMoves, List.filterMap_cons]
  cases event.move? <;> rfl

/-- Events press keys and let them go, and do nothing else. -/
theorem exists_key_of_mem_keyMoves
    {events : List Event}
    {move : Move}
    (member : move ∈ keyMoves events) :
    ∃ key, move = .press key ∨ move = .release key := by
  obtain ⟨event, -, moves⟩ := List.mem_filterMap.mp member
  cases event with
  | keyDown key =>
      cases key <;> cases moves
      exact ⟨_, Or.inl rfl⟩
  | keyUp key =>
      cases key <;> cases moves
      exact ⟨_, Or.inr rfl⟩
  | quit => cases moves
  | other => cases moves

namespace Machine

theorem afterAll_move?
    (machine : Machine)
    (event : Event) :
    machine.afterAll event.move?.toList = machine.afterEvent event := by
  cases event with
  | keyDown key => cases key <;> rfl
  | keyUp key => cases key <;> rfl
  | quit => rfl
  | other => rfl

/-- Events do to the keypad what they do one by one, and nothing else. -/
theorem afterAll_keyMoves
    (machine : Machine)
    (events : List Event) :
    machine.afterAll (keyMoves events) =
      { machine with
        keypad := events.foldl Keypad.afterEvent machine.keypad } := by
  induction events generalizing machine with
  | nil => rfl
  | cons event rest inductionHypothesis =>
      rw [keyMoves_cons, afterAll_append, afterAll_move?, inductionHypothesis]
      rfl

/-- The events of a frame count up to the first one that ends the session. -/
theorem afterFrame_eq
    (machine : Machine)
    (frame : List Event) :
    machine.afterFrame frame =
      (machine.afterAll
          (keyMoves (frame.takeWhile fun event => !event.ends)),
        frame.any Event.ends) := by
  induction frame generalizing machine with
  | nil => rfl
  | cons event rest inductionHypothesis =>
      cases ends : event.ends with
      | true =>
          simp [afterFrame, ends, keyMoves]
      | false =>
          simp [afterFrame, ends, inductionHypothesis, keyMoves_cons,
            afterAll_move?]

theorem afterFrame_of_goesOn
    (machine : Machine)
    {frame : List Event}
    (goesOn : frame.any Event.ends = false) :
    machine.afterFrame frame = (machine.afterAll (keyMoves frame), false) := by
  have whole :
      (frame.takeWhile fun event => !event.ends) = frame := by
    rw [List.takeWhile_eq_self_iff]
    simpa using goesOn
  rw [afterFrame_eq, whole, goesOn]

theorem afterAll_tickMoves
    (machine : Machine)
    (rate : Int)
    (cycles : Nat) :
    machine.afterAll (tickMoves rate cycles) = machine.afterCycle rate cycles := by
  rw [tickMoves, afterCycle]
  split <;> rfl

end Machine

/-! The schedule in two parts. -/

theorem schedule_append
    (rate : Int)
    (cycles : Nat)
    (earlier later : List (List Event)) :
    schedule rate cycles (earlier ++ later) =
      schedule rate cycles earlier ++
        schedule rate (cycles + earlier.length) later := by
  induction earlier generalizing cycles with
  | nil => rfl
  | cons frame rest inductionHypothesis =>
      simp only [List.cons_append, schedule, inductionHypothesis,
        List.append_assoc, List.length_cons]
      rw [Nat.add_right_comm, Nat.add_assoc]

theorem countP_isTick_keyMoves
    (events : List Event) :
    (keyMoves events).countP Move.isTick = 0 := by
  rw [List.countP_eq_zero]
  intro move member
  obtain ⟨key, rfl | rfl⟩ := exists_key_of_mem_keyMoves member
  · exact Bool.false_ne_true
  · exact Bool.false_ne_true

/-- A frame ticks when the cycles completed with it are a multiple of the period. -/
theorem countP_isTick_frameMoves
    (rate : Int)
    (cycles : Nat)
    (frame : List Event) :
    (frameMoves rate cycles frame).countP Move.isTick =
      if tickPeriod rate ∣ cycles + 1 then 1 else 0 := by
  simp only [frameMoves, tickMoves, List.countP_append, countP_isTick_keyMoves,
    Nat.dvd_iff_mod_eq_zero]
  split <;> rfl

/-- The ticks of a schedule are the multiples of the period that it passes. -/
theorem countP_isTick_schedule
    (rate : Int)
    (cycles : Nat)
    (frames : List (List Event)) :
    cycles / tickPeriod rate + (schedule rate cycles frames).countP Move.isTick =
      (cycles + frames.length) / tickPeriod rate := by
  induction frames generalizing cycles with
  | nil => rfl
  | cons frame rest inductionHypothesis =>
      have next := inductionHypothesis (cycles + 1)
      rw [Nat.succ_div] at next
      rw [schedule, List.countP_append, countP_isTick_frameMoves,
        List.length_cons, ← Nat.add_assoc, next]
      congr 1
      omega

/-- From the start on there is a tick for every period of the cycles. -/
theorem countP_isTick_from_start
    (rate : Int)
    (frames : List (List Event)) :
    (schedule rate 0 frames).countP Move.isTick =
      frames.length / tickPeriod rate := by
  have counted := countP_isTick_schedule rate 0 frames
  rw [Nat.zero_div, Nat.zero_add, Nat.zero_add] at counted
  exact counted

theorem load_not_mem_keyMoves
    (events : List Event)
    (program : List UInt8) :
    Move.load program ∉ keyMoves events := by
  intro member
  obtain ⟨key, loads | loads⟩ := exists_key_of_mem_keyMoves member
  · cases loads
  · cases loads

/-- A run loads no program. -/
theorem load_not_mem_schedule
    (rate : Int)
    (cycles : Nat)
    (frames : List (List Event))
    (program : List UInt8) :
    Move.load program ∉ schedule rate cycles frames := by
  induction frames generalizing cycles with
  | nil => exact List.not_mem_nil
  | cons frame rest inductionHypothesis =>
      have notInTicks : Move.load program ∉ tickMoves rate (cycles + 1) := by
        rw [tickMoves]
        split <;> simp
      simp [schedule, frameMoves, load_not_mem_keyMoves, notInTicks,
        inductionHypothesis]

namespace Machine

variable {machine : Machine} {rate : Int} {cycles : Nat}
  {earlier later : List (List Event)}

/-- The frames behind do not matter to a cycle. -/
theorem beforeCycle_append_left
    (later : List (List Event))
    {place : Nat}
    (inside : place < earlier.length) :
    machine.beforeCycle rate cycles (earlier ++ later) place =
      machine.beforeCycle rate cycles earlier place := by
  rw [beforeCycle, beforeCycle, List.take_append_of_le_length inside.le,
    List.getD_append _ _ _ _ inside]

/-- The frames in front are history to a cycle. -/
theorem beforeCycle_append_right
    (place : Nat) :
    machine.beforeCycle rate cycles (earlier ++ later)
        (earlier.length + place) =
      (machine.afterAll (schedule rate cycles earlier)).beforeCycle rate
        (cycles + earlier.length) later place := by
  rw [beforeCycle, beforeCycle, List.take_length_add_append, schedule_append,
    List.append_assoc, afterAll_append,
    List.getD_append_right _ _ _ _ (Nat.le_add_right _ _),
    Nat.add_sub_cancel_left]

/-- The first of several frames is history to the cycles of the others. -/
theorem beforeCycle_cons
    (frame : List Event)
    (rest : List (List Event))
    (place : Nat) :
    machine.beforeCycle rate cycles (frame :: rest) (place + 1) =
      (machine.afterAll (frameMoves rate cycles frame)).beforeCycle rate
        (cycles + 1) rest place := by
  rw [beforeCycle, beforeCycle, List.take_succ_cons, schedule,
    List.append_assoc, afterAll_append, List.getD_cons_succ]

/-- Behind a frame whose cycle succeeds the timers may tick. -/
theorem afterAll_frameMoves_of_ok
    {next : Machine}
    {frame : List Event}
    {executed : Executed}
    (ran :
      Action.cycle.run (machine.afterAll (keyMoves frame)) =
        .ok executed next) :
    machine.afterAll (frameMoves rate cycles frame) =
      next.afterCycle rate (cycles + 1) := by
  rw [frameMoves, afterAll_append, afterAll_cons, afterAll_tickMoves, after,
    ran, machineOf]

namespace Completes

variable {frame : List Event} {rest : List (List Event)}

/-- The cycle of the first frame succeeds. -/
theorem ran_head
    (completes : machine.Completes rate cycles (frame :: rest)) :
    ∃ executed next,
      Action.cycle.run (machine.afterAll (keyMoves frame)) =
        .ok executed next := by
  cases ran : Action.cycle.run (machine.afterAll (keyMoves frame)) with
  | error fault stopped =>
      have succeeds := completes.succeeds 0 (Nat.zero_lt_succ _) fault
      exact (succeeds ⟨stopped, ran⟩).elim
  | ok executed next => exact ⟨executed, next, rfl⟩

/-- The other frames are completed after the first one. -/
theorem tail
    (completes : machine.Completes rate cycles (frame :: rest)) :
    (machine.afterAll (frameMoves rate cycles frame)).Completes rate
      (cycles + 1) rest where
  goesOn other member :=
    completes.goesOn other (List.mem_cons_of_mem frame member)
  succeeds place inside fault := by
    rw [← beforeCycle_cons]
    exact completes.succeeds (place + 1) (Nat.succ_lt_succ inside) fault

end Completes

/-! A machine that jumps to where it is. -/

/-- Whether the program counter is at a jump to itself. -/
structure Idles
    (machine : Machine) : Prop where
  inside : machine.programCounter < 4095
  atJump :
    ∃ place : Fin 0x1000,
      machine.programCounter = (place : Nat) ∧
        machine.word = 0x1000 + (place : Nat)

namespace Idles

/-- A machine just switched on idles on a program that jumps to its start. -/
theorem of_load
    {machine : Machine}
    (atStart : machine.programCounter = programStart) :
    (machine.after (.load [0x12, 0x00])).Idles := by
  have sameCounter :
      (machine.after (.load [0x12, 0x00])).programCounter = programStart :=
    (programCounter_after_load_pair machine 0x12 0x00).trans atStart
  refine ⟨?_, ⟨0x200, by decide⟩, sameCounter, ?_⟩
  · rw [sameCounter]
    decide
  · exact machine.word_after_load_pair atStart 0x12 0x00

theorem after_cycle
    {machine : Machine}
    (idles : machine.Idles) :
    machine.after .cycle = machine.settled := by
  obtain ⟨inside, place, atPlace, atWord⟩ := idles
  rw [after_cycle_of_jump (by omega) inside place atWord, ← atPlace]
  rfl

theorem not_failsWith
    {machine : Machine}
    (idles : machine.Idles)
    (fault : Fault) :
    ¬ machine.FailsWith fault := by
  obtain ⟨inside, place, atPlace, atWord⟩ := idles
  exact not_failsWith_of_jump (by omega) inside place atWord fault

/-- Only a program that is loaded can stop a machine from idling. -/
theorem afterAll
    {machine : Machine}
    (idles : machine.Idles)
    {moves : List Move}
    (noLoad : ∀ program, Move.load program ∉ moves) :
    (machine.afterAll moves).Idles := by
  induction moves generalizing machine with
  | nil => exact idles
  | cons move rest inductionHypothesis =>
      have next : (machine.after move).Idles := by
        cases move with
        | load program => exact absurd List.mem_cons_self (noLoad program)
        | cycle =>
            rw [idles.after_cycle]
            exact ⟨idles.inside, idles.atJump⟩
        | tick => exact ⟨idles.inside, idles.atJump⟩
        | press key => exact ⟨idles.inside, idles.atJump⟩
        | release key => exact ⟨idles.inside, idles.atJump⟩
      exact inductionHypothesis next fun program member =>
        noLoad program (List.mem_cons_of_mem move member)

/-- A machine that idles does so at every cycle of a run. -/
theorem beforeCycle
    {machine : Machine}
    (idles : machine.Idles)
    (rate : Int)
    (cycles : Nat)
    (frames : List (List Event))
    (place : Nat) :
    (machine.beforeCycle rate cycles frames place).Idles := by
  refine idles.afterAll fun program member => ?_
  rcases List.mem_append.mp member with inSchedule | inKeys
  · exact load_not_mem_schedule _ _ _ program inSchedule
  · exact load_not_mem_keyMoves _ program inKeys

/-- A machine that idles completes all frames that go on. -/
theorem completes
    {machine : Machine}
    (idles : machine.Idles)
    (rate : Int)
    (cycles : Nat)
    {frames : List (List Event)}
    (goesOn : ∀ frame ∈ frames, frame.any Event.ends = false) :
    machine.Completes rate cycles frames where
  goesOn := goesOn
  succeeds place _ fault :=
    (idles.beforeCycle rate cycles frames place).not_failsWith fault

end Idles

end Machine

end ChipEight
