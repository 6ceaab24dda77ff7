import ChipEight.Proofs.Schedules

namespace ChipEight

/-!
# The timers in the loop

A timer is set by one instruction and counted down by the ticks. So along a
schedule it is what it was set to last, less the ticks since then, and never
below zero. The two timers differ only in the instruction that sets them.
-/

/-- One of the timers of a machine. -/
inductive Timer where
  | delay
  | sound

/-- The word of the instruction that sets a timer from a register. -/
def Timer.setWord
    (timer : Timer)
    (x : Fin 16) :
    Nat :=
  match timer with
  | .delay => 0xF015 + 0x100 * x
  | .sound => 0xF018 + 0x100 * x

namespace Machine

/-- The value of a timer. -/
def timer
    (machine : Machine) :
    Timer →
    Int
  | .delay => machine.delayTimer
  | .sound => machine.soundTimer

variable {width height : Int} {machine : Machine} (timer : Timer)

theorem timer_nonneg
    (bounded : machine.Bounded width height) :
    0 ≤ machine.timer timer := by
  cases timer with
  | delay => exact bounded.delayTimer.1
  | sound => exact bounded.soundTimer.1

/-- A cycle at another word leaves a timer alone. -/
theorem timer_after_cycle_of_ne
    (bounded : machine.Bounded width height)
    (notSet : ∀ x, machine.word ≠ timer.setWord x) :
    (machine.after .cycle).timer timer = machine.timer timer := by
  rcases bounded.spared_after_cycle with
    nothing | ⟨⟨operation, operands⟩, decoded, spared⟩
  · rw [nothing]
    cases timer <;> rfl
  · have proper :=
      ((Instruction.decode_eq_ok_iff machine.word_lt).mp decoded).1
    cases timer with
    | delay =>
        apply spared.delayTimer
        rintro rfl
        cases proper with
        | register x =>
            exact notSet x
              ((Instruction.decode_eq_ldDtVx_iff machine.word_lt x).mp decoded)
    | sound =>
        apply spared.soundTimer
        rintro rfl
        cases proper with
        | register x =>
            exact notSet x
              ((Instruction.decode_eq_ldStVx_iff machine.word_lt x).mp decoded)

/-- A cycle at the word that sets a timer from a register does so. -/
theorem timer_after_cycle_of_eq
    (bounded : machine.Bounded width height)
    (inside : machine.programCounter < 4095)
    {x : Fin 16}
    (sets : machine.word = timer.setWord x) :
    (machine.after .cycle).timer timer = (machine.registers.byte x).toNat := by
  have lower := bounded.programCounter.1
  cases timer with
  | delay =>
      have decoded :=
        (Instruction.decode_eq_ldDtVx_iff machine.word_lt x).mpr sets
      have ran := Action.run_ldDtVx machine.settled x
      rw [after, Action.run_cycle_of_decoded machine lower inside decoded]
      simp only [ran]
      rfl
  | sound =>
      have decoded :=
        (Instruction.decode_eq_ldStVx_iff machine.word_lt x).mpr sets
      have ran := Action.run_ldStVx machine.settled x
      rw [after, Action.run_cycle_of_decoded machine lower inside decoded]
      simp only [ran]
      rfl

theorem timer_afterAll_keyMoves
    (machine : Machine)
    (events : List Event) :
    (machine.afterAll (keyMoves events)).timer timer = machine.timer timer := by
  rw [afterAll_keyMoves]
  cases timer <;> rfl

theorem timer_after_tick
    (machine : Machine) :
    (machine.after .tick).timer timer = countDown (machine.timer timer) := by
  cases timer <;> rfl

theorem timer_afterAll_tickMoves
    (notNegative : 0 ≤ machine.timer timer)
    (rate : Int)
    (cycles : Nat) :
    (machine.afterAll (tickMoves rate cycles)).timer timer =
      max 0
        (machine.timer timer -
          (tickMoves rate cycles).countP Move.isTick) := by
  rw [tickMoves]
  split
  · have counted : [Move.tick].countP Move.isTick = 1 := rfl
    rw [afterAll_cons, afterAll_nil, timer_after_tick, countDown, counted]
    split <;> omega
  · rw [afterAll_nil, List.countP_nil]
    omega

/-- A frame counts a timer down from where its cycle leaves it. -/
theorem timer_afterAll_frameMoves
    (bounded : machine.Bounded width height)
    (rate : Int)
    (cycles : Nat)
    (frame : List Event) :
    (machine.afterAll (frameMoves rate cycles frame)).timer timer =
      max 0
        (((machine.afterAll (keyMoves frame)).after .cycle).timer timer -
          (frameMoves rate cycles frame).countP Move.isTick) := by
  have cycleBounded :
      ((machine.afterAll (keyMoves frame)).after .cycle).Bounded
        width height :=
    (bounded.afterAll _).after .cycle
  have counted :
      (frameMoves rate cycles frame).countP Move.isTick =
        (tickMoves rate (cycles + 1)).countP Move.isTick := by
    rw [frameMoves, List.countP_append, countP_isTick_keyMoves, Nat.zero_add]
    rfl
  rw [counted, frameMoves, afterAll_append, afterAll_cons,
    timer_afterAll_tickMoves timer (timer_nonneg timer cycleBounded)]

/-- Frames that do not set a timer count it down. -/
theorem timer_afterAll_schedule_of_ne
    (bounded : machine.Bounded width height)
    (rate : Int)
    (cycles : Nat)
    (frames : List (List Event))
    (notSet :
      ∀ place < frames.length,
        ∀ x,
          (machine.beforeCycle rate cycles frames place).word ≠
            timer.setWord x) :
    (machine.afterAll (schedule rate cycles frames)).timer timer =
      max 0
        (machine.timer timer -
          (schedule rate cycles frames).countP Move.isTick) := by
  induction frames generalizing machine cycles with
  | nil =>
      have notNegative := timer_nonneg timer bounded
      rw [schedule, afterAll_nil, List.countP_nil]
      omega
  | cons frame rest inductionHypothesis =>
      have frameNotSet :
          ∀ x, (machine.afterAll (keyMoves frame)).word ≠ timer.setWord x :=
        notSet 0 (Nat.zero_lt_succ _)
      have kept :
          ((machine.afterAll (keyMoves frame)).after .cycle).timer timer =
            machine.timer timer := by
        rw [timer_after_cycle_of_ne timer (bounded.afterAll _) frameNotSet,
          timer_afterAll_keyMoves]
      have frameCounted :=
        timer_afterAll_frameMoves timer bounded rate cycles frame
      rw [kept] at frameCounted
      have restNotSet :
          ∀ place < rest.length,
            ∀ x,
              ((machine.afterAll (frameMoves rate cycles frame)).beforeCycle
                  rate (cycles + 1) rest place).word ≠
                timer.setWord x := by
        intro place inside
        have shifted := notSet (place + 1) (Nat.succ_lt_succ inside)
        rw [beforeCycle_cons] at shifted
        exact shifted
      have counted :=
        inductionHypothesis (bounded.afterAll _) (cycles + 1) restNotSet
      rw [schedule, afterAll_append, counted, frameCounted,
        List.countP_append]
      omega

/-- A timer counts down from what it was set to as long as it is not set again. -/
theorem timer_afterAll_schedule_of_eq
    (bounded : machine.Bounded width height)
    (rate : Int)
    (cycles : Nat)
    {frame : List Event}
    {rest : List (List Event)}
    (inside : (machine.afterAll (keyMoves frame)).programCounter < 4095)
    {x : Fin 16}
    (sets : (machine.afterAll (keyMoves frame)).word = timer.setWord x)
    (notSetAgain :
      ∀ place < rest.length,
        ∀ y,
          ((machine.afterAll (frameMoves rate cycles frame)).beforeCycle rate
              (cycles + 1) rest place).word ≠
            timer.setWord y) :
    (machine.afterAll (schedule rate cycles (frame :: rest))).timer timer =
      max 0
        ((((machine.afterAll (keyMoves frame)).registers.byte x).toNat : Int) -
          (schedule rate cycles (frame :: rest)).countP Move.isTick) := by
  have frameCounted :=
    timer_afterAll_frameMoves timer bounded rate cycles frame
  rw [timer_after_cycle_of_eq timer (bounded.afterAll _) inside sets]
    at frameCounted
  have counted :=
    timer_afterAll_schedule_of_ne timer (bounded.afterAll _) rate (cycles + 1)
      rest notSetAgain
  rw [schedule, afterAll_append, counted, frameCounted, List.countP_append]
  omega

/-- Frames that do not set a timer count it down once in every period. -/
theorem timer_after_frames_of_ne
    (bounded : machine.Bounded width height)
    (rate : Int)
    (frames : List (List Event))
    (notSet :
      ∀ place < frames.length,
        ∀ x,
          (machine.beforeCycle rate 0 frames place).word ≠ timer.setWord x) :
    (machine.afterAll (schedule rate 0 frames)).timer timer =
      max 0 (machine.timer timer - (frames.length / tickPeriod rate : Nat)) := by
  rw [timer_afterAll_schedule_of_ne timer bounded rate 0 frames notSet,
    countP_isTick_from_start]

/-- Of the ticks those count that come after the last cycle to set a timer. -/
theorem timer_after_frames_of_eq
    (bounded : machine.Bounded width height)
    (rate : Int)
    {frames : List (List Event)}
    {setting : Nat}
    (inside : setting < frames.length)
    (fetched :
      (machine.beforeCycle rate 0 frames setting).programCounter < 4095)
    {x : Fin 16}
    (sets :
      (machine.beforeCycle rate 0 frames setting).word = timer.setWord x)
    (notSetAgain :
      ∀ place < frames.length,
        setting < place →
        ∀ y,
          (machine.beforeCycle rate 0 frames place).word ≠ timer.setWord y) :
    (machine.afterAll (schedule rate 0 frames)).timer timer =
      max 0
        (((machine.beforeCycle rate 0 frames setting).registers.byte x).toNat -
          ((frames.length / tickPeriod rate - setting / tickPeriod rate : Nat) :
            Int)) := by
  obtain ⟨earlier, frame, rest, rfl, rfl⟩ :
      ∃ earlier frame rest,
        frames = earlier ++ frame :: rest ∧ setting = earlier.length :=
    ⟨frames.take setting, frames[setting], frames.drop (setting + 1),
      by rw [← List.drop_eq_getElem_cons inside, List.take_append_drop],
      (List.length_take_of_le inside.le).symm⟩
  have reached := bounded.afterAll (schedule rate 0 earlier)
  -- The frames in front of the setting one are history to all that follows.
  have shifted (place : Nat) :
      machine.beforeCycle rate 0 (earlier ++ frame :: rest)
          (earlier.length + place) =
        (machine.afterAll (schedule rate 0 earlier)).beforeCycle rate
          earlier.length (frame :: rest) place := by
    rw [beforeCycle_append_right, Nat.zero_add]
  have here := shifted 0
  rw [Nat.add_zero] at here
  rw [here] at fetched sets ⊢
  have restNotSet :
      ∀ place < rest.length,
        ∀ y,
          (((machine.afterAll (schedule rate 0 earlier)).afterAll
              (frameMoves rate earlier.length frame)).beforeCycle rate
              (earlier.length + 1) rest place).word ≠
            timer.setWord y := by
    intro place behind
    have notSet :=
      notSetAgain (earlier.length + (place + 1))
        (by rw [List.length_append, List.length_cons]; omega) (by omega)
    rw [shifted, beforeCycle_cons] at notSet
    exact notSet
  have counted :=
    countP_isTick_schedule rate earlier.length (frame :: rest)
  have fromThere :=
    timer_afterAll_schedule_of_eq timer reached rate earlier.length fetched
      sets restNotSet
  rw [schedule_append, Nat.zero_add, afterAll_append, List.length_append,
    ← counted, Nat.add_sub_cancel_left]
  exact fromThere

end Machine

end ChipEight
