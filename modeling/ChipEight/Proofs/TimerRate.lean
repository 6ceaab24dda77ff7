import ChipEight.Proofs.LoadedPrograms
import ChipEight.Proofs.RegisterArithmetic
import ChipEight.Proofs.Sessions
import Mathlib.Tactic.LinearCombination

namespace ChipEight

/-!
# The rate of the ticks

The timers are to tick sixty times a second, and the loop ticks after every
whole number of cycles. If the rate of the loop is a multiple of sixty that
comes to the same. Otherwise the period is rounded down: every tick comes too
early by the same part of a tick, and the timers run ahead without bound. A
program that sets a timer and then only waits shows how far they are.
-/

/--
How far the ticks of a run are ahead of the timers' rate.

In a second the loop completes as many cycles as its rate says, and sixty ticks
are due. So a tick counts for the rate and a cycle for sixty.
-/
def tickLead
    (rate : Int)
    (frames : List (List Event)) :
    Int :=
  (schedule rate 0 frames).countP Move.isTick * rate -
    timerRate * frames.length

/-- Whether all runs at a rate are within one tick of the timers' rate. -/
def TimersKeepTime
    (rate : Int) :
    Prop :=
  ∀ width height : Int,
    1 ≤ width →
    1 ≤ height →
    ∀ random moves frames,
      ((Machine.fresh (Display.blank width height) random).afterAll
          moves).Completes rate 0 frames →
      |tickLead rate frames| ≤ rate

section

variable {rate : Int}

theorem tickPeriod_of_le
    (fast : 60 ≤ rate) :
    (tickPeriod rate : Int) = rate / 60 := by
  simp only [tickPeriod, timerRate]
  omega

/--
The lead in numbers.

Every tick is early by the remainder of the rate, and the cycles since the last
tick make up for it.
-/
theorem tickLead_eq
    (fast : 60 ≤ rate)
    (frames : List (List Event)) :
    tickLead rate frames =
      (schedule rate 0 frames).countP Move.isTick * (rate % 60) -
        60 * (frames.length % (rate / 60)) := by
  have ticks :
      ((schedule rate 0 frames).countP Move.isTick : Int) =
        frames.length / (rate / 60) := by
    rw [countP_isTick_from_start, Int.natCast_ediv, tickPeriod_of_le fast]
  have ofCycles := Int.mul_ediv_add_emod frames.length (rate / 60)
  have ofRate := Int.mul_ediv_add_emod rate 60
  rw [tickLead, ticks, timerRate]
  linear_combination
    -((frames.length : Int) / (rate / 60)) * ofRate + 60 * ofCycles

/-- The timers are never late by a whole tick. -/
theorem neg_lt_tickLead
    (fast : 60 ≤ rate)
    (frames : List (List Event)) :
    -rate < tickLead rate frames := by
  have early :
      0 ≤ ((schedule rate 0 frames).countP Move.isTick : Int) * (rate % 60) :=
    Int.mul_nonneg (Int.natCast_nonneg _) (Int.emod_nonneg _ (by decide))
  have waiting :
      (frames.length : Int) % (rate / 60) < rate / 60 :=
    Int.emod_lt_of_pos _ (by omega)
  have ofRate := Int.mul_ediv_add_emod rate 60
  rw [tickLead_eq fast]
  omega

/-- At a multiple of the timers' rate they are never early. -/
theorem tickLead_nonpos_of_dvd
    (fast : 60 ≤ rate)
    (multiple : 60 ∣ rate)
    (frames : List (List Event)) :
    tickLead rate frames ≤ 0 := by
  have waiting :
      0 ≤ (frames.length : Int) % (rate / 60) :=
    Int.emod_nonneg _ (by omega)
  rw [tickLead_eq fast, Int.emod_eq_zero_of_dvd multiple, Int.mul_zero]
  omega

/-- After whole periods the ticks are all that counts. -/
theorem tickLead_of_periods
    (fast : 60 ≤ rate)
    (ticks : Nat) :
    tickLead rate (List.replicate (ticks * tickPeriod rate) []) =
      ticks * (rate % 60) := by
  have counted :
      (schedule rate 0
          (List.replicate (ticks * tickPeriod rate) [])).countP Move.isTick =
        ticks := by
    rw [countP_isTick_from_start, List.length_replicate,
      Nat.mul_div_cancel _ (tickPeriod_pos rate)]
  rw [tickLead_eq fast, counted, List.length_replicate, Int.natCast_mul,
    tickPeriod_of_le fast, Int.mul_emod_left, Int.mul_zero, Int.sub_zero]

/--
A rate that is no multiple of the timers' rate lets them run ahead of any bound.
-/
theorem exists_lt_tickLead_of_not_dvd
    (fast : 60 ≤ rate)
    (noMultiple : ¬ 60 ∣ rate)
    (bound : Int) :
    ∃ count, bound < tickLead rate (List.replicate count []) := by
  have early : 1 ≤ rate % 60 := by
    have notZero : rate % 60 ≠ 0 :=
      mt Int.dvd_of_emod_eq_zero noMultiple
    omega
  refine ⟨(bound.toNat + 1) * tickPeriod rate, ?_⟩
  rw [tickLead_of_periods fast]
  calc
    bound < ((bound.toNat + 1 : Nat) : Int) * 1 := by omega
    _ ≤ ((bound.toNat + 1 : Nat) : Int) * (rate % 60) :=
        Int.mul_le_mul_of_nonneg_left early (Int.natCast_nonneg _)

end

namespace Machine

/--
A run in which a machine only waits counts its timers down once in every period.
-/
theorem Idles.timer_run
    {width height : Int}
    {machine : Machine}
    (idles : machine.Idles)
    (bounded : machine.Bounded width height)
    (timer : Timer)
    (rate : Int)
    {frames : List (List Event)}
    (goesOn : ∀ frame ∈ frames, frame.any Event.ends = false) :
    (Session.run rate frames machine).machine.timer timer =
      max 0 (machine.timer timer - (frames.length / tickPeriod rate : Nat)) := by
  rw [Session.machine_run_of_completes (idles.completes rate 0 goesOn)]
  refine timer_after_frames_of_ne timer bounded rate frames ?_
  intro place inside x sets
  obtain ⟨target, -, isJump⟩ := (idles.beforeCycle rate 0 frames place).atJump
  rw [isJump] at sets
  cases timer <;> simp only [Timer.setWord] at sets <;> omega

/-- A cycle leads to where its word leads to. -/
theorem Executes.after_cycle
    {machine next : Machine}
    (executes : machine.settled.Executes machine.word next)
    (lower : 0 ≤ machine.programCounter)
    (inside : machine.programCounter < 4095) :
    machine.after .cycle = next := by
  obtain ⟨executed, ran⟩ := executes.run_cycle lower inside
  rw [after, ran, machineOf]

/-- A program sets the delay timer in two cycles, and then it only waits. -/
theorem idles_of_load_delay
    (machine : Machine)
    (atStart : machine.programCounter = programStart)
    (delay : UInt8) :
    let waiting :=
      machine.afterAll
        [.load [0x60, delay, 0xF0, 0x15, 0x12, 0x04], .cycle, .cycle]
    waiting.Idles ∧ waiting.delayTimer = delay.toNat := by
  obtain ⟨loaded, loads, receives⟩ :=
    machine.exists_receives_of_load
      (Nat.le_of_ble_eq_true rfl :
        [0x60, delay, 0xF0, 0x15, 0x12, 0x04].length ≤ 3584)
  have atFirst : loaded.programCounter = 0x200 := by
    rw [receives.memoryOnly]
    exact atStart
  have atFill : loaded.word = 0x6000 + (0x100 * first + delay.toNat) := by
    rw [receives.word_eq loaded rfl 0 (by simp) atFirst]
    simp [first]
  -- The first cycle fills a register with the delay.
  obtain ⟨registers, fills, isFilled⟩ :=
    loaded.settled.computes_ld first ⟨delay.toNat, delay.toNat_lt⟩
  let filled := loaded.settled.withRegisters registers
  have afterFill : loaded.after .cycle = filled := by
    refine Executes.after_cycle ?_ (by omega) (by omega)
    rw [atFill]
    exact fills
  have atSecond : filled.programCounter = 0x202 :=
    congrArg (· + 2) atFirst
  have atSet : filled.word = 0xF015 :=
    receives.word_eq filled rfl 2 (by simp) atSecond
  -- The second one sets the timer from the register.
  have sets :=
    executes_of_mem .ldDtVx 0xF015 0xF0FF (by decide) (by decide)
      (.register first) rfl (Action.run_ldDtVx filled.settled first)
  let waiting : Machine :=
    { filled.settled with
      delayTimer := (filled.registers.byte first).toNat,
      programCounter := filled.programCounter + 2 }
  have afterSet : filled.after .cycle = waiting := by
    refine Executes.after_cycle ?_ (by omega) (by omega)
    rw [atSet]
    exact sets
  have atThird : waiting.programCounter = 0x204 :=
    congrArg (· + 2) atSecond
  have atJump : waiting.word = 0x1204 :=
    receives.word_eq waiting rfl 4 (by simp) atThird
  have reached :
      machine.afterAll
          [.load [0x60, delay, 0xF0, 0x15, 0x12, 0x04], .cycle, .cycle] =
        waiting := by
    rw [afterAll_cons, afterAll_cons, afterAll_cons, afterAll_nil,
      ← afterSet, ← afterFill, after, loads, machineOf]
  rw [reached]
  exact ⟨⟨by omega, ⟨0x204, by decide⟩, atThird, atJump⟩, isFilled.value⟩

end Machine

open Machine in
/--
The ticks keep time at the multiples of the timers' rate, and at no other rate.

What a run is ahead by is exactly what its ticks are early by, less the cycles
since the last of them. If the rate of the loop is no multiple, a program that
only waits runs ahead of any bound.
-/
theorem ticks_keep_time_iff_dvd
    (rate : Int)
    (fast : 60 ≤ rate) :
    (∀ width height : Int,
      1 ≤ width →
      1 ≤ height →
      ∀ random moves frames,
        let chip := (fresh (Display.blank width height) random).afterAll moves
        let ticks : Int := (schedule rate 0 frames).countP Move.isTick
        chip.Completes rate 0 frames →
        (Session.run rate frames chip).machine =
            chip.afterAll (schedule rate 0 frames) ∧
          -rate < ticks * rate - 60 * frames.length ∧
          ticks * rate - 60 * frames.length =
            ticks * (rate % 60) - 60 * (frames.length % (rate / 60))) ∧
    (TimersKeepTime rate ↔ 60 ∣ rate) ∧
    (¬ 60 ∣ rate →
      ∀ random bound,
        let chip :=
          (fresh (Display.blank 64 32) random).afterAll [.load [0x12, 0x00]]
        ∃ frames,
          chip.Completes rate 0 frames ∧ bound < tickLead rate frames) := by
  have runsAhead (noMultiple : ¬ 60 ∣ rate) (random : RandomTape) (bound : Int) :
      ∃ frames,
        ((fresh (Display.blank 64 32) random).after
            (.load [0x12, 0x00])).Completes rate 0 frames ∧
          bound < tickLead rate frames := by
    obtain ⟨count, ahead⟩ :=
      exists_lt_tickLead_of_not_dvd fast noMultiple bound
    refine ⟨List.replicate count [], ?_, ahead⟩
    refine (Idles.of_load rfl).completes rate 0 fun frame member => ?_
    rw [List.eq_of_mem_replicate member]
    rfl
  refine ⟨?exactly, ⟨?onlyMultiples, ?multiples⟩, runsAhead⟩
  case exactly =>
    intro width height wide tall random moves frames chip ticks completes
    exact ⟨Session.machine_run_of_completes completes,
      neg_lt_tickLead fast frames, tickLead_eq fast frames⟩
  case onlyMultiples =>
    intro keepsTime
    by_contra noMultiple
    obtain ⟨frames, completes, ahead⟩ :=
      runsAhead noMultiple (RandomTape.start []) rate
    have within :=
      keepsTime 64 32 (by decide) (by decide) (RandomTape.start [])
        [.load [0x12, 0x00]] frames completes
    exact absurd (abs_le.mp within).2 (Int.not_le.mpr ahead)
  case multiples =>
    intro multiple width height wide tall random moves frames completes
    have late := neg_lt_tickLead fast frames
    have notEarly := tickLead_nonpos_of_dvd fast multiple frames
    rw [abs_le]
    omega

/-- The usual rate is a multiple. -/
theorem ticks_keep_time_iff_dvd_at_300 :
    (60 : Int) ≤ 300 ∧ TimersKeepTime 300 := by
  have fast : (60 : Int) ≤ 300 := by decide
  have keepsTime := (ticks_keep_time_iff_dvd 300 fast).2.1
  exact ⟨fast, keepsTime.mpr (by decide)⟩

/--
At 119 cycles a second three cycles are three ticks, more than one too many.

A delay of fifteen shows it: three cycles later the run leaves twelve of it,
where no number of ticks that keeps time is above two.
-/
theorem ticks_do_not_keep_time_at_119 :
    let start := Machine.fresh (Display.blank 64 32) (RandomTape.start [])
    let waiting :=
      start.afterAll
        [.load [0x60, 0x0F, 0xF0, 0x15, 0x12, 0x04], .cycle, .cycle]
    (start.afterAll [.load [0x12, 0x00]]).Completes 119 0 [[], [], []] ∧
      (119 : Int) < tickLead 119 [[], [], []] ∧
      waiting.Completes 119 0 [[], [], []] ∧
      waiting.delayTimer = 15 ∧
      (Session.run 119 [[], [], []] waiting).machine.delayTimer = 12 ∧
      ∀ ticks : Int, |ticks * 119 - 60 * 3| ≤ 119 → ticks ≤ 2 := by
  intro start waiting
  have goesOn :
      ∀ frame ∈ [[], [], []], frame.any Event.ends = false := by
    decide
  have idlesStart := @Machine.Idles.of_load start rfl
  have ⟨idles, delay⟩ := Machine.idles_of_load_delay start rfl 0x0F
  have bounded : waiting.Bounded 64 32 :=
    (Machine.Bounded.fresh (by decide) (by decide) _).afterAll _
  have isDelay (machine : Machine) :
      machine.timer .delay = machine.delayTimer := rfl
  have left :
      (Session.run 119 [[], [], []] waiting).machine.delayTimer = 12 := by
    rw [← isDelay, idles.timer_run bounded .delay 119 goesOn, isDelay, delay]
    rfl
  refine ⟨idlesStart.completes 119 0 goesOn, by decide,
    idles.completes 119 0 goesOn, delay, left, ?_⟩
  intro ticks inTime
  have upper := (abs_le.mp inTime).2
  omega

end ChipEight
