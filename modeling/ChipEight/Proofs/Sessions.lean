import ChipEight.Proofs.Timers

namespace ChipEight

/-!
# What a run of the loop does

A run goes on as long as no event of a frame ends it and no cycle fails. So it
is described by the first frame that ends it and the first cycle that fails:
until then it follows its schedule, waits once for the clock in every frame and
executes one instruction on the machine that the schedule leads to. The course
of a run tells this frame by frame, and facts about all runs are proved along
it.
-/

namespace Machine

variable {machine : Machine} {rate : Int} {cycles : Nat}
  {frames : List (List Event)}

/-- Frames are completed up to one that ends the loop if their cycles succeed. -/
theorem completes_take
    {count : Nat}
    (before : count ≤ frames.findIdx fun frame => frame.any Event.ends)
    (succeeds :
      ∀ place < count,
        ∀ fault,
          ¬ (machine.beforeCycle rate cycles frames place).FailsWith fault) :
    machine.Completes rate cycles (frames.take count) where
  goesOn frame member := by
    obtain ⟨place, inside, rfl⟩ := List.mem_take_iff_getElem.mp member
    have notLast :
        place < frames.findIdx fun frame => frame.any Event.ends := by
      omega
    exact List.not_of_lt_findIdx notLast
  succeeds place inside fault := by
    have isPart : (frames.take count).length ≤ count :=
      List.length_take_le count frames
    rw [← beforeCycle_append_left (frames.drop count) inside,
      List.take_append_drop]
    exact succeeds place (Nat.lt_of_lt_of_le inside isPart) fault

/-- Along a schedule the keypad is what the events make of it. -/
theorem keypad_afterAll_schedule
    {width height : Int}
    (bounded : machine.Bounded width height)
    (rate : Int)
    (cycles : Nat)
    (frames : List (List Event)) :
    (machine.afterAll (schedule rate cycles frames)).keypad =
      frames.flatten.foldl Keypad.afterEvent machine.keypad := by
  induction frames generalizing machine cycles with
  | nil => rfl
  | cons frame rest inductionHypothesis =>
      have ofCycle :
          ((machine.afterAll (keyMoves frame)).after .cycle).keypad =
            (machine.afterAll (keyMoves frame)).keypad := by
        rcases (bounded.afterAll _).spared_after_cycle with
          nothing | ⟨instruction, -, spared⟩
        · rw [nothing]
          rfl
        · exact spared.keypad
      have ofFrame :
          (machine.afterAll (frameMoves rate cycles frame)).keypad =
            frame.foldl Keypad.afterEvent machine.keypad := by
        rw [frameMoves, afterAll_append, afterAll_cons, afterAll_tickMoves]
        calc
          (((machine.afterAll (keyMoves frame)).after .cycle).afterCycle rate
                (cycles + 1)).keypad
              = ((machine.afterAll (keyMoves frame)).after .cycle).keypad := by
                rw [afterCycle]
                split <;> rfl
          _ = frame.foldl Keypad.afterEvent machine.keypad := by
                rw [ofCycle, afterAll_keyMoves]
      rw [schedule, afterAll_append, inductionHypothesis (bounded.afterAll _),
        ofFrame, List.flatten_cons, List.foldl_append]

/-- A cycle sees all events up to and with those of its frame. -/
theorem keypad_beforeCycle
    {width height : Int}
    (bounded : machine.Bounded width height)
    {place : Nat}
    (inside : place < frames.length) :
    (machine.beforeCycle rate cycles frames place).keypad =
      (frames.take (place + 1)).flatten.foldl Keypad.afterEvent
        machine.keypad := by
  have ofFrame : frames.getD place [] = frames[place] :=
    List.getD_eq_getElem _ _ inside
  rw [beforeCycle, afterAll_append, afterAll_keyMoves,
    keypad_afterAll_schedule bounded, ← List.foldl_append, ofFrame,
    ← List.take_concat_get' _ _ inside, List.flatten_concat]

end Machine

namespace Session

/--
How a run treats the frame that it ends in.

An event of the frame ends the run, or there is no frame left, or the cycle of
the frame fails.
-/
inductive StopsIn
    (machine : Machine) :
    List (List Event) →
    Machine →
    Option Fault →
    Prop
  | ends
      {frames : List (List Event)}
      (ends : ∀ frame ∈ frames.head?, frame.any Event.ends = true) :
      StopsIn machine frames
        (machine.afterAll
          (keyMoves ((frames.headD []).takeWhile fun event => !event.ends)))
        none
  | fails
      {frame : List Event}
      {rest : List (List Event)}
      {fault : Fault}
      (keeps : frame.any Event.ends = false)
      (fails : (machine.afterAll (keyMoves frame)).FailsWith fault) :
      StopsIn machine (frame :: rest)
        ((machine.afterAll (keyMoves frame)).after .cycle) (some fault)

/--
The course of a run from a machine that has completed a number of cycles.

It stops in the next frame, or the cycle of that frame succeeds and the run goes
on with the other frames.
-/
inductive Course
    (rate : Int) :
    Nat →
    Machine →
    List (List Event) →
    Session →
    Prop
  | stops
      {cycles : Nat}
      {machine final : Machine}
      {frames : List (List Event)}
      {fault : Option Fault}
      (stopsIn : StopsIn machine frames final fault) :
      Course rate cycles machine frames
        { machine := final,
          requests := [.pace rate],
          executed := [],
          fault := fault }
  | goesOn
      {cycles : Nat}
      {machine next : Machine}
      {frame : List Event}
      {rest : List (List Event)}
      {executed : Executed}
      {later : Session}
      (keeps : frame.any Event.ends = false)
      (ran :
        Action.cycle.run (machine.afterAll (keyMoves frame)) =
          .ok executed next)
      (course :
        Course rate (cycles + 1)
          (machine.afterAll (frameMoves rate cycles frame)) rest later) :
      Course rate cycles machine (frame :: rest)
        (later.after (.pace rate :: next.showRequests) executed)

variable {machine : Machine} {rate : Int} {cycles : Nat}

/-- A cycle asks for no more waiting. -/
theorem rates_showRequests
    (machine : Machine) :
    machine.showRequests.filterMap Request.rate? = [] := by
  rw [Machine.showRequests]
  split <;> rfl

/-- Behind a frame whose cycle succeeds a run goes on from where the frame leads. -/
theorem runFrom_of_ok
    {frame : List Event}
    (goesOn : frame.any Event.ends = false)
    {executed : Executed}
    {next : Machine}
    (ran :
      Action.cycle.run (machine.afterAll (keyMoves frame)) = .ok executed next)
    (rest : List (List Event)) :
    runFrom rate cycles machine (frame :: rest) =
      (runFrom rate (cycles + 1)
          (machine.afterAll (frameMoves rate cycles frame)) rest).after
        (.pace rate :: next.showRequests) executed := by
  rw [runFrom, machine.afterFrame_of_goesOn goesOn,
    Machine.afterAll_frameMoves_of_ok ran]
  simp only [ran]

/-- A run that stops waits once more for the clock and executes nothing. -/
theorem runFrom_of_stopsIn
    {frames : List (List Event)}
    {final : Machine}
    {fault : Option Fault}
    (stopsIn : StopsIn machine frames final fault) :
    runFrom rate cycles machine frames =
      { machine := final,
        requests := [.pace rate],
        executed := [],
        fault := fault } := by
  cases stopsIn with
  | ends ends =>
      cases frames with
      | nil => rfl
      | cons frame rest =>
          rw [runFrom, machine.afterFrame_eq, ends frame rfl]
          rfl
  | @fails frame rest fault keeps fails =>
      obtain ⟨stopped, ran⟩ := fails
      rw [runFrom, machine.afterFrame_of_goesOn keeps, Machine.after, ran,
        machineOf]
      simp only [ran]

/-- Every run has its course. -/
theorem course_runFrom
    (rate : Int)
    (cycles : Nat)
    (machine : Machine)
    (frames : List (List Event)) :
    Course rate cycles machine frames
      (runFrom rate cycles machine frames) := by
  induction frames generalizing machine cycles with
  | nil => exact .stops (.ends nofun)
  | cons frame rest inductionHypothesis =>
      cases ends : frame.any Event.ends with
      | true =>
          have stopsIn : StopsIn machine (frame :: rest) _ none :=
            .ends (by simpa using ends)
          rw [runFrom_of_stopsIn stopsIn]
          exact .stops stopsIn
      | false =>
          cases ran : Action.cycle.run (machine.afterAll (keyMoves frame)) with
          | ok executed next =>
              rw [runFrom_of_ok ends ran]
              exact .goesOn ends ran (inductionHypothesis (cycles + 1) _)
          | error fault stopped =>
              have stopsIn :
                  StopsIn machine (frame :: rest) _ (some fault) :=
                .fails ends ⟨stopped, ran⟩
              rw [runFrom_of_stopsIn stopsIn]
              exact .stops stopsIn

namespace Course

variable {frames : List (List Event)} {session : Session}

/-- A run waits for the clock before each cycle, and once more before it stops. -/
theorem rates_requests
    (course : Course rate cycles machine frames session) :
    session.requests.filterMap Request.rate? =
      List.replicate (session.executed.length + 1) rate := by
  induction course with
  | stops stopsIn => rfl
  | @goesOn cycles machine next frame rest executed later keeps ran course
      inductionHypothesis =>
      rw [after, List.filterMap_append, List.filterMap_cons, rates_showRequests,
        inductionHypothesis]
      rfl

/-- What a run executed it executed on the machines before its cycles. -/
theorem ran_of_executed
    (course : Course rate cycles machine frames session)
    {place : Nat}
    {record : Executed}
    (found : session.executed[place]? = some record) :
    ∃ next,
      Action.cycle.run (machine.beforeCycle rate cycles frames place) =
        .ok record next := by
  induction course generalizing place with
  | stops stopsIn => cases found
  | @goesOn cycles machine next frame rest executed later keeps ran course
      inductionHypothesis =>
      cases place with
      | zero =>
          obtain rfl := Option.some.inj found
          exact ⟨next, ran⟩
      | succ place =>
          rw [Machine.beforeCycle_cons]
          exact inductionHypothesis found

end Course

/-- A run goes through the frames that it completes and on from where they lead. -/
theorem runFrom_append
    {earlier : List (List Event)}
    (completes : machine.Completes rate cycles earlier)
    (later : List (List Event)) :
    let session := runFrom rate cycles machine (earlier ++ later)
    let behind :=
      runFrom rate (cycles + earlier.length)
        (machine.afterAll (schedule rate cycles earlier)) later
    session.machine = behind.machine ∧
      session.fault = behind.fault ∧
      session.executed.length = earlier.length + behind.executed.length := by
  induction earlier generalizing machine cycles with
  | nil => exact ⟨rfl, rfl, (Nat.zero_add _).symm⟩
  | cons frame rest inductionHypothesis =>
      have goesOn := completes.goesOn frame List.mem_cons_self
      obtain ⟨first, next, ran⟩ := completes.ran_head
      have ⟨sameMachine, sameFault, counted⟩ :=
        inductionHypothesis completes.tail
      rw [List.cons_append, runFrom_of_ok goesOn ran, schedule,
        Machine.afterAll_append, List.length_cons, Nat.add_comm rest.length 1,
        ← Nat.add_assoc]
      refine ⟨sameMachine, sameFault, ?_⟩
      simp only [after, List.length_cons, counted]
      omega

/-- A run that stops behind the frames that it completes. -/
theorem run_append
    {earlier later : List (List Event)}
    (completes : machine.Completes rate 0 earlier)
    {final : Machine}
    {fault : Option Fault}
    (stopsIn :
      StopsIn (machine.afterAll (schedule rate 0 earlier)) later final fault) :
    (run rate (earlier ++ later) machine).machine = final ∧
      (run rate (earlier ++ later) machine).fault = fault ∧
      (run rate (earlier ++ later) machine).executed.length =
        earlier.length := by
  have facts := runFrom_append completes later
  rw [runFrom_of_stopsIn stopsIn] at facts
  exact facts

variable {frames : List (List Event)}

/-- A run in which no cycle fails goes on to the first frame that ends it. -/
theorem run_of_succeeds
    {last : Nat}
    (isLast : last = frames.findIdx fun frame => frame.any Event.ends)
    (succeeds :
      ∀ place < last,
        ∀ fault,
          ¬ (machine.beforeCycle rate 0 frames place).FailsWith fault) :
    (run rate frames machine).machine =
        machine.afterAll
          (schedule rate 0 (frames.take last) ++
            keyMoves
              ((frames.getD last []).takeWhile fun event => !event.ends)) ∧
      (run rate frames machine).fault = none ∧
      (run rate frames machine).executed.length = last := by
  have inside : last ≤ frames.length := by
    rw [isLast]
    exact List.findIdx_le_length
  have ends :
      ∀ frame ∈ (frames.drop last).head?, frame.any Event.ends = true := by
    intro frame found
    rw [List.head?_drop, Option.mem_def, List.getElem?_eq_some_iff] at found
    obtain ⟨notBehind, rfl⟩ := found
    subst isLast
    have atFirst :=
      @List.findIdx_getElem _ (fun frame => frame.any Event.ends) frames
        notBehind
    exact atFirst
  have lastFrame : (frames.drop last).headD [] = frames.getD last [] := by
    rw [List.headD_eq_head?_getD, List.head?_drop,
      List.getD_eq_getElem?_getD]
  have completes := Machine.completes_take isLast.le succeeds
  have facts := run_append completes (.ends ends)
  rw [List.take_append_drop, List.length_take_of_le inside, lastFrame,
    ← Machine.afterAll_append] at facts
  exact facts

/-- A run of frames that are completed leads where their schedule does. -/
theorem machine_run_of_completes
    (completes : machine.Completes rate 0 frames) :
    (run rate frames machine).machine =
      machine.afterAll (schedule rate 0 frames) := by
  have facts := run_append completes (@StopsIn.ends _ [] nofun)
  rw [List.append_nil] at facts
  exact facts.1

/-- A run ends with the first cycle that fails. -/
theorem run_of_fails
    {failing : Nat}
    (beforeLast :
      failing < frames.findIdx fun frame => frame.any Event.ends)
    (succeeds :
      ∀ place < failing,
        ∀ fault,
          ¬ (machine.beforeCycle rate 0 frames place).FailsWith fault)
    {fault : Fault}
    (fails : (machine.beforeCycle rate 0 frames failing).FailsWith fault) :
    (run rate frames machine).machine =
        (machine.beforeCycle rate 0 frames failing).after .cycle ∧
      (run rate frames machine).fault = some fault ∧
      (run rate frames machine).executed.length = failing := by
  have inside : failing < frames.length :=
    Nat.lt_of_lt_of_le beforeLast List.findIdx_le_length
  have goesOn : frames[failing].any Event.ends = false :=
    List.not_of_lt_findIdx beforeLast
  have here :
      machine.beforeCycle rate 0 frames failing =
        (machine.afterAll (schedule rate 0 (frames.take failing))).afterAll
          (keyMoves frames[failing]) := by
    rw [Machine.beforeCycle, Machine.afterAll_append,
      List.getD_eq_getElem _ _ inside]
  rw [here] at fails
  have completes := Machine.completes_take beforeLast.le succeeds
  have facts :=
    run_append completes
      (@StopsIn.fails _ _ (frames.drop (failing + 1)) _ goesOn fails)
  rw [← List.drop_eq_getElem_cons inside, List.take_append_drop,
    List.length_take_of_le inside.le, ← here] at facts
  exact facts

/--
Either all cycles before the last frame succeed or there is a first one
that fails.
-/
theorem succeeds_or_exists_first_failure
    (seen : Nat → Machine)
    (last : Nat) :
    (∀ place < last, ∀ fault, ¬ (seen place).FailsWith fault) ∨
      ∃ failing < last,
        (∀ place < failing, ∀ fault, ¬ (seen place).FailsWith fault) ∧
          ∃ fault, (seen failing).FailsWith fault := by
  classical
  by_cases someFails : ∃ place < last, ∃ fault, (seen place).FailsWith fault
  · have ⟨before, fails⟩ := Nat.find_spec someFails
    refine Or.inr ⟨Nat.find someFails, before, ?_, fails⟩
    intro place earlier fault failsEarlier
    exact Nat.find_min someFails earlier
      ⟨earlier.trans before, fault, failsEarlier⟩
  · refine Or.inl fun place before fault fails => ?_
    exact someFails ⟨place, before, fault, fails⟩

end Session

open Machine in
/--
A run of the loop, up to the first frame that ends it or the first cycle that fails.

Until then it waits, executes and ticks as its schedule says, and each cycle
sees the keys of all frames up to its own. A timer is at any time what it was
set to last, less the ticks since then.
-/
theorem loop_follows_schedule
    (width height : Int)
    (wide : 1 ≤ width)
    (tall : 1 ≤ height)
    (random : RandomTape)
    (moves : List Move)
    (rate : Int)
    (frames : List (List Event)) :
    let chip := (fresh (Display.blank width height) random).afterAll moves
    let session := Session.run rate frames chip
    let waits := session.requests.filterMap Request.rate?
    let period := (max (rate / 60) 1).toNat
    let last := frames.findIdx fun frame => frame.any Event.ends
    let lastEvents :=
      (frames.getD last []).takeWhile fun event => !event.ends
    let history (count : Nat) := schedule rate 0 (frames.take count)
    let seen := chip.beforeCycle rate 0 frames
    ((∀ place < last, ∀ fault, ¬ (seen place).FailsWith fault) →
      session.fault = none ∧
        session.executed.length = last ∧
        waits = List.replicate (last + 1) rate ∧
        session.machine = chip.afterAll (history last ++ keyMoves lastEvents) ∧
        (history last).countP Move.isTick = last / period ∧
        session.machine.keypad =
          ((frames.take last).flatten ++ lastEvents).foldl Keypad.afterEvent
            chip.keypad) ∧
    (∀ failing < last,
      ∀ fault,
        (∀ place < failing, ∀ fault, ¬ (seen place).FailsWith fault) →
        (seen failing).FailsWith fault →
        session.fault = some fault ∧
          session.executed.length = failing ∧
          waits = List.replicate (failing + 1) rate ∧
          session.machine = (seen failing).after .cycle ∧
          (history failing).countP Move.isTick = failing / period) ∧
    (∀ place record,
      session.executed[place]? = some record →
      ∃ next, Action.cycle.run (seen place) = .ok record next) ∧
    (∀ place < last,
      (seen place).keypad =
        (frames.take (place + 1)).flatten.foldl Keypad.afterEvent
          chip.keypad) ∧
    (∀ count ≤ last,
      (∀ place < count, ∀ fault, ¬ (seen place).FailsWith fault) →
      (Session.run rate (frames.take count) chip).machine =
          chip.afterAll (history count) ∧
        ∀ timer,
          ((∀ place < count, ∀ x, (seen place).word ≠ timer.setWord x) →
            (chip.afterAll (history count)).timer timer =
              max 0 (chip.timer timer - (count / period : Nat))) ∧
          ∀ setting < count,
            ∀ x,
              (seen setting).word = timer.setWord x →
              (∀ place < count,
                setting < place →
                ∀ y, (seen place).word ≠ timer.setWord y) →
              (chip.afterAll (history count)).timer timer =
                max 0
                  ((((seen setting).registers.byte x).toNat : Int) -
                    ((count / period - setting / period : Nat) : Int))) := by
  intro chip session waits period last lastEvents history seen
  have bounded : chip.Bounded width height :=
    (Bounded.fresh wide tall random).afterAll moves
  have lastInside : last ≤ frames.length := List.findIdx_le_length
  have ticks {count : Nat} (inside : count ≤ frames.length) :
      (history count).countP Move.isTick = count / period := by
    have counted := countP_isTick_from_start rate (frames.take count)
    rw [List.length_take_of_le inside] at counted
    exact counted
  have course := Session.course_runFrom rate 0 chip frames
  have waited {count : Nat} (counted : session.executed.length = count) :
      waits = List.replicate (count + 1) rate := by
    rw [← counted]
    exact course.rates_requests
  refine ⟨?returns, ?fails, fun _ _ => course.ran_of_executed, ?keypads,
    ?timers⟩
  case returns =>
    intro succeeds
    obtain ⟨atEnd, noFault, counted⟩ := Session.run_of_succeeds rfl succeeds
    refine ⟨noFault, counted, waited counted, atEnd, ticks lastInside, ?_⟩
    calc
      session.machine.keypad
          = ((chip.afterAll (history last)).afterAll
              (keyMoves lastEvents)).keypad := by
            rw [← afterAll_append]
            exact congrArg Machine.keypad atEnd
      _ = lastEvents.foldl Keypad.afterEvent
            (chip.afterAll (history last)).keypad := by
            rw [afterAll_keyMoves]
      _ = ((frames.take last).flatten ++ lastEvents).foldl Keypad.afterEvent
            chip.keypad := by
            rw [List.foldl_append, keypad_afterAll_schedule bounded]
  case fails =>
    intro failing beforeLast fault succeeds fails
    obtain ⟨atEnd, raised, counted⟩ :=
      Session.run_of_fails beforeLast succeeds fails
    exact ⟨raised, counted, waited counted, atEnd,
      ticks (beforeLast.le.trans lastInside)⟩
  case keypads =>
    intro place beforeLast
    exact keypad_beforeCycle bounded (Nat.lt_of_lt_of_le beforeLast lastInside)
  case timers =>
    intro count atMost succeeds
    have inside : count ≤ frames.length := atMost.trans lastInside
    have sameLength : (frames.take count).length = count :=
      List.length_take_of_le inside
    have completes := completes_take atMost succeeds
    have seenSame (place : Nat) (before : place < count) :
        chip.beforeCycle rate 0 (frames.take count) place = seen place := by
      rw [← beforeCycle_append_left (frames.drop count) (by omega),
        List.take_append_drop]
    refine ⟨Session.machine_run_of_completes completes, fun timer => ⟨?_, ?_⟩⟩
    · intro notSet
      have counted :=
        timer_after_frames_of_ne timer bounded rate (frames.take count)
      rw [sameLength] at counted
      refine counted fun place before => ?_
      rw [seenSame place before]
      exact notSet place before
    · intro setting before x sets notSetAgain
      have fetched : (seen setting).programCounter < 4095 := by
        by_contra behind
        exact succeeds setting before _
          ⟨_, Action.run_cycle_of_le _ (Int.not_lt.mp behind)⟩
      have counted :=
        @timer_after_frames_of_eq width height chip timer bounded rate
          (frames.take count) setting
      rw [sameLength, seenSame setting before] at counted
      refine counted before fetched sets fun place inFront behind => ?_
      rw [seenSame place inFront]
      exact notSetAgain place inFront behind

/--
Three cycles of a machine that jumps to where it is, while a key is held
and let go.
-/
theorem loop_follows_schedule_of_endless_jump :
    (1 : Int) ≤ 64 ∧ (1 : Int) ≤ 32 ∧
      let chip :=
        (Machine.fresh (Display.blank 64 32) (RandomTape.start [])).afterAll
          [.load [0x12, 0x00]]
      let session :=
        Session.run 120
          [[.keyDown (.pad 5)], [], [],
            [.keyUp (.pad 5), .keyDown .escape, .keyDown (.pad 1)]]
          chip
      session.fault = none ∧
        session.executed.length = 3 ∧
        session.requests.filterMap Request.rate? = [120, 120, 120, 120] ∧
        session.machine.keypad.held = 0 ∧
        session.machine.keypad.lastPressed = 5 := by
  have wide : (1 : Int) ≤ 64 := by decide
  have tall : (1 : Int) ≤ 32 := by decide
  have idles :=
    @Machine.Idles.of_load
      (Machine.fresh (Display.blank 64 32) (RandomTape.start [])) rfl
  have completes :=
    idles.completes 120 0
      (by decide :
        ∀ frame ∈ [[Event.keyDown (.pad 5)], [], []],
          frame.any Event.ends = false)
  have facts :=
    loop_follows_schedule 64 32 wide tall (RandomTape.start [])
      [.load [0x12, 0x00]] 120
      [[.keyDown (.pad 5)], [], [],
        [.keyUp (.pad 5), .keyDown .escape, .keyDown (.pad 1)]]
  obtain ⟨noFault, counted, waited, -, -, keypad⟩ :=
    facts.1 fun place before => by
      have succeeds := completes.succeeds place before
      rw [← Machine.beforeCycle_append_left
        [[.keyUp (.pad 5), .keyDown .escape, .keyDown (.pad 1)]] before]
        at succeeds
      exact succeeds
  refine ⟨wide, tall, noFault, counted, waited, ?_, ?_⟩
  · exact congrArg Keypad.held keypad
  · exact congrArg Keypad.lastPressed keypad

end ChipEight
