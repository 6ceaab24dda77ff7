import ChipEight.Proofs.Painting
import ChipEight.Proofs.Sessions
import ChipEight.Proofs.WriteSets

namespace ChipEight

/-!
# The window mirrors the display

A machine tells after each cycle whether it drew, and only then is its display
painted. That is often enough: no other cycle touches the display, nor does a
cycle that fails, nor anything that happens between two cycles. So a window that
shows the display when the loop begins shows it whenever the loop waits for the
clock and when it ends.
-/

namespace Window

/-- The window after some requests of the loop. -/
def afterRequests
    (window : Window)
    (requests : List Request) :
    Window :=
  requests.foldl afterRequest window

@[simp] theorem afterRequests_append
    (window : Window)
    (earlier later : List Request) :
    window.afterRequests (earlier ++ later) =
      (window.afterRequests earlier).afterRequests later :=
  List.foldl_append

/--
A window that shows the display of a machine, and can be painted with
its next one.
-/
structure Mirrors
    (window : Window)
    (machine : Machine) : Prop where
  positive :
    1 ≤ window.scale
  distinct :
    window.background ≠ window.foreground
  places :
    window.PlacesSquares machine.display.width.toNat
      machine.display.height.toNat
  shows :
    window.Shows machine.display

namespace Mirrors

variable {window : Window} {machine next : Machine}

theorem of_sameDisplay
    (mirrors : window.Mirrors machine)
    (sameDisplay : next.display = machine.display) :
    window.Mirrors next := by
  obtain ⟨positive, distinct, places, shows⟩ := mirrors
  rw [← sameDisplay] at places shows
  exact ⟨positive, distinct, places, shows⟩

/-- A display that is painted over another one of its size is mirrored. -/
theorem paint
    (mirrors : window.Mirrors machine)
    (sides :
      next.display.width = machine.display.width ∧
        next.display.height = machine.display.height) :
    window.Repainted (window.afterRequest (.paint next.display)) ∧
      (window.afterRequest (.paint next.display)).Mirrors next := by
  have places := mirrors.places
  rw [← sides.1, ← sides.2] at places
  obtain ⟨painted, ran, repainted, shows⟩ :=
    Painting.exists_run_paintDisplay mirrors.positive mirrors.distinct
      next.display places
  rw [afterRequest, after, ran]
  refine ⟨repainted, ?_, ?_, repainted.placesSquares places, shows⟩
  · rw [repainted.scale]
    exact mirrors.positive
  · rw [repainted.background, repainted.foreground]
    exact mirrors.distinct

end Mirrors

end Window

namespace Machine

variable {width height : Int} {machine next : Machine}

/-- Instructions that draw meet no obstacle. -/
theorem Obstacle.not_drawing
    {fault : Fault}
    {operation : Operation}
    {operands : Operands operation.format}
    (obstacle : machine.Obstacle fault operation operands) :
    operation ≠ .cls ∧ operation ≠ .drw := by
  constructor
  · rintro rfl
    cases operands
    exact obstacle
  · rintro rfl
    cases operands
    exact obstacle

/-! Only a cycle touches the display. -/

theorem display_after_load
    (machine : Machine)
    (program : List UInt8) :
    (machine.after (.load program)).display = machine.display := by
  obtain ⟨memory, loaded⟩ := Action.exists_load program machine
  rw [after, loaded]

theorem display_afterAll_keyMoves
    (machine : Machine)
    (events : List Event) :
    (machine.afterAll (keyMoves events)).display = machine.display := by
  rw [machine.afterAll_keyMoves]

theorem display_afterCycle
    (machine : Machine)
    (rate : Int)
    (cycles : Nat) :
    (machine.afterCycle rate cycles).display = machine.display := by
  rw [afterCycle]
  split <;> rfl

/-- A cycle that fails leaves the display alone. -/
theorem display_after_failing_cycle
    (bounded : machine.Bounded width height)
    {fault : Fault}
    (fails : machine.FailsWith fault) :
    (machine.after .cycle).display = machine.display := by
  rcases Action.stops_or_decodes machine bounded.programCounter.1 with
    ⟨refusal, stopped⟩ | ⟨inside, instruction, decoded⟩
  · rw [after, stopped]
    rfl
  · rcases Action.outcome_cycle bounded inside decoded with
      ⟨next, succeeded, -⟩ | ⟨found, stopped, failed, spared, obstacle⟩
    · obtain ⟨stopped, failed⟩ := fails
      rw [succeeded] at failed
      cases failed
    · obtain ⟨notCls, notDrw⟩ := obstacle.not_drawing
      rw [after, failed]
      exact spared.display notCls notDrw

/-- What is asked of the window after an instruction that was executed. -/
def requestsAfter
    (machine : Machine)
    (executed : Executed) :
    List Request :=
  if executed.instruction.operation = .cls ∨
      executed.instruction.operation = .drw then
    [.paint machine.display, .present]
  else
    []

/-- A cycle shows the display exactly when it executed an instruction that draws. -/
theorem showRequests_eq
    (bounded : machine.Bounded width height)
    {executed : Executed}
    (ran : Action.cycle.run machine = .ok executed next) :
    next.showRequests = next.requestsAfter executed := by
  obtain ⟨-, -, confined⟩ := bounded.confined_of_run ran
  simp only [showRequests, requestsAfter, confined.displayChanged]

/-- What a cycle asks of the window keeps it a mirror. -/
theorem mirrors_after_cycle
    (bounded : machine.Bounded width height)
    {executed : Executed}
    (ran : Action.cycle.run machine = .ok executed next)
    {window : Window}
    (mirrors : window.Mirrors machine) :
    window.Repainted (window.afterRequests next.showRequests) ∧
      (window.afterRequests next.showRequests).Mirrors next := by
  obtain ⟨-, spared, -⟩ := bounded.confined_of_run ran
  rw [showRequests_eq bounded ran, requestsAfter]
  split
  · exact mirrors.paint spared.sides
  · next notDrawing =>
      obtain ⟨notCls, notDrw⟩ := not_or.mp notDrawing
      exact ⟨.refl window,
        mirrors.of_sameDisplay (spared.display notCls notDrw)⟩

end Machine

namespace Session

variable {width height : Int} {machine : Machine} {rate : Int} {cycles : Nat}
  {frames : List (List Event)} {session : Session}

/-- A run stops without touching the display. -/
theorem StopsIn.sameDisplay
    (bounded : machine.Bounded width height)
    {final : Machine}
    {fault : Option Fault}
    (stopsIn : StopsIn machine frames final fault) :
    final.display = machine.display := by
  cases stopsIn with
  | ends ends => exact machine.display_afterAll_keyMoves _
  | fails keeps fails =>
      rw [Machine.display_after_failing_cycle (bounded.afterAll _) fails,
        Machine.display_afterAll_keyMoves]

/--
The first time that the clock is waited for is behind what a cycle asks
of the window.
-/
theorem exists_behind_showRequests
    {next : Machine}
    {earlier later rest : List Request}
    {asked : Int}
    (waits :
      next.showRequests ++ rest = earlier ++ .pace asked :: later) :
    ∃ behind,
      earlier = next.showRequests ++ behind ∧
        rest = behind ++ .pace asked :: later := by
  rcases List.append_eq_append_iff.mp waits with
    behind | ⟨shown, isPart, isRest⟩
  · exact behind
  · cases shown with
    | nil => exact ⟨[], by simpa using isPart.symm, isRest.symm⟩
    | cons request others =>
        obtain ⟨rfl, -⟩ := List.cons.inj isRest
        have noRates := rates_showRequests next
        rw [isPart] at noRates
        simp [Request.rate?] at noRates

namespace Course

/--
A window that mirrors a machine when a run begins mirrors it when the run ends.
-/
theorem mirrors
    (course : Course rate cycles machine frames session)
    (bounded : machine.Bounded width height)
    {window : Window}
    (mirrored : window.Mirrors machine) :
    window.Repainted (window.afterRequests session.requests) ∧
      (window.afterRequests session.requests).Mirrors session.machine := by
  induction course generalizing window with
  | stops stopsIn =>
      exact ⟨.refl window,
        mirrored.of_sameDisplay (stopsIn.sameDisplay bounded)⟩
  | @goesOn cycles machine next frame rest executed later keeps ran course
      inductionHypothesis =>
      have beforeCycle : window.Mirrors (machine.afterAll (keyMoves frame)) :=
        mirrored.of_sameDisplay (machine.display_afterAll_keyMoves frame)
      have ⟨repainted, afterCycle⟩ :=
        Machine.mirrors_after_cycle (bounded.afterAll _) ran beforeCycle
      have behindFrame :
          (window.afterRequests next.showRequests).Mirrors
            (machine.afterAll (frameMoves rate cycles frame)) := by
        rw [Machine.afterAll_frameMoves_of_ok ran]
        exact afterCycle.of_sameDisplay (next.display_afterCycle _ _)
      have ⟨repaintedLater, atEnd⟩ :=
        inductionHypothesis (bounded.afterAll _) behindFrame
      have inTurn :
          window.afterRequests
              (later.after (.pace rate :: next.showRequests) executed).requests =
            (window.afterRequests next.showRequests).afterRequests
              later.requests :=
        window.afterRequests_append (.pace rate :: next.showRequests)
          later.requests
      rw [inTurn]
      exact ⟨repainted.trans repaintedLater, atEnd⟩

/--
A run waits in every frame, and shows the display after each instruction
that draws.
-/
theorem requests_eq
    (course : Course rate cycles machine frames session)
    (bounded : machine.Bounded width height) :
    session.requests =
      (session.executed.mapIdx fun place record =>
          .pace rate ::
            ((machine.beforeCycle rate cycles frames place).after
              .cycle).requestsAfter record).flatten ++
        [.pace rate] := by
  induction course with
  | stops stopsIn => rfl
  | @goesOn cycles machine next frame rest executed later keeps ran course
      inductionHypothesis =>
      have afterFirst :
          (machine.beforeCycle rate cycles (frame :: rest) 0).after .cycle =
            next := by
        change (machine.afterAll (keyMoves frame)).after .cycle = next
        rw [Machine.after, ran, machineOf]
      have first := Machine.showRequests_eq (bounded.afterAll _) ran
      simp only [after, List.mapIdx_cons, List.flatten_cons, afterFirst,
        Machine.beforeCycle_cons, ← first, List.append_assoc,
        ← inductionHypothesis (bounded.afterAll _)]

/-- Where a run waits for the clock is where the run of the frames so far ends. -/
theorem runFrom_take
    (course : Course rate cycles machine frames session)
    {earlier later : List Request}
    {asked : Int}
    (waits : session.requests = earlier ++ .pace asked :: later) :
    let count := (earlier.filterMap Request.rate?).length
    (runFrom rate cycles machine (frames.take count)).requests =
        earlier ++ [.pace asked] ∧
      (runFrom rate cycles machine (frames.take count)).machine =
        machine.afterAll (schedule rate cycles (frames.take count)) := by
  induction course generalizing earlier with
  | stops stopsIn =>
      obtain ⟨rfl, rfl, rfl⟩ : earlier = [] ∧ asked = rate ∧ later = [] := by
        cases earlier with
        | nil => simpa using waits.symm
        | cons => simp at waits
      exact ⟨rfl, rfl⟩
  | @goesOn cycles machine next frame rest executed session keeps ran course
      inductionHypothesis =>
      cases earlier with
      | nil =>
          obtain ⟨isPace, -⟩ := List.cons.inj waits
          rw [← isPace]
          exact ⟨rfl, rfl⟩
      | cons first earlier =>
          obtain ⟨rfl, behindPace⟩ := List.cons.inj waits
          obtain ⟨behind, rfl, inRest⟩ := exists_behind_showRequests behindPace
          have ⟨sameRequests, sameMachine⟩ := inductionHypothesis inRest
          simp only [List.filterMap_cons, Request.rate?, List.filterMap_append,
            rates_showRequests, List.nil_append, List.length_cons,
            List.take_succ_cons]
          rw [runFrom_of_ok keeps ran, after, sameRequests, sameMachine,
            schedule, Machine.afterAll_append]
          exact ⟨by simp, rfl⟩

end Course

end Session

/-- A single frame without an event executes a single instruction. -/
theorem Session.executed_run_single
    {machine next : Machine}
    {executed : Executed}
    (rate : Int)
    (ran : Action.cycle.run machine = .ok executed next) :
    (run rate [[]] machine).executed = [executed] := by
  have ranBehindKeys :
      Action.cycle.run (machine.afterAll (keyMoves [])) = .ok executed next :=
    ran
  rw [run, runFrom_of_ok rfl ranBehindKeys]
  rfl

open Machine in
/--
A window that shows the display when the loop begins never falls behind it.

Whenever the loop waits for the clock it has come as far as the frames until
then take it, and the window shows the display of the machine there; so it does
when the loop ends, by the user or by a fault. The display is painted once for
every instruction that draws, right after it, and for no other instruction. The
window may have any surface, as long as the window system places the squares of
the display where they belong. By `Window.placesSquares_of_lt` it does so for
every window whose sides in pixels are signed 32-bit numbers.
-/
theorem window_is_never_stale
    (width height : Int)
    (wide : 1 ≤ width)
    (tall : 1 ≤ height)
    (random : RandomTape)
    (moves : List Move)
    (rate : Int)
    (frames : List (List Event))
    (window : Window)
    (positive : 1 ≤ window.scale)
    (distinct : window.background ≠ window.foreground)
    (places : window.PlacesSquares width.toNat height.toNat) :
    let chip := (fresh (Display.blank width height) random).afterAll moves
    let session := Session.run rate frames chip
    let seen := chip.beforeCycle rate 0 frames
    window.Shows chip.display →
    (∀ earlier later asked,
      session.requests = earlier ++ .pace asked :: later →
      let screen := window.afterRequests earlier
      let count := (earlier.filterMap Request.rate?).length
      let reached := Session.run rate (frames.take count) chip
      reached.requests = earlier ++ [.pace asked] ∧
        reached.machine =
          chip.afterAll (schedule rate 0 (frames.take count)) ∧
        window.Repainted screen ∧
        screen.Shows reached.machine.display) ∧
    window.Repainted (window.afterRequests session.requests) ∧
    (window.afterRequests session.requests).Shows session.machine.display ∧
    (∀ place record,
      session.executed[place]? = some record →
      ∃ next, Action.cycle.run (seen place) = .ok record next) ∧
    session.requests =
      (session.executed.mapIdx fun place record =>
          .pace rate ::
            if record.instruction.operation = .cls ∨
                record.instruction.operation = .drw then
              [.paint ((seen place).after .cycle).display, .present]
            else
              []).flatten ++
        [.pace rate] := by
  intro chip session seen shows
  have bounded : chip.Bounded width height :=
    (Bounded.fresh wide tall random).afterAll moves
  have mirrored : window.Mirrors chip := by
    refine ⟨positive, distinct, ?_, shows⟩
    rw [bounded.display.1, bounded.display.2]
    exact places
  have course := Session.course_runFrom rate 0 chip frames
  have ⟨repainted, atEnd⟩ := course.mirrors bounded mirrored
  refine ⟨?waits, repainted, atEnd.shows, fun _ _ => course.ran_of_executed,
    course.requests_eq bounded⟩
  case waits =>
    intro earlier later asked waits screen count reached
    have ⟨sameRequests, sameMachine⟩ := course.runFrom_take waits
    have ⟨repainted, atWait⟩ :=
      (Session.course_runFrom rate 0 chip (frames.take count)).mirrors
        bounded mirrored
    -- Waiting for the clock leaves the window alone.
    rw [sameRequests, Window.afterRequests_append] at repainted atWait
    exact ⟨sameRequests, sameMachine, repainted, atWait.shows⟩

/-- A program that draws the top of a zero on a window of the usual size. -/
theorem window_is_never_stale_of_top_of_zero :
    let chip :=
      (Machine.fresh (Display.blank 64 32) (RandomTape.start [])).afterAll
        [.load [0xD0, 0x01]]
    (1 : Int) ≤ 64 ∧ (1 : Int) ≤ 32 ∧
      ∃ window,
        Window.create 64 32 defaultScale defaultBackground defaultForeground =
            .ok window ∧
          1 ≤ window.scale ∧
          window.background ≠ window.foreground ∧
          window.PlacesSquares 64 32 ∧
          window.Shows chip.display ∧
          (window.afterRequests (Session.run 60 [[]] chip).requests).Shows
            (Session.run 60 [[]] chip).machine.display ∧
          ∃ drawn,
            (Session.run 60 [[]] chip).requests =
              [.pace 60, .paint drawn, .present, .pace 60] := by
  intro chip
  have wide : (1 : Int) ≤ 64 := by decide
  have tall : (1 : Int) ≤ 32 := by decide
  have bounded : chip.Bounded 64 32 :=
    (Machine.Bounded.fresh wide tall _).afterAll [.load [0xD0, 0x01]]
  have inside : chip.programCounter < 4095 := by
    have atStart : chip.programCounter = programStart :=
      Machine.programCounter_after_load_pair _ 0xD0 0x01
    rw [atStart]
    decide
  have decoded :
      Instruction.decode chip.word = .ok ⟨.drw, .sprite 0 0 1⟩ :=
    (Instruction.decode_eq_drw_iff chip.word_lt ⟨0, by decide⟩ ⟨0, by decide⟩
      ⟨1, by decide⟩).mpr
      (Machine.word_after_load_pair _ rfl 0xD0 0x01)
  have blank : chip.display = Display.blank 64 32 :=
    Machine.display_after_load _ [0xD0, 0x01]
  obtain ⟨window, created, positive, distinct, places⟩ :
      ∃ window,
        Window.create 64 32 defaultScale defaultBackground defaultForeground =
            .ok window ∧
          1 ≤ window.scale ∧
          window.background ≠ window.foreground ∧
          window.PlacesSquares 64 32 := by
    refine ⟨_, rfl, by decide, by decide, ?_⟩
    exact Window.placesSquares_of_lt (by decide) (by decide) (by decide)
  have shows : window.Shows chip.display := by
    rw [blank]
    exact Window.shows_blank_of_create (by decide) created 64 32
  obtain ⟨-, -, shown, -, requests⟩ :=
    window_is_never_stale 64 32 wide tall (RandomTape.start [])
      [.load [0xD0, 0x01]] 60 [[]] window positive distinct places shows
  refine ⟨wide, tall, window, created, positive, distinct, places, shows, ?_,
    ?_⟩
  · with_reducible exact shown
  · rcases Action.outcome_cycle bounded inside decoded with
      ⟨next, ran, -⟩ | ⟨fault, stopped, -, -, obstacle⟩
    · rw [Session.executed_run_single 60 ran] at requests
      exact ⟨_, requests⟩
    · exact obstacle.elim

end ChipEight
