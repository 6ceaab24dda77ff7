import ChipEight.Event
import ChipEight.Machine.Cycle

namespace ChipEight

/-!
# The emulation loop

The loop runs one machine cycle to a frame. A frame begins with waiting for the
clock; the events of the frame come next and may end the loop, then the cycle
runs, the display is shown if the cycle drew on it, and after every few cycles
the timers tick. After the last frame the window is closed.

The loop does not know the window. It records what it asked of it, and a window
that does what is recorded shows what the loop meant to show.
-/

/-- What the loop asks of the clock and the window. -/
inductive Request where
  /-- Wait until the next frame at a rate of frames in a second. -/
  | pace (rate : Int)
  /-- Paint a display. -/
  | paint (display : Display)
  /-- Make what was painted visible. -/
  | present

/-- What came of a run of the loop. -/
structure Session where
  machine : Machine
  /-- What was asked of the clock and the window, the earliest first. -/
  requests : List Request
  /-- The instructions executed, the earliest first. -/
  executed : List Executed
  /-- The fault that ended the loop, if it was not ended by the user. -/
  fault : Option Fault

namespace Machine

/--
The machine after the events of a frame, and whether one of them ended
the session.
-/
def afterFrame
    (machine : Machine) :
    List Event →
    Machine × Bool
  | [] => (machine, false)
  | event :: rest =>
      if event.ends then
        (machine, true)
      else
        (machine.afterEvent event).afterFrame rest

/-- What is asked of the window after a cycle. -/
def showRequests
    (machine : Machine) :
    List Request :=
  if machine.displayChanged then
    [.paint machine.display, .present]
  else
    []

end Machine

/-- The number of cycles between two ticks of the timers. -/
def tickPeriod
    (rate : Int) :
    Nat :=
  (max (rate / timerRate) 1).toNat

/-- There is at least one cycle between two ticks. -/
theorem tickPeriod_pos
    (rate : Int) :
    0 < tickPeriod rate := by
  simp only [tickPeriod]
  omega

/-- The machine when a number of cycles are completed, the latest just now. -/
def Machine.afterCycle
    (machine : Machine)
    (rate : Int)
    (cycles : Nat) :
    Machine :=
  if cycles % tickPeriod rate = 0 then
    machine.countDownTimers
  else
    machine

namespace Session

/-- A session in front of which a frame was run. -/
def after
    (later : Session)
    (requests : List Request)
    (executed : Executed) :
    Session :=
  { later with
    requests := requests ++ later.requests,
    executed := executed :: later.executed }

/-- The loop from a machine that has completed a number of cycles. -/
def runFrom
    (rate : Int)
    (cycles : Nat)
    (machine : Machine) :
    List (List Event) →
    Session
  | [] =>
      { machine := machine, requests := [.pace rate], executed := [], fault := none }
  | frame :: rest =>
      match machine.afterFrame frame with
      | (machine, true) =>
          { machine := machine, requests := [.pace rate], executed := [], fault := none }
      | (machine, false) =>
          match Action.cycle.run machine with
          | .error fault machine =>
              { machine := machine,
                requests := [.pace rate],
                executed := [],
                fault := some fault }
          | .ok executed machine =>
              (runFrom rate (cycles + 1) (machine.afterCycle rate (cycles + 1)) rest).after
                (.pace rate :: machine.showRequests)
                executed

/--
Run the loop on the events of the frames, and close the window after the
last of them.
-/
def run
    (rate : Int)
    (frames : List (List Event))
    (machine : Machine) :
    Session :=
  runFrom rate 0 machine frames

end Session

end ChipEight
