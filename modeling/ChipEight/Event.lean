import ChipEight.Machine.State

namespace ChipEight

/-!
# Events

What the user does at the window: keys go down and up, and the window is
closed. Sixteen keys of the keyboard stand for the keys of the keypad; every
other event leaves the keypad as it is.
-/

/-- A key of the keyboard. -/
inductive Key where
  /-- A key that stands for a key of the keypad. -/
  | pad (key : Fin 16)
  /-- The escape key, which ends the session. -/
  | escape
  /-- Any other key. -/
  | other
  deriving DecidableEq, Repr

/-- What the user did. -/
inductive Event where
  | keyDown (key : Key)
  | keyUp (key : Key)
  /-- The window was closed. -/
  | quit
  /-- Something that the machine takes no notice of. -/
  | other
  deriving DecidableEq, Repr

namespace Key

/-- The names of the keyboard's keys for the keypad, by the keypad's numbers. -/
def padNames : List String :=
  ["0", "1", "2", "3", "4", "5", "6", "7", "8", "9", "a", "b", "c", "d", "e", "f"]

/-- The key with a name. -/
def ofName
    (name : String) :
    Key :=
  if name = "ESCAPE" then
    .escape
  else
    match (List.finRange 16).find? fun key => padNames[key]? = some name with
    | some key => .pad key
    | none => .other

end Key

namespace Event

/-- Whether an event ends the session. -/
def ends : Event → Bool
  | .quit => true
  | .keyDown .escape => true
  | _ => false

/-- Whether an event belongs to the keypad. -/
def isForKeypad : Event → Bool
  | .keyDown (.pad _) => true
  | .keyUp (.pad _) => true
  | _ => false

end Event

/-- The keypad after an event. -/
def Keypad.afterEvent
    (keypad : Keypad) :
    Event →
    Keypad
  | .keyDown (.pad key) => keypad.press key
  | .keyUp (.pad key) => keypad.release key
  | _ => keypad

/-- The machine after an event. -/
def Machine.afterEvent
    (machine : Machine)
    (event : Event) :
    Machine :=
  { machine with keypad := machine.keypad.afterEvent event }

end ChipEight
