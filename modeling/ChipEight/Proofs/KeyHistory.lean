import ChipEight.Event
import ChipEight.Proofs.Drawing
import ChipEight.Proofs.Histories

namespace ChipEight

/-!
# The keypad and its events

The keypad keeps a bit for each key and the key pressed last. Whatever events
there were, a key is held exactly when the last event that was about it pressed
it; events of other keys, and events that are about no key of the keypad, have
no part in it. So the order of events matters only key by key.
-/

/-! The bits of the keys that are held. -/

/--
Adding the number of a bit that is not set sets it, and leaves the others alone.
-/
theorem testBit_add_two_pow
    {value place : Nat}
    (unset : value.testBit place = false)
    (other : Nat) :
    (value + 2 ^ place).testBit other =
      (value.testBit other || decide (other = place)) := by
  -- Halving takes the lowest bit off both numbers, until the place is reached.
  induction place generalizing value other with
  | zero =>
      have even : value % 2 = 0 := by
        simpa [Nat.testBit_zero] using unset
      rw [Nat.pow_zero]
      cases other with
      | zero =>
          have odd : (value + 1) % 2 = 1 := by
            omega
          simp [Nat.testBit_zero, odd]
      | succ other =>
          have sameHalf : (value + 1) / 2 = value / 2 := by
            omega
          simp [Nat.testBit_add_one, sameHalf]
  | succ place inductionHypothesis =>
      cases other with
      | zero =>
          have sameParity : (value + 2 ^ (place + 1)) % 2 = value % 2 := by
            omega
          simp [Nat.testBit_zero, sameParity]
      | succ other =>
          have half :
              (value + 2 ^ (place + 1)) / 2 = value / 2 + 2 ^ place := by
            omega
          rw [Nat.testBit_add_one] at unset
          rw [Nat.testBit_add_one, half, inductionHypothesis unset,
            Nat.testBit_add_one]
          simp

/--
Subtracting the number of a bit that is set takes it away, and leaves
the others alone.
-/
theorem testBit_sub_two_pow
    {value place : Nat}
    (isSet : value.testBit place = true)
    (other : Nat) :
    (value - 2 ^ place).testBit other =
      (value.testBit other && decide (other ≠ place)) := by
  have large : 2 ^ place ≤ value := Nat.ge_two_pow_of_testBit isSet
  obtain ⟨rest, rfl⟩ := Nat.exists_eq_add_of_le large
  have unset : rest.testBit place = false := by
    rw [Nat.testBit_two_pow_add_eq] at isSet
    simpa using isSet
  rw [Nat.add_sub_cancel_left, Nat.add_comm, testBit_add_two_pow unset]
  by_cases same : other = place
  · simp [same, unset]
  · simp [same]

namespace Keypad

variable {keypad : Keypad}

theorem isHeld_eq_testBit
    (keypad : Keypad)
    (key : Nat) :
    keypad.isHeld key = keypad.held.testBit key :=
  Display.bit_eq_testBit keypad.held key

theorem bitOf_eq
    (key : Nat) :
    bitOf key = ((2 ^ key : Nat) : Int) := by
  rw [bitOf, Nat.one_shiftLeft]

/-- The keys that are held are the bits of a natural number. -/
theorem isHeld_of_held_eq
    {bits : Nat}
    (isBits : keypad.held = bits)
    (key : Nat) :
    keypad.isHeld key = bits.testBit key := by
  rw [isHeld_eq_testBit, isBits]
  rfl

/-- After a key was pressed it is held, and every other one is held as before. -/
theorem isHeld_press
    (lower : 0 ≤ keypad.held)
    (key place : Nat) :
    (keypad.press key).isHeld place = true ↔
      place = key ∨ keypad.isHeld place = true := by
  obtain ⟨bits, isBits⟩ := Int.eq_ofNat_of_zero_le lower
  by_cases isHeld : keypad.isHeld key = true
  · have sameBits : (keypad.press key).isHeld place = keypad.isHeld place := by
      simp only [press, isHeld, ↓reduceIte, isHeld_eq_testBit]
    rw [sameBits]
    constructor
    · exact Or.inr
    · rintro (rfl | stillHeld)
      · exact isHeld
      · exact stillHeld
  · have unset : bits.testBit key = false := by
      rw [← isHeld_of_held_eq isBits]
      exact Bool.eq_false_iff.mpr isHeld
    have added : (keypad.press key).held = ((bits + 2 ^ key : Nat) : Int) := by
      simp only [press, isHeld, Bool.false_eq_true, ↓reduceIte, isBits,
        bitOf_eq, Int.natCast_add]
    rw [isHeld_of_held_eq added, isHeld_of_held_eq isBits,
      testBit_add_two_pow unset, Bool.or_eq_true, decide_eq_true_eq, or_comm]

/-- After a key was let go it is not held, and every other one is held as before. -/
theorem isHeld_release
    (lower : 0 ≤ keypad.held)
    (key place : Nat) :
    (keypad.release key).isHeld place = true ↔
      place ≠ key ∧ keypad.isHeld place = true := by
  obtain ⟨bits, isBits⟩ := Int.eq_ofNat_of_zero_le lower
  by_cases isHeld : keypad.isHeld key = true
  · have isSet : bits.testBit key = true := by
      rw [← isHeld_of_held_eq isBits]
      exact isHeld
    have large : 2 ^ key ≤ bits := Nat.ge_two_pow_of_testBit isSet
    have removed :
        (keypad.release key).held = ((bits - 2 ^ key : Nat) : Int) := by
      simp only [release, isHeld, ↓reduceIte, isBits, bitOf_eq]
      omega
    rw [isHeld_of_held_eq removed, isHeld_of_held_eq isBits,
      testBit_sub_two_pow isSet, Bool.and_eq_true, decide_eq_true_eq, and_comm]
  · have sameKeypad : keypad.release key = keypad := by
      simp only [release, isHeld, Bool.false_eq_true, ↓reduceIte]
    rw [sameKeypad]
    constructor
    · intro stillHeld
      refine ⟨?_, stillHeld⟩
      rintro rfl
      exact isHeld stillHeld
    · exact And.right

end Keypad

/-! What the events say about a key. -/

namespace Event

/-- The key of the keypad that an event is about, if it is about one. -/
def padKey? : Event → Option (Fin 16)
  | .keyDown (.pad key) => some key
  | .keyUp (.pad key) => some key
  | _ => none

/-- The key of the keypad that an event presses, if it presses one. -/
def pressed? : Event → Option (Fin 16)
  | .keyDown (.pad key) => some key
  | _ => none

/-- The events that are about a key, in order. -/
def eventsOf
    (key : Fin 16)
    (events : List Event) :
    List Event :=
  events.filter fun event => event.padKey? = some key

/-- Whether the last event that is about a key pressed it. -/
def IsDown
    (key : Fin 16)
    (events : List Event) :
    Prop :=
  (eventsOf key events).getLast? = some (.keyDown (.pad key))

variable {key : Fin 16} {events : List Event} {event : Event}

theorem isDown_append_of_eq
    (isAbout : event.padKey? = some key) :
    IsDown key (events ++ [event]) ↔ event = .keyDown (.pad key) := by
  simp [IsDown, eventsOf, List.filter_append, isAbout]

theorem isDown_append_of_ne
    (isNotAbout : event.padKey? ≠ some key) :
    IsDown key (events ++ [event]) ↔ IsDown key events := by
  simp [IsDown, eventsOf, List.filter_append, isNotAbout]

/-- The events that belong to the keypad are about its keys. -/
theorem isForKeypad_eq
    (event : Event) :
    event.isForKeypad = event.padKey?.isSome := by
  cases event with
  | keyDown key => cases key <;> rfl
  | keyUp key => cases key <;> rfl
  | quit => rfl
  | other => rfl

/-- An event that is about a key presses it or lets it go. -/
theorem padKey?_eq_some_iff
    (event : Event)
    (key : Fin 16) :
    event.padKey? = some key ↔
      event = .keyDown (.pad key) ∨ event = .keyUp (.pad key) := by
  cases event with
  | keyDown key => cases key <;> simp [padKey?]
  | keyUp key => cases key <;> simp [padKey?]
  | quit => simp [padKey?]
  | other => simp [padKey?]

end Event

namespace Keypad

open Event

/-- The keypad after some events, on which nothing was ever pressed before. -/
def afterEvents
    (events : List Event) :
    Keypad :=
  events.foldl afterEvent untouched

theorem afterEvents_append
    (events : List Event)
    (event : Event) :
    afterEvents (events ++ [event]) = (afterEvents events).afterEvent event := by
  rw [afterEvents, List.foldl_append, ← afterEvents]
  rfl

/-- An event that is about no key of the keypad leaves it as it is. -/
theorem afterEvent_of_padKey?_eq_none
    {event : Event}
    (isNone : event.padKey? = none)
    (keypad : Keypad) :
    keypad.afterEvent event = keypad := by
  cases event with
  | keyDown key => cases key <;> first | rfl | cases isNone
  | keyUp key => cases key <;> first | rfl | cases isNone
  | quit => rfl
  | other => rfl

theorem Bounded.afterEvents
    (events : List Event) :
    (afterEvents events).Bounded := by
  induction events using List.reverseRecOn with
  | nil => exact .untouched
  | append_singleton events event inductionHypothesis =>
      rw [afterEvents_append]
      cases about : event.padKey? with
      | none =>
          rw [afterEvent_of_padKey?_eq_none about]
          exact inductionHypothesis
      | some key =>
          rcases (event.padKey?_eq_some_iff key).mp about with rfl | rfl
          · exact inductionHypothesis.press key
          · exact inductionHypothesis.release key

/-- A key is held exactly when the last event that was about it pressed it. -/
theorem isHeld_afterEvents
    (events : List Event)
    (key : Fin 16) :
    (afterEvents events).isHeld key = true ↔ IsDown key events := by
  -- The last event either is about the key and decides alone, or spares its bit.
  induction events using List.reverseRecOn with
  | nil => simp [afterEvents, untouched, isHeld, IsDown, eventsOf]
  | append_singleton events event inductionHypothesis =>
      have lower := (Bounded.afterEvents events).held.1
      rw [afterEvents_append]
      by_cases isAbout : event.padKey? = some key
      · rw [isDown_append_of_eq isAbout]
        rcases (event.padKey?_eq_some_iff key).mp isAbout with rfl | rfl
        · simp [afterEvent, isHeld_press lower]
        · simp [afterEvent, isHeld_release lower]
      · rw [isDown_append_of_ne isAbout, ← inductionHypothesis]
        cases about : event.padKey? with
        | none => rw [afterEvent_of_padKey?_eq_none about]
        | some changed =>
            have other : (key : Nat) ≠ changed := by
              rintro same
              rw [about, Fin.ext same] at isAbout
              exact isAbout rfl
            rcases (event.padKey?_eq_some_iff changed).mp about with rfl | rfl
            · simp [afterEvent, isHeld_press lower, other]
            · simp [afterEvent, isHeld_release lower, other]

/-- No bit is set but those of the sixteen keys. -/
theorem not_isHeld_of_le
    {keypad : Keypad}
    (bounded : keypad.Bounded)
    {place : Nat}
    (outside : 16 ≤ place) :
    keypad.isHeld place = false := by
  have ⟨lower, upper⟩ := bounded.held
  obtain ⟨bits, isBits⟩ := Int.eq_ofNat_of_zero_le lower
  have small : bits < 2 ^ place :=
    calc
      bits < 2 ^ 16 := by omega
      _ ≤ 2 ^ place := Nat.pow_le_pow_right (by decide) outside
  rw [isHeld_of_held_eq isBits]
  exact Nat.testBit_lt_two_pow small

/-- The key pressed last is that of the last event that pressed one. -/
theorem lastPressed_afterEvents
    (events : List Event) :
    (afterEvents events).lastPressed =
      match (events.filterMap pressed?).getLast? with
      | some key => ((key : Nat) : Int)
      | none => -1 := by
  induction events using List.reverseRecOn with
  | nil => rfl
  | append_singleton events event inductionHypothesis =>
      rw [afterEvents_append, List.filterMap_append, List.getLast?_append]
      cases event with
      | keyDown key =>
          cases key with
          | pad key => rfl
          | escape => exact inductionHypothesis
          | other => exact inductionHypothesis
      | keyUp key => cases key <;> exact inductionHypothesis
      | quit => exact inductionHypothesis
      | other => exact inductionHypothesis

/-- A number is that of a key which is held exactly when the events say so. -/
theorem isHeld_afterEvents_iff
    (events : List Event)
    (number : Nat) :
    (afterEvents events).isHeld number = true ↔
      ∃ key : Fin 16, (key : Nat) = number ∧ IsDown key events := by
  constructor
  · intro isHeld
    have inside : number < 16 := by
      by_contra outside
      rw [not_isHeld_of_le (.afterEvents events) (Nat.not_lt.mp outside)]
        at isHeld
      cases isHeld
    exact ⟨⟨number, inside⟩, rfl,
      (isHeld_afterEvents events ⟨number, inside⟩).mp isHeld⟩
  · rintro ⟨key, rfl, isDown⟩
    exact (isHeld_afterEvents events key).mpr isDown

/-- The keys that are held are told by the events key by key. -/
theorem held_afterEvents_congr
    {events others : List Event}
    (same : ∀ key, eventsOf key events = eventsOf key others) :
    (afterEvents events).held = (afterEvents others).held := by
  obtain ⟨bits, isBits⟩ :=
    Int.eq_ofNat_of_zero_le (Bounded.afterEvents events).held.1
  obtain ⟨otherBits, isOtherBits⟩ :=
    Int.eq_ofNat_of_zero_le (Bounded.afterEvents others).held.1
  have sameBits (place : Nat) :
      bits.testBit place = otherBits.testBit place := by
    rw [← isHeld_of_held_eq isBits, ← isHeld_of_held_eq isOtherBits,
      Bool.eq_iff_iff, isHeld_afterEvents_iff, isHeld_afterEvents_iff]
    simp only [IsDown, same]
  rw [isBits, isOtherBits, Nat.eq_of_testBit_eq sameBits]

end Keypad

/-- The keys of the keypad are named by their hexadecimal digits. -/
theorem Key.ofName_eq_pad_iff
    (name : String)
    (key : Fin 16) :
    ofName name = .pad key ↔
      name = String.singleton (Nat.digitChar key) := by
  have byDigit :
      ∀ key : Fin 16,
        padNames[key]? = some (String.singleton (Nat.digitChar key)) := by
    decide
  constructor
  · intro isPad
    rw [ofName] at isPad
    split at isPad
    · cases isPad
    · split at isPad
      · next found =>
          have named := List.find?_some found
          cases isPad
          rw [byDigit, decide_eq_true_eq, Option.some.injEq] at named
          exact named.symm
      · cases isPad
  · rintro rfl
    revert key
    decide

namespace Action

variable {machine : Machine}

/-- A skip that waits for a key goes on by twice as much when the key is held. -/
theorem run_cycle_of_skp
    (lower : 0 ≤ machine.programCounter)
    (inside : machine.programCounter < 4095)
    {x : Fin registerCount}
    (atWord : machine.word = 0xE09E + 0x100 * x) :
    cycle.run machine =
      .ok
        { address := machine.programCounter,
          instruction := ⟨.skp, .register (x : Nat)⟩ }
        { machine.settled with
          programCounter :=
            machine.programCounter +
              if machine.keypad.isHeld (machine.registers.byte x).toNat then
                4
              else
                2 } := by
  have decoded :=
    (Instruction.decode_eq_skp_iff machine.word_lt x).mpr atWord
  rw [run_cycle_of_decoded machine lower inside decoded, run_skp]
  rfl

theorem run_cycle_of_sknp
    (lower : 0 ≤ machine.programCounter)
    (inside : machine.programCounter < 4095)
    {x : Fin registerCount}
    (atWord : machine.word = 0xE0A1 + 0x100 * x) :
    cycle.run machine =
      .ok
        { address := machine.programCounter,
          instruction := ⟨.sknp, .register (x : Nat)⟩ }
        { machine.settled with
          programCounter :=
            machine.programCounter +
              if machine.keypad.isHeld (machine.registers.byte x).toNat then
                2
              else
                4 } := by
  have decoded :=
    (Instruction.decode_eq_sknp_iff machine.word_lt x).mpr atWord
  rw [run_cycle_of_decoded machine lower inside decoded, run_sknp]
  rfl

end Action

open Event Keypad in
/--
The keypad is what the events made of it, key by key.

After any events that begin with an untouched keypad, a bit is set exactly if it
is that of a key which the last event about it pressed. Events about no key,
pressing a key that is held, and letting go one that is not, leave the keys as
they are; and so does changing the order of events of different keys. The skips
that ask for a key go by the same events, whatever number is in the register.
-/
theorem keypad_follows_events
    (events : List Event) :
    let keypad := events.foldl Keypad.afterEvent Keypad.untouched
    (∀ place : Nat,
      keypad.held.testBit place = true ↔
        ∃ key : Fin 16, (key : Nat) = place ∧ IsDown key events) ∧
    (keypad.lastPressed =
      match (events.filterMap pressed?).getLast? with
      | some key => ((key : Nat) : Int)
      | none => -1) ∧
    (∀ event : Event,
      event.isForKeypad = true ↔
        ∃ key, event = .keyDown (.pad key) ∨ event = .keyUp (.pad key)) ∧
    (∀ name key,
      Key.ofName name = .pad key ↔
        name = String.singleton (Nat.digitChar key)) ∧
    (∀ event : Event,
      event.isForKeypad = false →
      keypad.afterEvent event = keypad) ∧
    (∀ key,
      IsDown key events →
      (keypad.afterEvent (.keyDown (.pad key))).held = keypad.held) ∧
    (∀ key,
      ¬ IsDown key events →
      keypad.afterEvent (.keyUp (.pad key)) = keypad) ∧
    (∀ others,
      (∀ key, eventsOf key events = eventsOf key others) →
      (others.foldl Keypad.afterEvent Keypad.untouched).held = keypad.held) ∧
    ∀ (machine : Machine) (x : Fin registerCount),
      machine.keypad = keypad →
      0 ≤ machine.programCounter →
      machine.programCounter < 4095 →
      let number := (machine.registers.byte x).toNat
      let held := ∃ key : Fin 16, (key : Nat) = number ∧ IsDown key events
      let goesBy (distance : Int) :=
        ∃ executed,
          Action.cycle.run machine =
            .ok executed
              { machine.settled with
                programCounter := machine.programCounter + distance }
      (machine.word = 0xE09E + 0x100 * x →
        (held → goesBy 4) ∧ (¬ held → goesBy 2)) ∧
      (machine.word = 0xE0A1 + 0x100 * x →
        (held → goesBy 2) ∧ (¬ held → goesBy 4)) := by
  intro keypad
  refine ⟨?bits, lastPressed_afterEvents events, ?belongs,
    Key.ofName_eq_pad_iff, ?foreign, ?pressed, ?released, ?reordered, ?skips⟩
  case bits =>
    intro place
    rw [← isHeld_eq_testBit]
    exact isHeld_afterEvents_iff events place
  case belongs =>
    intro event
    rw [isForKeypad_eq, Option.isSome_iff_exists]
    exact exists_congr event.padKey?_eq_some_iff
  case foreign =>
    intro event isNot
    rw [isForKeypad_eq, Option.isSome_eq_false_iff, Option.isNone_iff_eq_none]
      at isNot
    exact afterEvent_of_padKey?_eq_none isNot keypad
  case pressed =>
    intro key isDown
    have isHeld : keypad.isHeld key = true :=
      (isHeld_afterEvents events key).mpr isDown
    simp only [afterEvent, press, isHeld, ↓reduceIte]
  case released =>
    intro key notDown
    have notHeld : ¬ keypad.isHeld key = true :=
      mt (isHeld_afterEvents events key).mp notDown
    simp only [afterEvent, release, notHeld, Bool.false_eq_true, ↓reduceIte]
  case reordered =>
    intro others same
    exact (held_afterEvents_congr same).symm
  case skips =>
    intro machine x sameKeypad lower inside number held goesBy
    have heldIff : machine.keypad.isHeld number = true ↔ held := by
      rw [sameKeypad]
      exact isHeld_afterEvents_iff events number
    constructor
    · intro atWord
      have ran := Action.run_cycle_of_skp lower inside atWord
      constructor
      · intro isHeld
        rw [if_pos (heldIff.mpr isHeld)] at ran
        exact ⟨_, ran⟩
      · intro notHeld
        rw [if_neg (mt heldIff.mp notHeld)] at ran
        exact ⟨_, ran⟩
    · intro atWord
      have ran := Action.run_cycle_of_sknp lower inside atWord
      constructor
      · intro isHeld
        rw [if_pos (heldIff.mpr isHeld)] at ran
        exact ⟨_, ran⟩
      · intro notHeld
        rw [if_neg (mt heldIff.mp notHeld)] at ran
        exact ⟨_, ran⟩

open Machine in
/-- The first key is still held when another one was let go, so a program skips. -/
theorem keypad_follows_events_of_two_keys :
    let events : List Event :=
      [.keyDown (.pad 0), .keyDown (.pad 3), .other, .keyUp (.pad 3)]
    let before :=
      (fresh (Display.blank 1 1) (RandomTape.start [])).afterAll
        [.press 0, .press 3, .release 3]
    let machine := before.after (.load [0xE0, 0x9E])
    Event.IsDown 0 events ∧
      ¬ Event.IsDown 3 events ∧
      ∃ executed,
        Action.cycle.run machine =
          .ok executed
            { machine.settled with
              programCounter := machine.programCounter + 4 } := by
  intro events before machine
  have isDown : Event.IsDown 0 events := by
    unfold Event.IsDown
    decide
  have notDown : ¬ Event.IsDown 3 events := by
    unfold Event.IsDown
    decide
  have atWord : machine.word = 0xE09E + 0x100 * (first : Nat) :=
    word_after_load_pair before rfl 0xE0 0x9E
  have atStart : machine.programCounter = 0x200 :=
    programCounter_after_load_pair before 0xE0 0x9E
  have loaded : machine = { before with memory := machine.memory } :=
    after_load_pair before 0xE0 0x9E
  have sameKeypad : machine.keypad = before.keypad := by
    rw [loaded]
  have sameRegisters : machine.registers = before.registers := by
    rw [loaded]
  have isZero : (machine.registers.byte first).toNat = 0 := by
    rw [sameRegisters]
    rfl
  obtain ⟨-, -, -, -, -, -, -, -, skips⟩ := keypad_follows_events events
  have skipsIfHeld :=
    (skips machine first sameKeypad (by omega) (by omega)).1 atWord
  exact ⟨isDown, notDown, skipsIfHeld.1 ⟨0, isZero.symm, isDown⟩⟩

end ChipEight
