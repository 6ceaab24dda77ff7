import ChipEight.Proofs.KeyHistory

namespace ChipEight

/-!
# The keypad in histories

No instruction changes the keypad, and neither does a program that is loaded or
a tick of the timers. This holds of every machine, also of one that has left its
bounds. So the keypad after a history is what the keys made of it that were
pressed and let go, and nothing else: it can be read off the moves alone.
-/

namespace Action

variable {α β : Type}

/-- Whether an action leaves the keypad as it is, however it ends. -/
def SparesKeypad
    (action : Action α) :
    Prop :=
  ∀ machine, (machineOf (action.run machine)).keypad = machine.keypad

namespace SparesKeypad

@[simp] theorem pure
    (value : α) :
    SparesKeypad (pure value) :=
  fun _ => rfl

@[simp] theorem throw
    (fault : Fault) :
    SparesKeypad (throw fault : Action α) :=
  fun _ => rfl

@[simp] theorem get : SparesKeypad get :=
  fun _ => rfl

@[simp] theorem attempt
    (result : Except Fault α) :
    SparesKeypad (attempt result) := by
  intro machine
  cases result <;> rfl

/-- An action that spares the keypad goes on with others that do. -/
@[simp] theorem bind
    {action : Action α}
    {next : α → Action β}
    (spares : SparesKeypad action)
    (nextSpares : ∀ value, SparesKeypad (next value)) :
    SparesKeypad (action >>= next) := by
  intro machine
  rw [EStateM.run_bind, ← spares machine]
  cases action.run machine with
  | ok value reached => exact nextSpares value reached
  | error fault stopped => rfl

/--
What is done with a machine that was looked at need spare only that
machine's keypad.
-/
theorem get_bind
    {next : Machine → Action α}
    (spares :
      ∀ machine,
        (machineOf ((next machine).run machine)).keypad = machine.keypad) :
    SparesKeypad (MonadState.get >>= next) :=
  spares

@[simp] theorem modify
    {change : Machine → Machine}
    (spares : ∀ machine, (change machine).keypad = machine.keypad) :
    SparesKeypad (modify change) :=
  spares

end SparesKeypad

/-! The actions that the instructions are made of. -/

@[simp] theorem sparesKeypad_readRegister
    (register : Int) :
    SparesKeypad (readRegister register) :=
  .get_bind fun machine =>
    SparesKeypad.attempt (machine.registers.read register) machine

@[simp] theorem sparesKeypad_writeRegister
    (register value : Int) :
    SparesKeypad (writeRegister register value) :=
  .get_bind fun machine => by
    cases machine.registers.write register value <;> rfl

@[simp] theorem sparesKeypad_writeFlag
    (raised : Bool) :
    SparesKeypad (writeFlag raised) :=
  sparesKeypad_writeRegister _ _

@[simp] theorem sparesKeypad_readByte
    (address : Int) :
    SparesKeypad (readByte address) :=
  .get_bind fun machine =>
    SparesKeypad.attempt (machine.memory.read address) machine

@[simp] theorem sparesKeypad_writeByte
    (address value : Int) :
    SparesKeypad (writeByte address value) :=
  .get_bind fun machine => by
    cases machine.memory.write address value <;> rfl

@[simp] theorem sparesKeypad_readBytes
    (span : Cells.Span) :
    SparesKeypad (readBytes span) :=
  .get_bind fun machine =>
    SparesKeypad.attempt (machine.memory.readSpan span) machine

@[simp] theorem sparesKeypad_writeBytes
    (span : Cells.Span)
    (values : List Int) :
    SparesKeypad (writeBytes span values) :=
  .get_bind fun machine => by
    cases machine.memory.writeSpan span values <;> rfl

@[simp] theorem sparesKeypad_readRegisters
    (span : Cells.Span) :
    SparesKeypad (readRegisters span) :=
  .get_bind fun machine =>
    SparesKeypad.attempt (machine.registers.readSpan span) machine

@[simp] theorem sparesKeypad_writeRegisters
    (span : Cells.Span)
    (values : List Int) :
    SparesKeypad (writeRegisters span values) :=
  .get_bind fun machine => by
    cases machine.registers.writeSpan span values <;> rfl

@[simp] theorem sparesKeypad_readStack
    (place : Int) :
    SparesKeypad (readStack place) :=
  .bind (.attempt _) fun _ => .bind .get fun _ => .pure _

@[simp] theorem sparesKeypad_writeStack
    (place address : Int) :
    SparesKeypad (writeStack place address) :=
  .bind (.attempt _) fun _ => .modify fun _ => rfl

@[simp] theorem sparesKeypad_draw
    (sprite : List Int)
    (x y : Int) :
    SparesKeypad (draw sprite x y) :=
  .get_bind fun machine => by
    cases machine.display.draw sprite x y <;> rfl

@[simp] theorem sparesKeypad_takeRandom : SparesKeypad takeRandom :=
  fun _ => rfl

@[simp] theorem sparesKeypad_advance : SparesKeypad advance :=
  fun _ => rfl

@[simp] theorem sparesKeypad_goTo
    (address : Int) :
    SparesKeypad (goTo address) :=
  fun _ => rfl

@[simp] theorem sparesKeypad_skipWhen
    (condition : Bool) :
    SparesKeypad (skipWhen condition) := by
  cases condition <;> simp [skipWhen]

@[simp] theorem sparesKeypad_combine
    (x y : Int)
    (operation : UInt8 → UInt8 → UInt8) :
    SparesKeypad (combine x y operation) :=
  .bind (sparesKeypad_readRegister x) fun _ =>
  .bind (sparesKeypad_readRegister y) fun _ =>
  .bind (sparesKeypad_writeRegister x _) fun _ =>
  sparesKeypad_advance

@[simp] theorem sparesKeypad_writeFlagged
    (x : Int)
    (raised : Bool)
    (value : Int) :
    SparesKeypad (writeFlagged x raised value) :=
  .bind (sparesKeypad_writeFlag raised) fun _ =>
  .bind (sparesKeypad_writeRegister x value) fun _ =>
  sparesKeypad_advance

/--
A read register, a change of anything but the keypad, and the next instruction.
-/
theorem sparesKeypad_modifyFrom
    (x : Int)
    {change : UInt8 → Machine → Machine}
    (spares : ∀ vx machine, (change vx machine).keypad = machine.keypad) :
    SparesKeypad (do
      let vx ← readRegister x
      modify (change vx)
      advance) :=
  .bind (sparesKeypad_readRegister x) fun vx =>
  .bind (.modify (spares vx)) fun _ =>
  sparesKeypad_advance

theorem sparesKeypad_ret : SparesKeypad (execute .ret .bare) := by
  refine .bind .get fun machine => ?_
  by_cases isEmpty : machine.stackTop < 0
  · simp only [isEmpty, ↓reduceIte]
    exact .bind (.throw _) fun _ =>
      .bind (sparesKeypad_readStack _) fun _ => .modify fun _ => rfl
  · simp only [isEmpty, ↓reduceIte]
    exact .bind (sparesKeypad_readStack _) fun _ => .modify fun _ => rfl

theorem sparesKeypad_call
    (nnn : Int) :
    SparesKeypad (execute .call (.address nnn)) := by
  refine .get_bind fun machine => ?_
  by_cases isFull : (stackCapacity : Int) - 1 ≤ machine.stackTop
  · simp only [isFull, ↓reduceIte]
    rfl
  · simp only [isFull, ↓reduceIte]
    -- The top is moved first; the machine that this leaves has the same keypad.
    exact SparesKeypad.bind
      (sparesKeypad_writeStack (machine.stackTop + 1) machine.programCounter)
      (fun _ => sparesKeypad_goTo nnn)
      { machine with stackTop := machine.stackTop + 1 }

theorem sparesKeypad_execute
    (operation : Operation)
    (operands : Operands operation.format) :
    SparesKeypad (execute operation operands) := by
  cases operation <;> cases operands
  case ret =>
    exact sparesKeypad_ret
  case call nnn =>
    exact sparesKeypad_call nnn
  case drw x y n =>
    exact
      .bind .get fun _ =>
      .bind (sparesKeypad_readBytes _) fun _ =>
      .bind (sparesKeypad_readRegister x) fun _ =>
      .bind (sparesKeypad_readRegister y) fun _ =>
      .bind (sparesKeypad_draw _ _ _) fun erased =>
      .bind (sparesKeypad_writeFlag erased) fun _ =>
      .bind (.modify fun _ => rfl) fun _ =>
      sparesKeypad_advance
  case ldVxK x =>
    refine .bind .get fun machine => ?_
    by_cases anyHeld : machine.keypad.anyHeld
    · simp only [anyHeld, ↓reduceIte]
      exact .bind (sparesKeypad_writeRegister x _) fun _ => sparesKeypad_advance
    · simp only [anyHeld]
      exact .pure ()
  case ldDtVx x =>
    exact sparesKeypad_modifyFrom x fun _ _ => rfl
  case ldStVx x =>
    exact sparesKeypad_modifyFrom x fun _ _ => rfl
  case addI x =>
    exact sparesKeypad_modifyFrom x fun _ _ => rfl
  case ldF x =>
    exact sparesKeypad_modifyFrom x fun _ _ => rfl
  case ldB x =>
    exact
      .bind (sparesKeypad_readRegister x) fun _ =>
      .bind .get fun _ =>
      .bind (sparesKeypad_writeByte _ _) fun _ =>
      .bind (sparesKeypad_writeByte _ _) fun _ =>
      .bind (sparesKeypad_writeByte _ _) fun _ =>
      sparesKeypad_advance
  case ldMemVx x =>
    exact
      .bind .get fun _ =>
      .bind (sparesKeypad_readRegisters _) fun _ =>
      .bind (sparesKeypad_writeBytes _ _) fun _ =>
      sparesKeypad_advance
  case ldVxMem x =>
    exact
      .bind .get fun _ =>
      .bind (sparesKeypad_readBytes _) fun _ =>
      .bind (sparesKeypad_writeRegisters _ _) fun _ =>
      sparesKeypad_advance
  all_goals simp [-bind_pure_comp, execute]

theorem sparesKeypad_fetch : SparesKeypad fetch :=
  .bind .get fun _ =>
  .bind (sparesKeypad_readByte _) fun _ =>
  .bind (sparesKeypad_readByte _) fun _ =>
  .pure _

theorem sparesKeypad_perform
    (instruction : Instruction) :
    SparesKeypad (perform instruction) :=
  .bind .get fun _ =>
  .bind (sparesKeypad_execute _ _) fun _ =>
  .pure _

theorem sparesKeypad_cycle : SparesKeypad cycle :=
  .bind (.modify fun _ => rfl) fun _ =>
  .bind sparesKeypad_fetch fun _ =>
  .bind (.attempt _) fun instruction =>
  sparesKeypad_perform instruction

end Action

namespace Move

/-- The event of the keypad that a move stands for, if it is one. -/
def event? : Move → Option Event
  | .press key => some (.keyDown (.pad key))
  | .release key => some (.keyUp (.pad key))
  | _ => none

/-- The key that a move presses, if it presses one. -/
def pressed? : Move → Option (Fin 16)
  | .press key => some key
  | _ => none

theorem pressed?_eq
    (move : Move) :
    move.pressed? = move.event?.bind Event.pressed? := by
  cases move <;> rfl

end Move

namespace Machine

/-- A move changes the keypad as the event does that it stands for, if it is one. -/
theorem keypad_after
    (machine : Machine)
    (move : Move) :
    (machine.after move).keypad =
      move.event?.elim machine.keypad machine.keypad.afterEvent := by
  cases move with
  | load program =>
      obtain ⟨memory, loaded⟩ := Action.exists_load program machine
      rw [after, loaded]
      rfl
  | cycle => exact Action.sparesKeypad_cycle machine
  | tick => rfl
  | press key => rfl
  | release key => rfl

theorem keypad_afterAll
    (machine : Machine)
    (moves : List Move) :
    (machine.afterAll moves).keypad =
      (moves.filterMap Move.event?).foldl Keypad.afterEvent machine.keypad := by
  induction moves generalizing machine with
  | nil => rfl
  | cons move rest inductionHypothesis =>
      rw [afterAll_cons, inductionHypothesis, keypad_after,
        List.filterMap_cons]
      cases move.event? <;> rfl

/-- The keypad of a machine once just switched on is what its keys made of it. -/
theorem keypad_afterAll_fresh
    (display : Display)
    (random : RandomTape)
    (moves : List Move) :
    ((fresh display random).afterAll moves).keypad =
      Keypad.afterEvents (moves.filterMap Move.event?) :=
  keypad_afterAll (fresh display random) moves

theorem keypadBounded_after
    {machine : Machine}
    (bounded : machine.keypad.Bounded)
    (move : Move) :
    (machine.after move).keypad.Bounded := by
  rw [keypad_after]
  cases move with
  | load program => exact bounded
  | cycle => exact bounded
  | tick => exact bounded
  | press key => exact bounded.press key
  | release key => exact bounded.release key

theorem keypadBounded_afterAll
    {machine : Machine}
    (bounded : machine.keypad.Bounded)
    (moves : List Move) :
    (machine.afterAll moves).keypad.Bounded := by
  induction moves generalizing machine with
  | nil => exact bounded
  | cons move rest inductionHypothesis =>
      exact inductionHypothesis (keypadBounded_after bounded move)

/--
While any key is held, the key pressed last is that of the last press of
all moves.
-/
theorem exists_lastPressed_of_anyHeld
    (display : Display)
    (random : RandomTape)
    (moves : List Move)
    (anyHeld :
      ((fresh display random).afterAll moves).keypad.anyHeld = true) :
    ∃ key : Fin 16,
      (moves.filterMap Move.pressed?).getLast? = some key ∧
        ((fresh display random).afterAll moves).keypad.lastPressed =
          (key : Nat) := by
  have samePresses :
      (moves.filterMap Move.event?).filterMap Event.pressed? =
        moves.filterMap Move.pressed? := by
    simp only [List.filterMap_filterMap, ← Move.pressed?_eq]
  rw [keypad_afterAll_fresh] at anyHeld ⊢
  have wasPressed :=
    (Keypad.Bounded.afterEvents (moves.filterMap Move.event?)).pressed
      (of_decide_eq_true anyHeld)
  rw [Keypad.lastPressed_afterEvents, samePresses] at wasPressed ⊢
  cases last : (moves.filterMap Move.pressed?).getLast? with
  | none =>
      rw [last] at wasPressed
      exact absurd wasPressed (by decide)
  | some key => exact ⟨key, rfl, rfl⟩

/--
A key that is held was held all along, or it was pressed and not let go since.
-/
theorem held_or_pressed_of_isHeld
    {machine : Machine}
    (bounded : machine.keypad.Bounded)
    {moves : List Move}
    {key : Fin 16}
    (isHeld : (machine.afterAll moves).keypad.isHeld key = true) :
    machine.keypad.isHeld key = true ∨
      ∃ earlier rest,
        moves = earlier ++ .press key :: rest ∧ .release key ∉ rest := by
  -- The last move presses the key, or it is not a release of the key.
  induction moves using List.reverseRecOn with
  | nil => exact Or.inl isHeld
  | append_singleton moves move inductionHypothesis =>
      have lower := (keypadBounded_afterAll bounded moves).held.1
      have goesBack
          (stillHeld :
            (machine.afterAll moves).keypad.isHeld key = true)
          (notReleased : Move.release key ≠ move) :
          machine.keypad.isHeld key = true ∨
            ∃ earlier rest,
              moves ++ [move] = earlier ++ .press key :: rest ∧
                .release key ∉ rest := by
        rcases inductionHypothesis stillHeld with
          before | ⟨earlier, rest, rfl, notInRest⟩
        · exact Or.inl before
        · refine Or.inr ⟨earlier, rest ++ [move], by simp, ?_⟩
          simp [notInRest, notReleased]
      rw [afterAll_append, afterAll_cons, afterAll_nil, keypad_after] at isHeld
      cases move with
      | load program => exact goesBack isHeld (by simp)
      | cycle => exact goesBack isHeld (by simp)
      | tick => exact goesBack isHeld (by simp)
      | press other =>
          rcases (Keypad.isHeld_press lower other key).mp isHeld with
            same | stillHeld
          · obtain rfl := Fin.ext same
            exact Or.inr ⟨moves, [], rfl, List.not_mem_nil⟩
          · exact goesBack stillHeld (by simp)
      | release other =>
          have ⟨different, stillHeld⟩ :=
            (Keypad.isHeld_release lower other key).mp isHeld
          refine goesBack stillHeld ?_
          rintro ⟨⟩
          exact different rfl

end Machine

end ChipEight
