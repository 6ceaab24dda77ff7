import ChipEight.Proofs.Histories

namespace ChipEight

/-!
# What tracing shows

A cycle that traces notes the program counter, executes its instruction, and
then fills the template of the instruction in and prints the line. This could
fail where an operand is missing, and it could disturb the machine. It does
neither: with tracing and without it a machine goes the same way, and the lines
are those of the instructions that were executed.
-/

open Text

/-- A piece filled in with operands, unless they lack its field. -/
def Piece.fill?
    {format : Format}
    (operands : Operands format) :
    Piece →
    Option String
  | .words text => some text
  | piece => (piece.field?.bind operands.value?).map piece.style.write

/--
The template of an instruction filled in with its operands, unless one
is missing.
-/
def Instruction.fill?
    (instruction : Instruction) :
    Option String :=
  (instruction.operation.template.mapM
    (Piece.fill? instruction.operands)).map String.join

/-- What may go wrong in a cycle that traces. -/
inductive TraceFault where
  /-- The machine meets a fault. -/
  | machine (fault : Fault)
  /-- A template cannot be filled in. -/
  | unfilled

/-- A machine and the lines that were printed, the earliest first. -/
structure Terminal where
  machine : Machine
  lines : List String

/-- What is done with a machine and its lines. -/
abbrev Traced := EStateM TraceFault Terminal

namespace Traced

/-- Do something with the machine alone. -/
def onMachine
    {α : Type}
    (action : Action α) :
    Traced α :=
  fun terminal =>
    match action.run terminal.machine with
    | .ok value next => .ok value { terminal with machine := next }
    | .error fault stopped =>
        .error (.machine fault) { terminal with machine := stopped }

/-- Print a line. -/
def print
    (line : String) :
    Traced Unit :=
  modify fun terminal => { terminal with lines := terminal.lines ++ [line] }

/-- The template of an instruction, filled in. -/
def filled
    (instruction : Instruction) :
    Traced String :=
  match instruction.fill? with
  | some text => pure text
  | none => throw .unfilled

/-- Execute an instruction, and print it if executed instructions are traced. -/
def perform
    (tracing : Bool)
    (instruction : Instruction) :
    Traced Unit := do
  let address := (← get).machine.programCounter
  onMachine (Action.execute instruction.operation instruction.operands)
  if tracing then
    let text ← filled instruction
    print
      ("mem_addr: 0x" ++ (NumeralStyle.hexadecimal 4).write address ++
        "    instruction: " ++ text)

/-- One machine cycle that may be traced. -/
def cycle
    (tracing : Bool) :
    Traced Unit := do
  onMachine (modify fun machine => { machine with displayChanged := false })
  let opcode ← onMachine Action.fetch
  let instruction ← onMachine (Action.attempt (Instruction.decode opcode))
  perform tracing instruction

end Traced

/-- A piece of an instruction's own template is filled in as it is written. -/
theorem Instruction.fill?_of_mem_template
    (instruction : Instruction)
    {piece : Piece}
    (member : piece ∈ instruction.operation.template) :
    piece.fill? instruction.operands =
      some (piece.write instruction.operands) := by
  cases piece with
  | words text => rfl
  | decimal field | capital field | hexadecimal width field =>
      obtain ⟨value, found⟩ :=
        instruction.exists_value_of_mem_template member rfl
      simp [Piece.fill?, Piece.write, Piece.field?, found]

/-- A template can be filled in with the operands of its instruction. -/
theorem Instruction.fill?_eq
    (instruction : Instruction) :
    instruction.fill? = some instruction.assembly := by
  have filled (pieces : List Piece)
      (part : pieces ⊆ instruction.operation.template) :
      pieces.mapM (Piece.fill? instruction.operands) =
        some (pieces.map (Piece.write instruction.operands)) := by
    induction pieces with
    | nil => rfl
    | cons piece rest inductionHypothesis =>
        have ⟨here, there⟩ := List.cons_subset.mp part
        rw [List.mapM_cons, instruction.fill?_of_mem_template here,
          inductionHypothesis there]
        rfl
  rw [fill?, filled _ (List.Subset.refl _)]
  rfl

namespace Traced

@[simp] theorem run_onMachine
    {α : Type}
    (action : Action α)
    (terminal : Terminal) :
    (onMachine action).run terminal =
      match action.run terminal.machine with
      | .ok value next => .ok value { terminal with machine := next }
      | .error fault stopped =>
          .error (.machine fault) { terminal with machine := stopped } :=
  rfl

/-- A template is filled in wherever it is printed. -/
@[simp] theorem filled_eq
    (instruction : Instruction) :
    filled instruction = pure instruction.assembly := by
  rw [filled, instruction.fill?_eq]

/--
Executing an instruction prints its line behind what was printed, if it
succeeds.
-/
theorem run_perform
    (tracing : Bool)
    (instruction : Instruction)
    (terminal : Terminal) :
    (perform tracing instruction).run terminal =
      match (Action.perform instruction).run terminal.machine with
      | .ok executed next =>
          .ok ()
            { machine := next,
              lines := terminal.lines ++ traceLines tracing [executed] }
      | .error fault stopped =>
          .error (.machine fault) { terminal with machine := stopped } := by
  simp only [perform, Action.perform, EStateM.run_bind, EStateM.run_get,
    run_onMachine]
  cases (Action.execute instruction.operation instruction.operands).run
    terminal.machine with
  | error fault stopped => rfl
  | ok _ next =>
      cases tracing with
      | false => simp [traceLines]
      | true => simp [traceLines, print, Executed.line]

/--
A cycle goes as one that is not observed, and prints the line of what it
executed.
-/
theorem run_cycle
    (tracing : Bool)
    (terminal : Terminal) :
    (cycle tracing).run terminal =
      match Action.cycle.run terminal.machine with
      | .ok executed next =>
          .ok ()
            { machine := next,
              lines := terminal.lines ++ traceLines tracing [executed] }
      | .error fault stopped =>
          .error (.machine fault) { terminal with machine := stopped } := by
  simp only [cycle, Action.cycle, EStateM.run_bind, EStateM.run_modify,
    run_onMachine]
  cases Action.fetch.run { terminal.machine with displayChanged := false } with
  | error fault stopped => rfl
  | ok opcode fetched =>
      dsimp only
      cases (Action.attempt (Instruction.decode opcode)).run fetched with
      | error fault stopped => rfl
      | ok instruction decoded => exact run_perform tracing instruction _

end Traced

/-- The instruction that a cycle executed, if it succeeded. -/
def executed? :
    EStateM.Result Fault Machine Executed →
    Option Executed
  | .ok executed _ => some executed
  | .error _ _ => none

/-- The fault that a cycle met, if it failed. -/
def fault? :
    EStateM.Result Fault Machine Executed →
    Option Fault
  | .ok _ _ => none
  | .error fault _ => some fault

/-- The instructions that a history executes, the earliest first. -/
def Machine.executedIn
    (machine : Machine)
    (moves : List Move) :
    List Executed :=
  (machine.cycleResults moves).filterMap executed?

namespace Terminal

/-- A terminal at which nothing was printed. -/
def start
    (machine : Machine) :
    Terminal :=
  { machine := machine, lines := [] }

/-- The terminal after a move, whether the move fails or not. -/
def after
    (tracing : Bool)
    (terminal : Terminal) :
    Move →
    Terminal
  | .cycle =>
      match (Traced.cycle tracing).run terminal with
      | .ok _ next => next
      | .error _ stopped => stopped
  | move => { terminal with machine := terminal.machine.after move }

/-- The terminal after some moves. -/
def afterAll
    (tracing : Bool)
    (terminal : Terminal)
    (moves : List Move) :
    Terminal :=
  moves.foldl (after tracing) terminal

/-- What went wrong in each cycle of a history, in order. -/
def faultsIn
    (tracing : Bool)
    (terminal : Terminal) :
    List Move →
    List (Option TraceFault)
  | [] => []
  | .cycle :: rest =>
      (match (Traced.cycle tracing).run terminal with
        | .ok _ _ => none
        | .error fault _ => some fault) ::
        (terminal.after tracing .cycle).faultsIn tracing rest
  | move :: rest => (terminal.after tracing move).faultsIn tracing rest

variable (tracing : Bool) (terminal : Terminal)

/-- A move does to the machine of a terminal what it does without one. -/
theorem machine_after
    (move : Move) :
    (terminal.after tracing move).machine = terminal.machine.after move := by
  cases move with
  | cycle =>
      rw [after, Traced.run_cycle, Machine.after]
      cases Action.cycle.run terminal.machine <;> rfl
  | load program => rfl
  | tick => rfl
  | press key => rfl
  | release key => rfl

/-- A cycle prints what it executed, and nothing else is printed. -/
theorem lines_after
    (move : Move) :
    (terminal.after tracing move).lines =
      terminal.lines ++
        traceLines tracing (terminal.machine.executedIn [move]) := by
  have unprinted :
      terminal.lines = terminal.lines ++ traceLines tracing [] := by
    cases tracing <;> exact (List.append_nil _).symm
  cases move with
  | cycle =>
      rw [after, Traced.run_cycle, Machine.executedIn, Machine.cycleResults]
      cases Action.cycle.run terminal.machine with
      | ok executed next => rfl
      | error fault stopped => exact unprinted
  | load program => exact unprinted
  | tick => exact unprinted
  | press key => exact unprinted
  | release key => exact unprinted

theorem machine_afterAll
    (moves : List Move) :
    (terminal.afterAll tracing moves).machine =
      terminal.machine.afterAll moves := by
  induction moves generalizing terminal with
  | nil => rfl
  | cons move rest inductionHypothesis =>
      rw [afterAll, List.foldl_cons, ← afterAll, inductionHypothesis,
        machine_after, Machine.afterAll_cons]

/-- A history prints what it executes, in order. -/
theorem lines_afterAll
    (moves : List Move) :
    (terminal.afterAll tracing moves).lines =
      terminal.lines ++
        traceLines tracing (terminal.machine.executedIn moves) := by
  induction moves generalizing terminal with
  | nil => cases tracing <;> exact (List.append_nil _).symm
  | cons move rest inductionHypothesis =>
      have split :
          terminal.machine.executedIn (move :: rest) =
            terminal.machine.executedIn [move] ++
              (terminal.machine.after move).executedIn rest := by
        rw [Machine.executedIn, ← List.singleton_append,
          Machine.cycleResults_append, List.filterMap_append]
        rfl
      rw [afterAll, List.foldl_cons, ← afterAll, inductionHypothesis,
        machine_after, lines_after, split, traceLines_append,
        List.append_assoc]

/-- A history meets the faults that it meets unobserved, and no others. -/
theorem faultsIn_eq
    (moves : List Move) :
    terminal.faultsIn tracing moves =
      (terminal.machine.cycleResults moves).map fun result =>
        (fault? result).map .machine := by
  induction moves generalizing terminal with
  | nil => rfl
  | cons move rest inductionHypothesis =>
      have later := inductionHypothesis (terminal.after tracing move)
      rw [machine_after] at later
      cases move with
      | cycle =>
          rw [faultsIn, later, Machine.cycleResults, List.map_cons,
            Traced.run_cycle]
          cases Action.cycle.run terminal.machine <;> rfl
      | load program => exact later
      | tick => exact later
      | press key => exact later
      | release key => exact later

end Terminal

/--
A line shows the address in at least four hexadecimal digits and the
filled template.
-/
theorem Executed.line_eq
    (executed : Executed)
    (lower : 0 ≤ executed.address) :
    executed.line =
      "mem_addr: 0x" ++
        String.ofList
          ((Nat.toDigits 16 executed.address.toNat).leftpad 4 '0') ++
        "    instruction: " ++
        String.join
          (executed.instruction.operation.template.map
            (Piece.write executed.instruction.operands)) := by
  obtain ⟨address, atAddress⟩ := Int.eq_ofNat_of_zero_le lower
  have notNegative : ¬ (address : Int) < 0 := by
    omega
  simp [line, Instruction.assembly, NumeralStyle.write,
    NumeralStyle.characters, NumeralStyle.lead, NumeralStyle.digits,
    NumeralStyle.hexadecimal, atAddress, notNegative]

open Machine in
/--
Tracing shows every instruction that is executed, and changes nothing.

A history is followed with and without tracing from any machine that can be
reached. Both ways it leads to the machine and meets the faults that it does
unobserved; without tracing nothing is printed, and with tracing there is a line
for each instruction that was executed. A cycle that comes next prints the
address and the instruction that were there before it, whatever it does to
them, and one that fails prints nothing.
-/
theorem tracing_shows_executed_and_changes_nothing
    (width height : Int)
    (wide : 1 ≤ width)
    (tall : 1 ≤ height)
    (random : RandomTape)
    (past moves : List Move) :
    let machine := (fresh (Display.blank width height) random).afterAll past
    let reached := machine.afterAll moves
    (∀ tracing,
      let terminal := (Terminal.start machine).afterAll tracing moves
      terminal.machine = reached ∧
        (Terminal.start machine).faultsIn tracing moves =
          ((machine.cycleResults moves).map fun result =>
            (fault? result).map .machine) ∧
        terminal.lines =
          (if tracing then
            (machine.executedIn moves).map Executed.line
          else
            []) ∧
        (∀ executed next,
          Action.cycle.run reached = .ok executed next →
          (Traced.cycle tracing).run terminal =
            .ok ()
              { machine := next,
                lines :=
                  terminal.lines ++
                    if tracing then [executed.line] else [] }) ∧
        ∀ fault stopped,
          Action.cycle.run reached = .error fault stopped →
          (Traced.cycle tracing).run terminal =
            .error (.machine fault)
              { machine := stopped, lines := terminal.lines }) ∧
    (∀ executed next,
      Action.cycle.run reached = .ok executed next →
      Instruction.decode reached.word = .ok executed.instruction ∧
        executed.line =
          "mem_addr: 0x" ++
            String.ofList
              ((Nat.toDigits 16 reached.programCounter.toNat).leftpad 4 '0') ++
            "    instruction: " ++
            String.join
              (executed.instruction.operation.template.map
                (Piece.write executed.instruction.operands))) ∧
    ∀ instruction : Instruction,
      instruction.fill? =
        some
          (String.join
            (instruction.operation.template.map
              (Piece.write instruction.operands))) := by
  intro machine reached
  have bounded : reached.Bounded width height :=
    ((Bounded.fresh wide tall random).afterAll past).afterAll moves
  refine ⟨fun tracing => ?runs, ?lines, Instruction.fill?_eq⟩
  case runs =>
    have sameMachine :
        ((Terminal.start machine).afterAll tracing moves).machine = reached :=
      (Terminal.start machine).machine_afterAll tracing moves
    have next :=
      Traced.run_cycle tracing ((Terminal.start machine).afterAll tracing moves)
    rw [sameMachine] at next
    refine ⟨sameMachine, (Terminal.start machine).faultsIn_eq tracing moves,
      (Terminal.start machine).lines_afterAll tracing moves, ?_, ?_⟩
    · intro executed after ran
      rw [next, ran]
      rfl
    · intro fault stopped ran
      rw [next, ran]
  case lines =>
    intro executed next ran
    have lower := bounded.programCounter.1
    rcases Action.stops_or_decodes reached lower with
      ⟨fault, stops⟩ | ⟨inside, instruction, decoded⟩
    · cases stops.symm.trans ran
    · rw [Action.run_cycle_of_decoded reached lower inside decoded] at ran
      split at ran
      · obtain ⟨rfl, -⟩ := EStateM.Result.ok.inj ran
        exact ⟨decoded, Executed.line_eq _ lower⟩
      · cases ran

open Machine in
/-- With tracing a jump prints its line. -/
theorem tracing_shows_executed_and_changes_nothing_of_jump :
    (1 : Int) ≤ 64 ∧ (1 : Int) ≤ 32 ∧
      let machine :=
        (fresh (Display.blank 64 32) (RandomTape.start [])).afterAll
          [.load [0x12, 0x00]]
      ((Terminal.start machine).afterAll false [.cycle]).lines = [] ∧
        ((Terminal.start machine).afterAll true [.cycle]).lines =
          ["mem_addr: 0x0200    instruction: JP 0x200"] := by
  have wide : (1 : Int) ≤ 64 := by decide
  have tall : (1 : Int) ≤ 32 := by decide
  refine ⟨wide, tall, ?_⟩
  intro machine
  obtain ⟨runs, -, -⟩ :=
    tracing_shows_executed_and_changes_nothing 64 32 wide tall
      (RandomTape.start []) [.load [0x12, 0x00]] [.cycle]
  obtain ⟨-, -, silent, -⟩ := runs false
  obtain ⟨-, -, shown, -⟩ := runs true
  have atWord : machine.word = 0x1000 + ((0x200 : Fin 0x1000) : Nat) :=
    word_after_load_pair _ rfl 0x12 0x00
  have atStart : machine.programCounter = 0x200 :=
    programCounter_after_load_pair _ 0x12 0x00
  have ran := run_cycle_of_jump (by omega) (by omega) 0x200 atWord
  refine ⟨silent, shown.trans ?_⟩
  rw [if_pos rfl, executedIn, cycleResults, ran, atStart]
  rfl

end ChipEight
