import ChipEight.Proofs.Failures

namespace ChipEight

/-!
# Open calls

A call is open from its execution until the return that it is matched with. The
open calls are recorded here by looking at the history alone: a call that
succeeds is added at the end, a return that succeeds takes the last one away,
and nothing else matters. The stack is in use up to its pointer by exactly the
addresses of the open calls, whatever is left above from calls that are closed.
-/

namespace Machine

/-- The open calls after a move, given those before it, the oldest first. -/
def callsAfter
    (machine : Machine)
    (calls : List Int) :
    Move →
    List Int
  | .cycle =>
      match Action.cycle.run machine with
      | .ok _ _ =>
          if machine.word / 0x1000 = 0x2 then
            calls ++ [machine.programCounter]
          else if machine.word = 0x00EE then
            calls.dropLast
          else
            calls
      | .error _ _ => calls
  | _ => calls

/-- The open calls after some moves, given those before them. -/
def openCalls
    (machine : Machine)
    (calls : List Int) :
    List Move →
    List Int
  | [] => calls
  | move :: rest =>
      (machine.after move).openCalls (machine.callsAfter calls move) rest

/-- The stack is in use by calls: it holds them in order, up to its pointer. -/
structure Holds
    (machine : Machine)
    (calls : List Int) : Prop where
  stackTop :
    machine.stackTop + 1 = calls.length
  stack :
    machine.stack.toList.take calls.length = calls

/-- What a cycle may do to the stack. -/
inductive StackStep
    (machine : Machine) :
    EStateM.Result Fault Machine Executed →
    Prop where
  /-- The cycle fails and leaves the stack alone. -/
  | failed
      {fault : Fault}
      {stopped : Machine}
      (sameStack : stopped.stack = machine.stack)
      (sameTop : stopped.stackTop = machine.stackTop) :
      StackStep machine (.error fault stopped)
  /-- A return goes to the address on top of the stack and takes it away. -/
  | returned
      {executed : Executed}
      {next : Machine}
      (place : Fin stackCapacity)
      (atReturn : machine.word = 0x00EE)
      (top : machine.stackTop = (place : Nat))
      (target : next.programCounter = machine.stack.get place)
      (sameStack : next.stack = machine.stack)
      (lowered : next.stackTop = (place : Nat) - 1) :
      StackStep machine (.ok executed next)
  /-- A call puts its own address on the stack. -/
  | called
      {executed : Executed}
      {next : Machine}
      (place : Fin stackCapacity)
      (atCall : machine.word / 0x1000 = 0x2)
      (free : machine.stackTop + 1 = (place : Nat))
      (pushed :
        next.stack =
          machine.stack.set place machine.programCounter place.isLt)
      (raised : next.stackTop = (place : Nat)) :
      StackStep machine (.ok executed next)
  /-- Every other instruction leaves the stack alone. -/
  | passed
      {executed : Executed}
      {next : Machine}
      (notReturn : machine.word ≠ 0x00EE)
      (notCall : machine.word / 0x1000 ≠ 0x2)
      (sameStack : next.stack = machine.stack)
      (sameTop : next.stackTop = machine.stackTop) :
      StackStep machine (.ok executed next)

variable {width height : Int} {machine : Machine}

theorem callsAfter_of_error
    (calls : List Int)
    {fault : Fault}
    {stopped : Machine}
    (ran : Action.cycle.run machine = .error fault stopped) :
    machine.callsAfter calls .cycle = calls := by
  simp only [callsAfter, ran]

theorem callsAfter_of_atCall
    (calls : List Int)
    {executed : Executed}
    {next : Machine}
    (ran : Action.cycle.run machine = .ok executed next)
    (atCall : machine.word / 0x1000 = 0x2) :
    machine.callsAfter calls .cycle = calls ++ [machine.programCounter] := by
  simp only [callsAfter, ran, if_pos atCall]

theorem callsAfter_of_atReturn
    (calls : List Int)
    {executed : Executed}
    {next : Machine}
    (ran : Action.cycle.run machine = .ok executed next)
    (atReturn : machine.word = 0x00EE) :
    machine.callsAfter calls .cycle = calls.dropLast := by
  have notCall : machine.word / 0x1000 ≠ 0x2 := by omega
  simp only [callsAfter, ran, if_neg notCall, if_pos atReturn]

theorem callsAfter_of_neither
    (calls : List Int)
    (notReturn : machine.word ≠ 0x00EE)
    (notCall : machine.word / 0x1000 ≠ 0x2) :
    machine.callsAfter calls .cycle = calls := by
  simp only [callsAfter, if_neg notCall, if_neg notReturn]
  split <;> rfl

theorem decode_of_atCall
    (atCall : machine.word / 0x1000 = 0x2) :
    ∃ nnn : Fin 0x1000,
      machine.word = 0x2000 + nnn ∧
        Instruction.decode machine.word =
          .ok ⟨.call, .address (nnn : Nat)⟩ := by
  let nnn : Fin 0x1000 := ⟨machine.word % 0x1000, Nat.mod_lt _ (by decide)⟩
  have split : machine.word = 0x2000 + nnn := by
    simp only [nnn]
    omega
  exact ⟨nnn, split,
    (Instruction.decode_eq_call_iff machine.word_lt nnn).mpr split⟩

theorem stackStep_of_atReturn
    (bounded : machine.Bounded width height)
    (inside : machine.programCounter < 4095)
    (atReturn : machine.word = 0x00EE) :
    machine.StackStep (Action.cycle.run machine) := by
  rw [Action.run_cycle_of_decoded machine bounded.programCounter.1 inside
    ((Instruction.decode_eq_ret_iff machine.word_lt).mpr atReturn)]
  rcases bounded.empty_or_top with empty | ⟨place, top⟩
  · have ran :=
      Action.run_ret_of_empty machine.settled (Int.lt_of_le_sub_one empty.le)
    simp only [ran]
    exact .failed rfl rfl
  · have ran := Action.run_ret machine.settled top
    simp only [ran]
    exact .returned place atReturn top rfl rfl rfl

theorem stackStep_of_atCall
    (bounded : machine.Bounded width height)
    (inside : machine.programCounter < 4095)
    (atCall : machine.word / 0x1000 = 0x2) :
    machine.StackStep (Action.cycle.run machine) := by
  obtain ⟨nnn, -, decoded⟩ := decode_of_atCall atCall
  rw [Action.run_cycle_of_decoded machine bounded.programCounter.1 inside
    decoded]
  rcases bounded.full_or_free with full | ⟨place, free⟩
  · have isFull : (stackCapacity : Int) ≤ machine.settled.stackTop + 1 := by
      simp only [stackCapacity, settled, full]
      decide
    have ran := Action.run_call_of_full machine.settled (nnn : Nat) isFull
    simp only [ran]
    exact .failed rfl rfl
  · have ran := Action.run_call machine.settled (nnn : Nat) free
    simp only [ran]
    exact .called place atCall free rfl rfl

/-- A cycle does one of four things to the stack. -/
theorem stackStep_cycle
    (bounded : machine.Bounded width height) :
    machine.StackStep (Action.cycle.run machine) := by
  rcases lt_or_ge machine.programCounter 4095 with inside | behind
  · by_cases atReturn : machine.word = 0x00EE
    · exact stackStep_of_atReturn bounded inside atReturn
    by_cases atCall : machine.word / 0x1000 = 0x2
    · exact stackStep_of_atCall bounded inside atCall
    cases decoded : Instruction.decode machine.word with
    | error fault =>
        rw [Action.run_cycle_of_unknown machine bounded.programCounter.1
          inside decoded]
        exact .failed rfl rfl
    | ok instruction =>
        obtain ⟨operation, operands⟩ := instruction
        have proper :=
          ((Instruction.decode_eq_ok_iff machine.word_lt).mp decoded).1
        have isOther : operation ≠ .ret ∧ operation ≠ .call := by
          constructor
          · rintro rfl
            cases proper
            exact atReturn
              ((Instruction.decode_eq_ret_iff machine.word_lt).mp decoded)
          · rintro rfl
            cases proper with
            | address nnn =>
                have split :=
                  (Instruction.decode_eq_call_iff machine.word_lt nnn).mp
                    decoded
                omega
        obtain ⟨notRet, notCall⟩ := isOther
        rcases Action.outcome_cycle bounded inside decoded with
          ⟨next, ran, spared, -⟩ | ⟨fault, stopped, ran, spared, -⟩
        · rw [ran]
          exact .passed atReturn atCall (spared.stack notCall)
            (spared.stackTop notCall notRet)
        · rw [ran]
          exact .failed (spared.stack notCall) (spared.stackTop notCall notRet)
  · rw [Action.run_cycle_of_le machine behind]
    exact .failed rfl rfl

namespace Holds

variable {calls : List Int}

theorem fresh
    (display : Display)
    (random : RandomTape) :
    (Machine.fresh display random).Holds [] where
  stackTop :=
    rfl
  stack :=
    rfl

theorem of_sameStack
    (holds : machine.Holds calls)
    {other : Machine}
    (sameStack : other.stack = machine.stack)
    (sameTop : other.stackTop = machine.stackTop) :
    other.Holds calls where
  stackTop := by
    rw [sameTop]
    exact holds.stackTop
  stack := by
    rw [sameStack]
    exact holds.stack

theorem place_lt_length
    (stack : Vector Int stackCapacity)
    (place : Fin stackCapacity) :
    (place : Nat) < stack.toList.length := by
  rw [Vector.length_toList]
  exact place.isLt

/-- The open calls are those below the top of the stack and the one on it. -/
theorem eq_append_top
    (holds : machine.Holds calls)
    {place : Fin stackCapacity}
    (top : machine.stackTop = (place : Nat)) :
    calls = machine.stack.toList.take place ++ [machine.stack.get place] := by
  have counted := holds.stackTop
  have length : calls.length = place + 1 := by omega
  have inside := place_lt_length machine.stack place
  have stack := holds.stack
  rw [length, List.take_add_one, List.getElem?_eq_getElem inside] at stack
  exact stack.symm

/-- What a cycle does to the stack, it does to the open calls. -/
theorem of_stackStep
    (holds : machine.Holds calls)
    {result : EStateM.Result Fault Machine Executed}
    (ran : Action.cycle.run machine = result)
    (step : machine.StackStep result) :
    (machineOf result).Holds (machine.callsAfter calls .cycle) := by
  have counted := holds.stackTop
  cases step with
  | failed sameStack sameTop =>
      rw [callsAfter_of_error calls ran]
      exact holds.of_sameStack sameStack sameTop
  | returned place atReturn top target sameStack lowered =>
      have inside := Nat.le_of_lt (place_lt_length machine.stack place)
      rw [callsAfter_of_atReturn calls ran atReturn, holds.eq_append_top top,
        List.dropLast_concat]
      refine ⟨?_, ?_⟩
      · rw [machineOf, lowered, List.length_take_of_le inside]
        omega
      · rw [machineOf, sameStack, List.length_take_of_le inside]
  | called place atCall free pushed raised =>
      have length : calls.length = place := by omega
      have inside := place_lt_length machine.stack place
      have stack := holds.stack
      rw [length] at stack
      rw [callsAfter_of_atCall calls ran atCall]
      refine ⟨?_, ?_⟩
      · rw [machineOf, raised, List.length_append, length]
        rfl
      · rw [machineOf, pushed, List.length_append, length,
          List.length_singleton, Vector.toList_set, List.take_add_one,
          List.getElem?_set_self inside, List.take_set_of_le (Nat.le_refl _),
          stack]
        rfl
  | passed notReturn notCall sameStack sameTop =>
      rw [callsAfter_of_neither calls notReturn notCall]
      exact holds.of_sameStack sameStack sameTop

theorem after
    (bounded : machine.Bounded width height)
    (holds : machine.Holds calls)
    (move : Move) :
    (machine.after move).Holds (machine.callsAfter calls move) := by
  cases move with
  | load program =>
      obtain ⟨memory, loaded⟩ := Action.exists_load program machine
      rw [Machine.after, loaded]
      exact holds.of_sameStack rfl rfl
  | cycle => exact holds.of_stackStep rfl (stackStep_cycle bounded)
  | tick => exact holds.of_sameStack rfl rfl
  | press key => exact holds.of_sameStack rfl rfl
  | release key => exact holds.of_sameStack rfl rfl

/-- Every history does to the stack what it does to the open calls. -/
theorem afterAll
    (bounded : machine.Bounded width height)
    (holds : machine.Holds calls)
    (moves : List Move) :
    (machine.afterAll moves).Holds (machine.openCalls calls moves) := by
  induction moves generalizing machine calls with
  | nil => exact holds
  | cons move rest inductionHypothesis =>
      exact inductionHypothesis (bounded.after move) (holds.after bounded move)

end Holds

theorem openCalls_append
    (machine : Machine)
    (calls : List Int)
    (first second : List Move) :
    machine.openCalls calls (first ++ second) =
      (machine.afterAll first).openCalls (machine.openCalls calls first)
        second := by
  induction first generalizing machine calls with
  | nil => rfl
  | cons move rest inductionHypothesis =>
      exact inductionHypothesis (machine.after move)
        (machine.callsAfter calls move)

/-- A move closes no call but the latest. -/
theorem prefix_callsAfter
    (machine : Machine)
    {older calls : List Int}
    (isPrefix : older <+: calls)
    (move : Move)
    (stillOpen : older.length ≤ (machine.callsAfter calls move).length) :
    older <+: machine.callsAfter calls move := by
  cases move with
  | cycle =>
      cases ran : Action.cycle.run machine with
      | error fault stopped =>
          rw [callsAfter_of_error calls ran]
          exact isPrefix
      | ok executed next =>
          by_cases atCall : machine.word / 0x1000 = 0x2
          · rw [callsAfter_of_atCall calls ran atCall]
            exact isPrefix.trans (List.prefix_append calls _)
          by_cases atReturn : machine.word = 0x00EE
          · rw [callsAfter_of_atReturn calls ran atReturn] at stillOpen ⊢
            exact List.prefix_of_prefix_length_le isPrefix
              (List.dropLast_prefix calls) stillOpen
          · rw [callsAfter_of_neither calls atReturn atCall]
            exact isPrefix
  | load program => exact isPrefix
  | tick => exact isPrefix
  | press key => exact isPrefix
  | release key => exact isPrefix

/-- Calls that stay open all the time stay the oldest ones as they are. -/
theorem prefix_openCalls
    (machine : Machine)
    {older calls : List Int}
    (isPrefix : older <+: calls)
    (moves : List Move)
    (stillOpen :
      ∀ earlier,
        earlier <+: moves →
        older.length ≤ (machine.openCalls calls earlier).length) :
    older <+: machine.openCalls calls moves := by
  induction moves generalizing machine calls with
  | nil => exact isPrefix
  | cons move rest inductionHypothesis =>
      have afterMove : older <+: machine.callsAfter calls move := by
        apply machine.prefix_callsAfter isPrefix
        exact stillOpen [move] ⟨rest, rfl⟩
      apply inductionHypothesis (machine.after move) afterMove
      intro earlier earlierPrefix
      exact stillOpen (move :: earlier)
        (List.cons_prefix_cons.mpr ⟨rfl, earlierPrefix⟩)

namespace Holds

variable {calls : List Int}

/-- The oldest of the open calls are what the stack holds lowest. -/
theorem take_stack
    (holds : machine.Holds calls)
    {older : List Int}
    (isPrefix : older <+: calls) :
    machine.stack.toList.take older.length = older := by
  have fewer := isPrefix.length_le
  calc
    machine.stack.toList.take older.length
        = (machine.stack.toList.take calls.length).take older.length := by
          rw [List.take_take, Nat.min_eq_left fewer]
    _ = calls.take older.length := by
          rw [holds.stack]
    _ = older :=
          (List.prefix_iff_eq_take.mp isPrefix).symm

/-- A return that succeeds goes to the latest open call and closes it. -/
theorem of_return
    (bounded : machine.Bounded width height)
    (holds : machine.Holds calls)
    (atReturn : machine.word = 0x00EE)
    {executed : Executed}
    {next : Machine}
    (ran : Action.cycle.run machine = .ok executed next) :
    ∃ older latest,
      calls = older ++ [latest] ∧
        next.programCounter = latest ∧
        machine.callsAfter calls .cycle = older := by
  have step := stackStep_cycle bounded
  rw [ran] at step
  cases step with
  | returned place _ top target _ _ =>
      have shape := holds.eq_append_top top
      refine ⟨_, _, shape, target, ?_⟩
      rw [callsAfter_of_atReturn calls ran atReturn, shape,
        List.dropLast_concat]
  | called place atCall _ _ _ => omega
  | passed notReturn _ _ _ => exact (notReturn atReturn).elim

theorem fails_atReturn_iff
    (bounded : machine.Bounded width height)
    (holds : machine.Holds calls)
    (inside : machine.programCounter < 4095)
    (atReturn : machine.word = 0x00EE) :
    (∃ fault, machine.FailsWith fault) ↔ calls = [] := by
  have counted := holds.stackTop
  constructor
  · rintro ⟨fault, fails⟩
    have decoded :=
      (Instruction.decode_eq_ret_iff machine.word_lt).mpr atReturn
    obtain ⟨empty, -⟩ := obstacle_of_failsWith bounded inside decoded fails
    exact List.eq_nil_of_length_eq_zero (by omega)
  · rintro rfl
    rw [List.length_nil] at counted
    exact ⟨_, failsWith_noOpenCall bounded ⟨inside, atReturn, by omega⟩⟩

theorem fails_atCall_iff
    (bounded : machine.Bounded width height)
    (holds : machine.Holds calls)
    (inside : machine.programCounter < 4095)
    (atCall : machine.word / 0x1000 = 0x2) :
    (∃ fault, machine.FailsWith fault) ↔ calls.length = 16 := by
  have counted := holds.stackTop
  obtain ⟨nnn, split, decoded⟩ := decode_of_atCall atCall
  constructor
  · rintro ⟨fault, fails⟩
    obtain ⟨full, -⟩ := obstacle_of_failsWith bounded inside decoded fails
    omega
  · intro sixteen
    exact ⟨_, failsWith_stackFull bounded ⟨inside, ⟨nnn, split⟩, by omega⟩⟩

theorem of_failsWith
    (bounded : machine.Bounded width height)
    {fault : Fault}
    (fails : machine.FailsWith fault) :
    machine.callsAfter calls .cycle = calls ∧
      (machine.after .cycle).stack = machine.stack ∧
      (machine.after .cycle).stackTop = machine.stackTop := by
  obtain ⟨stopped, ran⟩ := fails
  have step := stackStep_cycle bounded
  rw [ran] at step
  rw [Machine.after, ran, callsAfter_of_error calls ran]
  cases step with
  | failed sameStack sameTop => exact ⟨rfl, sameStack, sameTop⟩

/-- The return matched with a call goes to it and leaves the calls before it. -/
theorem of_matching_return
    (bounded : machine.Bounded width height)
    (holds : machine.Holds calls)
    {older : List Int}
    {address : Int}
    (isPrefix : older ++ [address] <+: calls)
    (atReturn : machine.word = 0x00EE)
    {executed : Executed}
    {next : Machine}
    (ran : Action.cycle.run machine = .ok executed next)
    (matching :
      (machine.callsAfter calls .cycle).length = older.length) :
    next.programCounter = address ∧
      machine.callsAfter calls .cycle = older ∧
      next.stack.toList.take older.length = older := by
  obtain ⟨remaining, latest, rfl, target, closes⟩ :=
    holds.of_return bounded atReturn ran
  rw [closes] at matching
  -- Two lists of one length, one of which begins the other, are the same.
  have same := isPrefix.eq_of_length (by
    simp only [List.length_append, List.length_singleton, matching])
  obtain ⟨rfl, sameLatest⟩ := List.append_inj' same rfl
  have nextHolds := holds.after bounded .cycle
  rw [Machine.after, ran, closes] at nextHolds
  refine ⟨?_, closes, nextHolds.stack⟩
  rw [target]
  exact (List.singleton_inj.mp sameLatest).symm

end Holds

/--
The stack and its pointer are the open calls, throughout every history.

A return goes to the latest open call and closes it alone; it fails with no call
open, and a call fails with sixteen. As long as a call stays open, its address
and those of the calls before it stay on the stack as they are, whatever is
executed, and the return that it is matched with goes to it.
-/
theorem stack_follows_open_calls
    (width height : Int)
    (wide : 1 ≤ width)
    (tall : 1 ≤ height)
    (random : RandomTape)
    (moves : List Move) :
    let start := fresh (Display.blank width height) random
    let machine := start.afterAll moves
    let calls := start.openCalls [] moves
    machine.stackTop + 1 = calls.length ∧
    machine.stack.toList.take (machine.stackTop + 1).toNat = calls ∧
    (∀ executed next,
      machine.word = 0x00EE →
      Action.cycle.run machine = .ok executed next →
      ∃ older latest,
        calls = older ++ [latest] ∧
          next.programCounter = latest ∧
          start.openCalls [] (moves ++ [.cycle]) = older) ∧
    (machine.programCounter < 4095 →
      machine.word = 0x00EE →
      ((∃ fault, machine.FailsWith fault) ↔ calls = [])) ∧
    (machine.programCounter < 4095 →
      machine.word / 0x1000 = 0x2 →
      ((∃ fault, machine.FailsWith fault) ↔ calls.length = 16)) ∧
    (∀ fault,
      machine.FailsWith fault →
      start.openCalls [] (moves ++ [.cycle]) = calls ∧
        (machine.after .cycle).stack = machine.stack ∧
        (machine.after .cycle).stackTop = machine.stackTop) ∧
    (∀ executed next,
      machine.word / 0x1000 = 0x2 →
      Action.cycle.run machine = .ok executed next →
      start.openCalls [] (moves ++ [.cycle]) =
          calls ++ [machine.programCounter] ∧
        ∀ later,
          (∀ earlier,
            earlier <+: later →
            calls.length <
              (start.openCalls [] (moves ++ .cycle :: earlier)).length) →
          let paused := start.afterAll (moves ++ .cycle :: later)
          let closed :=
            start.openCalls [] (moves ++ .cycle :: later ++ [.cycle])
          paused.stack.toList.take (calls.length + 1) =
              calls ++ [machine.programCounter] ∧
            ∀ executed next,
              paused.word = 0x00EE →
              Action.cycle.run paused = .ok executed next →
              closed.length = calls.length →
              next.programCounter = machine.programCounter ∧
                closed = calls ∧
                next.stack.toList.take calls.length = calls) := by
  intro start machine calls
  have startBounded : start.Bounded width height :=
    Bounded.fresh wide tall random
  have startHolds : start.Holds [] := Holds.fresh _ random
  have bounded : machine.Bounded width height := startBounded.afterAll moves
  have holds : machine.Holds calls := startHolds.afterAll startBounded moves
  have nextCalls :
      start.openCalls [] (moves ++ [.cycle]) =
        machine.callsAfter calls .cycle :=
    start.openCalls_append [] moves [.cycle]
  refine ⟨holds.stackTop, ?inUse, ?returns, ?noneOpen, ?tooMany, ?fails,
    ?matched⟩
  case inUse =>
    rw [holds.stackTop, Int.toNat_natCast]
    exact holds.stack
  case returns =>
    intro executed next atReturn ran
    rw [nextCalls]
    exact holds.of_return bounded atReturn ran
  case noneOpen =>
    exact holds.fails_atReturn_iff bounded
  case tooMany =>
    exact holds.fails_atCall_iff bounded
  case fails =>
    intro fault fails
    rw [nextCalls]
    exact Holds.of_failsWith bounded fails
  case matched =>
    intro executed next atCall ran
    have opened := callsAfter_of_atCall calls ran atCall
    refine ⟨nextCalls.trans opened, ?_⟩
    intro later stillOpen paused closed
    have laterCalls (later : List Move) :
        start.openCalls [] (moves ++ .cycle :: later) =
          (machine.after .cycle).openCalls (calls ++ [machine.programCounter])
            later := by
      rw [← opened]
      exact start.openCalls_append [] moves (.cycle :: later)
    have pausedBounded : paused.Bounded width height :=
      startBounded.afterAll _
    have pausedHolds :
        paused.Holds (start.openCalls [] (moves ++ .cycle :: later)) :=
      startHolds.afterAll startBounded _
    have isPrefix :
        calls ++ [machine.programCounter] <+:
          start.openCalls [] (moves ++ .cycle :: later) := by
      rw [laterCalls]
      apply prefix_openCalls _ (List.prefix_refl _)
      intro earlier earlierPrefix
      have longer := stillOpen earlier earlierPrefix
      rw [laterCalls] at longer
      rw [List.length_append, List.length_singleton]
      exact longer
    have kept := pausedHolds.take_stack isPrefix
    rw [List.length_append, List.length_singleton] at kept
    refine ⟨kept, ?_⟩
    intro executed next atReturn ran matching
    have closes :
        closed =
          paused.callsAfter (start.openCalls [] (moves ++ .cycle :: later))
            .cycle :=
      start.openCalls_append [] (moves ++ .cycle :: later) [.cycle]
    rw [closes] at matching ⊢
    exact pausedHolds.of_matching_return pausedBounded isPrefix atReturn ran
      matching

/-- The first call of a program is the only one open after it. -/
theorem stack_follows_open_calls_of_first_call :
    let start := fresh (Display.blank 64 32) (RandomTape.start [])
    (1 : Int) ≤ 64 ∧ (1 : Int) ≤ 32 ∧
      start.openCalls [] [.load [0x22, 0x00], .cycle] = [0x200] := by
  intro start
  have wide : (1 : Int) ≤ 64 := by decide
  have tall : (1 : Int) ≤ 32 := by decide
  obtain ⟨-, -, -, -, tooMany, -, matched⟩ :=
    stack_follows_open_calls 64 32 wide tall (RandomTape.start [])
      [.load [0x22, 0x00]]
  have atCall : (start.afterAll [.load [0x22, 0x00]]).word / 0x1000 = 0x2 :=
    congrArg (· / 0x1000) (word_after_load_pair start rfl 0x22 0x00)
  have succeeds :
      ¬ ∃ fault, (start.afterAll [.load [0x22, 0x00]]).FailsWith fault := by
    rw [tooMany (by decide) atCall]
    decide
  cases ran : Action.cycle.run (start.afterAll [.load [0x22, 0x00]]) with
  | error fault stopped => exact (succeeds ⟨fault, stopped, ran⟩).elim
  | ok executed next =>
      exact ⟨wide, tall, (matched executed next atCall ran).1⟩

end Machine

end ChipEight
