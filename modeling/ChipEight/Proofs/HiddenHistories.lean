import ChipEight.Proofs.HiddenInputs
import ChipEight.Proofs.Sessions

namespace ChipEight

/-!
# What a history cannot see

Two histories are compared that load the same programs and run the same number
of cycles, while ticks may differ when both timers are hidden and keys may
differ when the keypad is hidden. As long as the first one executes no reader
of a hidden input, the two cannot be told apart cycle by cycle. The rate of the
loop decides when the timers tick and nothing else, so it shows only to a
program that reads the delay timer.
-/

namespace Move

/-- Whether a move presses a key or lets it go. -/
def isKey : Move → Bool
  | .press _ => true
  | .release _ => true
  | _ => false

/-- Whether a move loads a program or runs a cycle. -/
def isInner : Move → Bool
  | .load _ => true
  | .cycle => true
  | _ => false

/-- Whether a move changes hidden inputs only. -/
def HiddenBy
    (hidden : Set Input) :
    Move → Prop
  | .tick => .delayTimer ∈ hidden ∧ .soundTimer ∈ hidden
  | .press _ => .keypad ∈ hidden
  | .release _ => .keypad ∈ hidden
  | .load _ => False
  | .cycle => False

/--
Whether two histories differ in hidden moves only.

Ticks and keys are compared apart from each other, each with the cycles that
they lie between.
-/
structure SameOff
    (hidden : Set Input)
    (firstMoves secondMoves : List Move) : Prop where
  inner :
    firstMoves.filter isInner = secondMoves.filter isInner
  ticks :
    ¬ (.delayTimer ∈ hidden ∧ .soundTimer ∈ hidden) →
    (firstMoves.filter fun move => !move.isKey) =
      secondMoves.filter fun move => !move.isKey
  keys :
    .keypad ∉ hidden →
    (firstMoves.filter fun move => !move.isTick) =
      secondMoves.filter fun move => !move.isTick

theorem isInner_of_isKey
    {move : Move}
    (isKey : move.isKey) :
    move.isInner = false := by
  cases move <;> first | rfl | cases isKey

theorem HiddenBy.isOuter
    {hidden : Set Input}
    {move : Move}
    (isHidden : move.HiddenBy hidden) :
    move.isInner = false := by
  cases move <;> first | rfl | exact isHidden.elim

/-- Whether two moves may change places. -/
def Commute
    (move other : Move) :
    Prop :=
  ∀ machine : Machine,
    (machine.after move).after other = (machine.after other).after move

/-- A tick and a key have nothing to do with each other. -/
theorem commute_tick
    {move : Move}
    (isKey : move.isKey) :
    Commute move .tick := by
  cases move <;> first | exact fun _ => rfl | cases isKey

end Move

namespace Move.SameOff

variable
  {hidden : Set Input}
  {move : Move}
  {rest secondMoves : List Move}

/-- A hidden move of the first history may be left out. -/
theorem tail_of_hidden
    (same : SameOff hidden (move :: rest) secondMoves)
    (isHidden : move.HiddenBy hidden) :
    SameOff hidden rest secondMoves := by
  have ⟨inner, ticks, keys⟩ := same
  cases move with
  | load program => exact isHidden.elim
  | cycle => exact isHidden.elim
  | tick => exact ⟨inner, fun visible => (visible isHidden).elim, keys⟩
  | press key => exact ⟨inner, ticks, fun visible => (visible isHidden).elim⟩
  | release key => exact ⟨inner, ticks, fun visible => (visible isHidden).elim⟩

/-- Where the first history has ended the second one makes hidden moves only. -/
theorem hidden_of_nil
    (same : SameOff hidden [] secondMoves) :
    ∀ move ∈ secondMoves, move.HiddenBy hidden := by
  intro move member
  have notInner := List.filter_eq_nil_iff.mp same.inner.symm move member
  by_contra visible
  cases move with
  | load program => exact notInner rfl
  | cycle => exact notInner rfl
  | tick =>
      exact List.filter_eq_nil_iff.mp (same.ticks visible).symm _ member rfl
  | press key =>
      exact List.filter_eq_nil_iff.mp (same.keys visible).symm _ member rfl
  | release key =>
      exact List.filter_eq_nil_iff.mp (same.keys visible).symm _ member rfl

/--
The next move that an observer sees is the next one that it sees of the other
history.

What comes before it there is unseen, and may be left out together with it.
-/
theorem exists_seen
    {sees : Move → Bool}
    (seen : sees move)
    (same : (move :: rest).filter sees = secondMoves.filter sees) :
    ∃ unseen later,
      secondMoves = unseen ++ move :: later ∧
        (∀ other ∈ unseen, sees other = false) ∧
        rest.filter sees = (unseen ++ later).filter sees := by
  rw [List.filter_cons_of_pos seen, eq_comm, List.filter_eq_cons_iff] at same
  obtain ⟨unseen, later, rfl, areUnseen, -, sameLater⟩ := same
  refine ⟨unseen, later, rfl, ?_, ?_⟩
  · intro other member
    exact Bool.eq_false_iff.mpr (areUnseen other member)
  · rw [List.filter_append, List.filter_eq_nil_iff.mpr areUnseen,
      List.nil_append, sameLater]

/--
A visible tick is the next one of the second history too, behind keys at most.
-/
theorem exists_tick
    (same : SameOff hidden (.tick :: rest) secondMoves)
    (visible : ¬ HiddenBy hidden .tick) :
    ∃ keys later,
      secondMoves = keys ++ .tick :: later ∧
        (∀ key ∈ keys, key.isInner = false ∧ Commute key .tick) ∧
        SameOff hidden rest (keys ++ later) := by
  obtain ⟨keys, later, rfl, areKeys, ticks⟩ :=
    exists_seen rfl (same.ticks visible)
  have ⟨inner, _, others⟩ := same
  refine ⟨keys, later, rfl, ?_, ?_, fun _ => ticks, ?_⟩
  · intro key member
    have isKey : key.isKey = true := by
      simpa using areKeys key member
    exact ⟨isInner_of_isKey isKey, commute_tick isKey⟩
  · simpa [List.filter_append, List.filter_cons, isInner] using inner
  · simpa [List.filter_append, List.filter_cons, isTick] using others

/--
A visible key is the next one of the second history too, behind ticks at most.
-/
theorem exists_key
    (same : SameOff hidden (move :: rest) secondMoves)
    (isKey : move.isKey)
    (visible : ¬ move.HiddenBy hidden) :
    ∃ ticks later,
      secondMoves = ticks ++ move :: later ∧
        (∀ other ∈ ticks, other.isInner = false ∧ Commute other move) ∧
        SameOff hidden rest (ticks ++ later) := by
  have notInner := isInner_of_isKey isKey
  have notTick : move.isTick = false := by
    cases move <;> first | rfl | cases isKey
  have keypadVisible : .keypad ∉ hidden := by
    cases move <;> first | exact visible | cases isKey
  obtain ⟨ticks, later, rfl, areTicks, keys⟩ :=
    exists_seen (by simp [notTick]) (same.keys keypadVisible)
  have ⟨inner, others, _⟩ := same
  refine ⟨ticks, later, rfl, ?_, ?_, ?_, fun _ => keys⟩
  · intro other member
    have isTick := areTicks other member
    obtain rfl : other = .tick := by
      cases other <;> first | rfl | cases isTick
    exact ⟨rfl, fun machine => (commute_tick isKey machine).symm⟩
  · simpa [List.filter_append, List.filter_cons, notInner] using inner
  · simpa [List.filter_append, List.filter_cons, isKey] using others

/-- A visible tick or key is the next one of the second history too. -/
theorem exists_outer
    (same : SameOff hidden (move :: rest) secondMoves)
    (isOuter : move.isInner = false)
    (visible : ¬ move.HiddenBy hidden) :
    ∃ others later,
      secondMoves = others ++ move :: later ∧
        (∀ other ∈ others, other.isInner = false ∧ Commute other move) ∧
        SameOff hidden rest (others ++ later) := by
  cases move with
  | load program => cases isOuter
  | cycle => cases isOuter
  | tick => exact same.exists_tick visible
  | press key => exact same.exists_key rfl visible
  | release key => exact same.exists_key rfl visible

/-- A list that starts with a move in front of it starts with the move at once. -/
theorem nil_of_cons_eq
    {outer later : List Move}
    (same : move :: rest = outer ++ move :: later)
    (absent : move ∉ outer) :
    outer = [] ∧ rest = later := by
  cases outer with
  | nil => exact ⟨rfl, List.tail_eq_of_cons_eq same⟩
  | cons first others =>
      obtain rfl := List.head_eq_of_cons_eq same
      exact (absent List.mem_cons_self).elim

/--
A program or a cycle is the next one of the second history too, behind hidden
moves at most.
-/
theorem exists_inner
    (same : SameOff hidden (move :: rest) secondMoves)
    (isInner : move.isInner) :
    ∃ outer later,
      secondMoves = outer ++ move :: later ∧
        (∀ other ∈ outer, other.HiddenBy hidden) ∧
        SameOff hidden rest later := by
  have notKey : move.isKey = false := by
    cases move <;> first | rfl | cases isInner
  have notTick : move.isTick = false := by
    cases move <;> first | rfl | cases isInner
  obtain ⟨outer, later, rfl, areOuter, sameLater⟩ :=
    exists_seen isInner same.inner
  have noInner : outer.filter Move.isInner = [] :=
    List.filter_eq_nil_iff.mpr fun other member =>
      Bool.eq_false_iff.mp (areOuter other member)
  rw [List.filter_append, noInner, List.nil_append] at sameLater
  have absent : move ∉ outer := fun member =>
    Bool.eq_false_iff.mp (areOuter move member) isInner
  -- What is visible of the moves in front of it would have to be `move` itself.
  have ticks
      (visible : ¬ (.delayTimer ∈ hidden ∧ .soundTimer ∈ hidden)) :
      (outer.filter fun move => !move.isKey) = [] ∧
        (rest.filter fun move => !move.isKey) =
          later.filter fun move => !move.isKey := by
    have whole := same.ticks visible
    rw [List.filter_append, List.filter_cons_of_pos (by simp [notKey]),
      List.filter_cons_of_pos (by simp [notKey])] at whole
    exact nil_of_cons_eq whole fun member =>
      absent (List.mem_filter.mp member).1
  have keys
      (visible : .keypad ∉ hidden) :
      (outer.filter fun move => !move.isTick) = [] ∧
        (rest.filter fun move => !move.isTick) =
          later.filter fun move => !move.isTick := by
    have whole := same.keys visible
    rw [List.filter_append, List.filter_cons_of_pos (by simp [notTick]),
      List.filter_cons_of_pos (by simp [notTick])] at whole
    exact nil_of_cons_eq whole fun member =>
      absent (List.mem_filter.mp member).1
  have outerSame : SameOff hidden [] outer :=
    ⟨noInner.symm, fun visible => (ticks visible).1.symm,
      fun visible => (keys visible).1.symm⟩
  exact ⟨outer, later, rfl, outerSame.hidden_of_nil, sameLater,
    fun visible => (ticks visible).2, fun visible => (keys visible).2⟩

end Move.SameOff

namespace Machine

variable
  {width height : Int}
  {hidden : Set Input}
  {first second : Machine}

theorem cycleResults_cons_of_outer
    (machine : Machine)
    {move : Move}
    (isOuter : move.isInner = false)
    (rest : List Move) :
    machine.cycleResults (move :: rest) =
      (machine.after move).cycleResults rest := by
  cases move <;> first | rfl | cases isOuter

/-- Between two cycles nothing comes of anything. -/
theorem cycleResults_of_outer
    (machine : Machine)
    {moves : List Move}
    (areOuter : ∀ move ∈ moves, move.isInner = false) :
    machine.cycleResults moves = [] := by
  induction moves generalizing machine with
  | nil => rfl
  | cons move rest inductionHypothesis =>
      have ⟨outerHere, outerThere⟩ := List.forall_mem_cons.mp areOuter
      rw [cycleResults_cons_of_outer machine outerHere]
      exact inductionHypothesis _ outerThere

/-- A move that commutes with all in front of it may come first. -/
theorem afterAll_of_commute
    (machine : Machine)
    {others : List Move}
    {move : Move}
    (commute : ∀ other ∈ others, other.Commute move) :
    (machine.afterAll others).after move =
      (machine.after move).afterAll others := by
  induction others generalizing machine with
  | nil => rfl
  | cons other rest inductionHypothesis =>
      have ⟨commuteHere, commuteThere⟩ := List.forall_mem_cons.mp commute
      rw [afterAll_cons, inductionHypothesis _ commuteThere,
        commuteHere machine, afterAll_cons]

theorem cycleResults_of_commute
    (machine : Machine)
    {others later : List Move}
    {move : Move}
    (isOuter : move.isInner = false)
    (areOuter :
      ∀ other ∈ others, other.isInner = false ∧ other.Commute move) :
    machine.cycleResults (others ++ move :: later) =
      (machine.after move).cycleResults (others ++ later) := by
  have noCycle (start : Machine) : start.cycleResults others = [] :=
    start.cycleResults_of_outer fun other member => (areOuter other member).1
  calc
    machine.cycleResults (others ++ move :: later)
        = ((machine.afterAll others).after move).cycleResults later := by
          rw [cycleResults_append, noCycle, List.nil_append,
            cycleResults_cons_of_outer _ isOuter]
    _ = ((machine.after move).afterAll others).cycleResults later := by
          rw [machine.afterAll_of_commute fun other member =>
            (areOuter other member).2]
    _ = (machine.after move).cycleResults (others ++ later) := by
          rw [cycleResults_append, noCycle, List.nil_append]

namespace AgreesOff

theorem symm
    (agrees : AgreesOff hidden first second) :
    AgreesOff hidden second first where
  memory := agrees.memory.symm
  registers := agrees.registers.symm
  stack := agrees.stack.symm
  stackTop := agrees.stackTop.symm
  programCounter := agrees.programCounter.symm
  indexRegister := agrees.indexRegister.symm
  displayChanged := agrees.displayChanged.symm
  delayTimer visible := (agrees.delayTimer visible).symm
  soundTimer visible := (agrees.soundTimer visible).symm
  keypad visible := (agrees.keypad visible).symm
  display visible := (agrees.display visible).symm
  random visible count := (agrees.random visible count).symm

/-- A hidden move may happen to one of two machines that agree. -/
theorem after_hidden
    (agrees : AgreesOff hidden first second)
    {move : Move}
    (isHidden : move.HiddenBy hidden) :
    AgreesOff hidden (first.after move) second := by
  cases move with
  | load program => exact isHidden.elim
  | cycle => exact isHidden.elim
  | tick =>
      exact
        { agrees with
          delayTimer := fun visible => (visible isHidden.1).elim
          soundTimer := fun visible => (visible isHidden.2).elim }
  | press key =>
      exact { agrees with keypad := fun visible => (visible isHidden).elim }
  | release key =>
      exact { agrees with keypad := fun visible => (visible isHidden).elim }

theorem afterAll_hidden
    (agrees : AgreesOff hidden first second)
    {moves : List Move}
    (areHidden : ∀ move ∈ moves, move.HiddenBy hidden) :
    AgreesOff hidden first (second.afterAll moves) := by
  induction moves generalizing second with
  | nil => exact agrees
  | cons move rest inductionHypothesis =>
      have ⟨hiddenHere, hiddenThere⟩ := List.forall_mem_cons.mp areHidden
      have next := (agrees.symm.after_hidden hiddenHere).symm
      exact inductionHypothesis next hiddenThere

/-- A tick or a key may happen to both of two machines that agree. -/
theorem after_outer
    (agrees : AgreesOff hidden first second)
    {move : Move}
    (outer : move.isInner = false) :
    AgreesOff hidden (first.after move) (second.after move) := by
  cases move with
  | load program => cases outer
  | cycle => cases outer
  | tick =>
      exact
        { agrees with
          delayTimer := fun visible =>
            congrArg countDown (agrees.delayTimer visible)
          soundTimer := fun visible =>
            congrArg countDown (agrees.soundTimer visible) }
  | press key =>
      exact
        { agrees with
          keypad := fun visible =>
            congrArg (Keypad.press · key) (agrees.keypad visible) }
  | release key =>
      exact
        { agrees with
          keypad := fun visible =>
            congrArg (Keypad.release · key) (agrees.keypad visible) }

theorem afterAll_outer
    (agrees : AgreesOff hidden first second)
    {moves : List Move}
    (areOuter : ∀ move ∈ moves, move.isInner = false) :
    AgreesOff hidden (first.afterAll moves) (second.afterAll moves) := by
  induction moves generalizing first second with
  | nil => exact agrees
  | cons move rest inductionHypothesis =>
      have ⟨outerHere, outerThere⟩ := List.forall_mem_cons.mp areOuter
      exact inductionHypothesis (agrees.after_outer outerHere) outerThere

/-- A program is loaded, or refused, alike. -/
theorem after_load
    (agrees : AgreesOff hidden first second)
    (program : List UInt8) :
    AgreesOff hidden (first.after (.load program))
      (second.after (.load program)) := by
  by_cases tooLong : programRoom < program.length
  · rw [after, after, Action.run_load_of_tooLong tooLong,
      Action.run_load_of_tooLong tooLong]
    exact agrees
  · have fits := Nat.not_lt.mp tooLong
    obtain ⟨memory, stored, ran⟩ :=
      Action.exists_run_load_of_writeSpan fits first
    obtain ⟨memoryToo, storedToo, ranToo⟩ :=
      Action.exists_run_load_of_writeSpan fits second
    rw [agrees.memory, storedToo] at stored
    obtain rfl := Except.ok.inj stored
    rw [after, after, ran, ranToo]
    exact { agrees with memory := rfl }

end AgreesOff

/-- Runs that end alike leave machines that agree. -/
theorem EndsAlike.agrees
    {α : Type}
    {firstResult secondResult : EStateM.Result Fault Machine α}
    (alike : EndsAlike hidden firstResult secondResult) :
    AgreesOff hidden (machineOf firstResult) (machineOf secondResult) := by
  cases alike with
  | ok value agrees => exact agrees
  | error fault agrees => exact agrees

/-- Hidden moves run no cycle. -/
theorem cycleResults_of_hidden
    (machine : Machine)
    {moves : List Move}
    (areHidden : ∀ move ∈ moves, move.HiddenBy hidden) :
    machine.cycleResults moves = [] :=
  machine.cycleResults_of_outer fun move member =>
    (areHidden move member).isOuter

/--
Histories that differ in hidden moves only end alike in each of their cycles.

The induction is on the first history. A hidden move of it changes nothing that
counts; any other move is looked up in the second history, where it comes
behind moves that are hidden or that it commutes with.
-/
theorem cycleResults_endAlike
    (bounded : first.Bounded width height)
    (agrees : AgreesOff hidden first second)
    {firstMoves secondMoves : List Move}
    (same : Move.SameOff hidden firstMoves secondMoves)
    (place : Nat)
    (ignores :
      ∀ earlier ≤ place,
        ∀ executed next,
          (first.cycleResults firstMoves)[earlier]? = some (.ok executed next) →
          executed.instruction.operation.Ignores hidden) :
    Option.Rel (EndsAlike hidden)
      (first.cycleResults firstMoves)[place]?
      (second.cycleResults secondMoves)[place]? := by
  induction firstMoves generalizing first second secondMoves place with
  | nil =>
      rw [second.cycleResults_of_hidden same.hidden_of_nil]
      exact .none
  | cons move rest inductionHypothesis =>
      have next := bounded.after move
      by_cases isHidden : move.HiddenBy hidden
      · rw [cycleResults_cons_of_outer first isHidden.isOuter] at ignores ⊢
        exact inductionHypothesis next (agrees.after_hidden isHidden)
          (same.tail_of_hidden isHidden) place ignores
      cases inner : move.isInner with
      | false =>
          obtain ⟨others, later, rfl, areOuter, sameLater⟩ :=
            same.exists_outer inner isHidden
          rw [second.cycleResults_of_commute inner areOuter]
          rw [cycleResults_cons_of_outer first inner] at ignores ⊢
          exact inductionHypothesis next (agrees.after_outer inner) sameLater
            place ignores
      | true =>
          obtain ⟨outer, later, rfl, areHidden, sameLater⟩ :=
            same.exists_inner inner
          have agreesHere := agrees.afterAll_hidden areHidden
          rw [cycleResults_append, second.cycleResults_of_hidden areHidden,
            List.nil_append]
          cases move with
          | tick => cases inner
          | press key => cases inner
          | release key => cases inner
          | load program =>
              exact inductionHypothesis next (agreesHere.after_load program)
                sameLater place ignores
          | cycle =>
              have alike :=
                Action.endsAlike_cycle bounded agreesHere
                  fun executed next ran =>
                    ignores 0 (Nat.zero_le place) executed next
                      (congrArg some ran)
              cases place with
              | zero => exact .some alike
              | succ place =>
                  exact inductionHypothesis next alike.agrees sameLater place
                    fun earlier atMost =>
                      ignores (earlier + 1) (Nat.succ_le_succ atMost)

end Machine

/-! What the rate of the loop decides. -/

/-- The inputs that a tick changes. -/
def Input.timers : Set Input :=
  {.delayTimer, .soundTimer}

theorem Operation.ignores_timers
    {operation : Operation}
    (notReader : operation ≠ .ldVxDt) :
    operation.Ignores Input.timers := by
  rintro input (rfl | rfl) reads
  · exact notReader (List.mem_singleton.mp reads)
  · exact List.not_mem_nil reads

/-- The keys of a frame are outside of the machine. -/
theorem isInner_of_mem_keyMoves
    {events : List Event}
    {move : Move}
    (member : move ∈ keyMoves events) :
    move.isInner = false := by
  obtain ⟨key, rfl | rfl⟩ := exists_key_of_mem_keyMoves member
  · rfl
  · rfl

/-- A request as it is made at another rate. -/
def Request.atRate
    (rate : Int) :
    Request →
    Request
  | .pace _ => .pace rate
  | request => request

/--
Whether a session differs from one at another rate in that rate and in
hidden inputs only.
-/
structure Session.AgreesOff
    (hidden : Set Input)
    (otherRate : Int)
    (session other : Session) : Prop where
  machine :
    session.machine.AgreesOff hidden other.machine
  requests :
    other.requests = session.requests.map (Request.atRate otherRate)
  executed :
    other.executed = session.executed
  fault :
    other.fault = session.fault

namespace Machine.AgreesOff

variable {first second : Machine}

theorem afterCycle
    (agrees : AgreesOff Input.timers first second)
    (rate otherRate : Int)
    (cycles : Nat) :
    AgreesOff Input.timers (first.afterCycle rate cycles)
      (second.afterCycle otherRate cycles) := by
  have isHidden : Move.HiddenBy Input.timers .tick :=
    ⟨Or.inl rfl, Or.inr rfl⟩
  have firstTicks := agrees.after_hidden isHidden
  have secondTicks := (agrees.symm.after_hidden isHidden).symm
  have bothTick := (firstTicks.symm.after_hidden isHidden).symm
  simp only [Machine.afterCycle]
  split <;> split
  · exact bothTick
  · exact firstTicks
  · exact secondTicks
  · exact agrees

/-- What is shown does not depend on the timers. -/
theorem showRequests
    (agrees : AgreesOff Input.timers first second)
    (rate : Int) :
    second.showRequests = first.showRequests.map (Request.atRate rate) := by
  have visible : Input.display ∉ Input.timers := by
    rintro (isTimer | isTimer) <;> cases isTimer
  simp only [Machine.showRequests, ← agrees.displayChanged,
    ← agrees.display visible]
  split <;> rfl

end Machine.AgreesOff

theorem Machine.Bounded.afterCycle
    {width height : Int}
    {machine : Machine}
    (bounded : machine.Bounded width height)
    (rate : Int)
    (cycles : Nat) :
    (machine.afterCycle rate cycles).Bounded width height := by
  rw [Machine.afterCycle]
  split
  · exact bounded.countDownTimers
  · exact bounded

namespace Session

variable {width height : Int} {first second : Machine}

/--
Loops at two rates agree but for the timers if the first one does not read them.
-/
theorem runFrom_agreesOff
    (bounded : first.Bounded width height)
    (agrees : first.AgreesOff Input.timers second)
    (rate otherRate : Int)
    (cycles : Nat)
    (frames : List (List Event))
    (unread :
      ∀ executed ∈ (runFrom rate cycles first frames).executed,
        executed.instruction.operation ≠ .ldVxDt) :
    (runFrom rate cycles first frames).AgreesOff Input.timers otherRate
      (runFrom otherRate cycles second frames) := by
  induction frames generalizing first second cycles with
  | nil => exact ⟨agrees, rfl, rfl, rfl⟩
  | cons frame rest inductionHypothesis =>
      let keys := keyMoves (frame.takeWhile fun event => !event.ends)
      have boundedHere : (first.afterAll keys).Bounded width height :=
        bounded.afterAll keys
      have agreesHere :
          (first.afterAll keys).AgreesOff Input.timers
            (second.afterAll keys) :=
        agrees.afterAll_outer fun move => isInner_of_mem_keyMoves
      rw [runFrom, first.afterFrame_eq] at unread ⊢
      rw [runFrom, second.afterFrame_eq]
      cases ends : frame.any Event.ends with
      | true => exact ⟨agreesHere, rfl, rfl, rfl⟩
      | false =>
          simp only [ends] at unread ⊢
          have alike :=
            Action.endsAlike_cycle boundedHere agreesHere
              fun executed next ran =>
                Operation.ignores_timers
                  (unread executed (by rw [ran]; exact List.mem_cons_self))
          have boundedNext := boundedHere.cycle
          -- The two cycles are told apart by how they end only.
          generalize Action.cycle.run (first.afterAll keys) = firstRan
            at alike unread boundedNext ⊢
          generalize Action.cycle.run (second.afterAll keys) = secondRan
            at alike ⊢
          cases alike with
          | error fault agreesNext => exact ⟨agreesNext, rfl, rfl, rfl⟩
          | @ok executed firstNext secondNext agreesNext =>
              have boundedNext : firstNext.Bounded width height := boundedNext
              have later :=
                inductionHypothesis
                  (boundedNext.afterCycle rate (cycles + 1))
                  (agreesNext.afterCycle rate otherRate (cycles + 1))
                  (cycles + 1)
                  fun other member =>
                    unread other (List.mem_cons_of_mem executed member)
              exact
                { machine := later.machine
                  executed := congrArg (executed :: ·) later.executed
                  fault := later.fault
                  requests := by
                    simp only [Session.after, List.cons_append, List.map_cons,
                      List.map_append, later.requests, Request.atRate,
                      agreesNext.showRequests otherRate] }

/-- Fewer frames execute the first instructions of more frames. -/
theorem executed_runFrom_take
    (rate : Int)
    (cycles : Nat)
    (machine : Machine)
    (frames : List (List Event))
    (count : Nat) :
    (runFrom rate cycles machine (frames.take count)).executed =
      (runFrom rate cycles machine frames).executed.take count := by
  induction frames generalizing machine cycles count with
  | nil => simp only [List.take_nil, runFrom]
  | cons frame rest inductionHypothesis =>
      cases count with
      | zero => simp only [List.take_zero, runFrom]
      | succ count =>
          rw [List.take_succ_cons, runFrom, runFrom, machine.afterFrame_eq]
          cases frame.any Event.ends with
          | true => rfl
          | false =>
              dsimp only
              cases Action.cycle.run (machine.afterAll _) with
              | error fault stopped => rfl
              | ok executed next =>
                  exact congrArg (executed :: ·) (inductionHypothesis _ _ _)

end Session

open Machine in
/--
Inputs reach a program only through the instructions that read them.

Two machines that agree on all but hidden inputs are compared, and so are two
histories that go on from them and differ in hidden moves only. Up to a cycle
before which, and in which, the first history executes no reader of a hidden
input, each cycle executes the same instruction or meets the same fault in
both, and leaves machines that agree as before. Loops at two rates agree
but for the timers as long as the delay timer is not read.
-/
theorem inputs_reach_only_readers
    (width height : Int)
    (wide : 1 ≤ width)
    (tall : 1 ≤ height)
    (firstRandom secondRandom : RandomTape)
    (firstPast secondPast : List Move) :
    let blank := Display.blank width height
    let first := (fresh blank firstRandom).afterAll firstPast
    let second := (fresh blank secondRandom).afterAll secondPast
    (∀ (hidden : Set Input) (firstMoves secondMoves : List Move),
      first.AgreesOff hidden second →
      Move.SameOff hidden firstMoves secondMoves →
      ∀ place : Nat,
        (∀ earlier ≤ place,
          ∀ executed next,
            (first.cycleResults firstMoves)[earlier]? =
              some (.ok executed next) →
            executed.instruction.operation.Ignores hidden) →
        Option.Rel (EndsAlike hidden)
          (first.cycleResults firstMoves)[place]?
          (second.cycleResults secondMoves)[place]?) ∧
    ∀ rate otherRate frames count,
      (∀ executed ∈ (Session.run rate frames first).executed.take count,
        executed.instruction.operation ≠ .ldVxDt) →
      (Session.run rate (frames.take count) first).AgreesOff Input.timers
        otherRate
        (Session.run otherRate (frames.take count) first) := by
  intro blank first second
  have bounded : first.Bounded width height :=
    (Bounded.fresh wide tall firstRandom).afterAll firstPast
  refine ⟨?histories, ?rates⟩
  case histories =>
    intro hidden firstMoves secondMoves agrees same place ignores
    exact cycleResults_endAlike bounded agrees same place ignores
  case rates =>
    intro rate otherRate frames count unread
    refine Session.runFrom_agreesOff bounded (.refl _ first) rate otherRate 0
      (frames.take count) ?_
    rw [Session.executed_runFrom_take]
    exact unread

open Machine in
/--
A jump ends alike whatever random numbers are to come and whether a key
is pressed.
-/
theorem inputs_reach_only_readers_of_jump :
    (1 : Int) ≤ 64 ∧ (1 : Int) ≤ 32 ∧
      let hidden : Set Input := {.random, .keypad}
      let first :=
        (fresh (Display.blank 64 32) (RandomTape.start [7])).afterAll
          [.load [0x12, 0x00]]
      let second :=
        (fresh (Display.blank 64 32) (RandomTape.start [9])).afterAll
          [.load [0x12, 0x00]]
      Option.Rel (EndsAlike hidden)
        (first.cycleResults [.cycle])[0]?
        (second.cycleResults [.press 3, .cycle])[0]? := by
  have wide : (1 : Int) ≤ 64 := by decide
  have tall : (1 : Int) ≤ 32 := by decide
  refine ⟨wide, tall, ?_⟩
  intro hidden first second
  have fresh_agree :
      (fresh (Display.blank 64 32) (RandomTape.start [7])).AgreesOff hidden
        (fresh (Display.blank 64 32) (RandomTape.start [9])) :=
    { AgreesOff.refl hidden _ with
      random := fun visible => (visible (Or.inl rfl)).elim }
  have agrees : first.AgreesOff hidden second :=
    fresh_agree.after_load [0x12, 0x00]
  have same : Move.SameOff hidden [.cycle] [.press 3, .cycle] :=
    ⟨rfl, fun _ => rfl, fun visible => (visible (Or.inr rfl)).elim⟩
  have facts :=
    inputs_reach_only_readers 64 32 wide tall (RandomTape.start [7])
      (RandomTape.start [9]) [.load [0x12, 0x00]] [.load [0x12, 0x00]]
  refine facts.1 hidden [.cycle] [.press 3, .cycle] agrees same 0 ?_
  have atWord : first.word = 0x1000 + ((0x200 : Fin 0x1000) : Nat) :=
    word_after_load_pair _ rfl 0x12 0x00
  have atStart : first.programCounter = 0x200 :=
    programCounter_after_load_pair _ 0x12 0x00
  have ran := run_cycle_of_jump (by omega) (by omega) 0x200 atWord
  intro earlier atMost executed next ranHere
  obtain rfl := Nat.le_zero.mp atMost
  obtain ⟨rfl, -⟩ :=
    EStateM.Result.ok.inj (ran.symm.trans (Option.some.inj ranHere))
  rintro input (rfl | rfl)
  · decide
  · decide

end ChipEight
