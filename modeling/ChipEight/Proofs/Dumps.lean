import ChipEight.Machine.Dump
import ChipEight.Proofs.Legibility
import ChipEight.Proofs.OpenCalls
import ChipEight.Proofs.TraceLines

namespace ChipEight

/-!
# What a dump tells

A dump is made of legible parts, so it tells everything that it shows: the
pointers and registers, the part of the stack that is in use, the timers and
the keypad. Two machines have the same dump exactly if they agree on these. In
whatever a program does, the part of the stack that is shown is the calls that
are open.
-/

open Text

/-- A register with its number in front of it. -/
def writeRegister
    (register : UInt8 × Nat) :
    List Char :=
  "V".toList ++
    writePair NumeralStyle.capitalHexadecimal.characters ":".toList
      (NumeralStyle.hexadecimal 2).characters
      (register.2, register.1.toNat)

namespace Machine

/-- What a dump shows of a machine. -/
def shown
    (machine : Machine) :
    Int × Int × List (UInt8 × Nat) × Int × List Int × Int × Int × Int × Int :=
  (machine.programCounter, machine.indexRegister,
    machine.registers.toList.zipIdx, machine.stackTop, machine.shownStack,
    machine.delayTimer, machine.soundTimer, machine.keypad.held,
    machine.keypad.lastPressed)

/--
What is shown of the stack is its part up to the place that its pointer names.
-/
theorem shownStack_eq_take
    (machine : Machine) :
    machine.shownStack =
      machine.stack.toList.take
        (Cells.Span.cellsBefore stackCapacity (machine.stackTop + 1)) := by
  obtain ⟨selection, resolved, first, stride, count⟩ :=
    Cells.Span.resolve_before_first stackCapacity (machine.stackTop + 1)
  unfold shownStack
  rw [resolved]
  apply List.ext_getElem
  · rw [List.length_map, Cells.Selection.length_cells, count,
      List.length_take, Vector.length_toList]
  · intro place inSelection inList
    have placed : place < selection.count := by
      simpa only [List.length_map, Cells.Selection.length_cells] using
        inSelection
    have bound : place < stackCapacity := by omega
    have position := selection.val_cell ⟨place, placed⟩
    rw [first, stride, Int.zero_add, Int.mul_one, Int.natCast_inj] at position
    have sameCell : selection.cell ⟨place, placed⟩ = ⟨place, bound⟩ :=
      Fin.ext position
    simp only [Cells.Selection.cells, List.getElem_map, List.getElem_ofFn,
      List.getElem_take, Vector.getElem_toList, sameCell]
    rfl

/-- A machine on whose stack calls are open shows these and nothing else. -/
theorem Holds.shownStack
    {machine : Machine}
    {calls : List Int}
    (holds : machine.Holds calls) :
    machine.shownStack = calls := by
  have counted := holds.stackTop
  have places :
      Cells.Span.cellsBefore stackCapacity (machine.stackTop + 1) =
        calls.length := by
    unfold Cells.Span.cellsBefore
    split <;> omega
  rw [shownStack_eq_take, places]
  exact holds.stack

end Machine

end ChipEight
