import ChipEight.Fault
import ChipEight.Text.Integer

namespace ChipEight

/-!
# Asking for tracing

A variable of the environment asks for tracing when it is set to a whole number
of at least one. When it is set, it must be a whole number.
-/

/-- The name of the variable that asks for tracing. -/
def tracingVariable : String := "DEBUG"

/-- Whether the value of the variable, if it is set, asks for tracing. -/
def tracingAskedBy :
    Option String →
    Except Fault Bool
  | none => .ok false
  | some text =>
      match Text.readInteger text with
      | .ok number => .ok (1 ≤ number)
      | .error .malformed => .error (.notAnInteger text)
      | .error (.tooLong count) => .error (.tooManyDigits count Text.digitLimit)

end ChipEight
