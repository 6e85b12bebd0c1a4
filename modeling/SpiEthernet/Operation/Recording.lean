import SpiEthernet.Link.Recorder
import SpiEthernet.Operation.Link

/-!
# Recorded operations

Operations on the serial link of a board that only records, each with the calls it made.
-/

namespace SpiEthernet

/-- The text of a list of calls, with a space between neighbours. -/
def LinkCall.script (calls : List LinkCall) : String := " ".intercalate (calls.map text)

/-- Carries out an operation, or answers with the reason why it cannot be, and takes the calls
it made. -/
def Recorder.perform (operation : Except Error LinkOperation) :
    LinkM Recorder (Outcome × List LinkCall) := do
  let outcome ← match operation with
    | .ok operation => operation.perform
    | .error cause => pure (.failed cause)
  let calls ← modifyGet Recorder.takeCalls
  return (outcome, calls)

/-- Carries out operations one after the other. -/
def Recorder.performAll (operations : List (Except Error LinkOperation)) :
    LinkM Recorder (List (Outcome × List LinkCall)) :=
  operations.mapM Recorder.perform

end SpiEthernet
