import QuickFill.CommandLine.Run
import Std.Time.Zoned

/-!
# The program

The program reads its arguments, the page file and the clock, leaves the rest to a
run, and ends with 0 after a run that shows a page or the help text, with 1 after a
run that fails, and with 2 when the arguments do not fit.
-/

namespace QuickFill

namespace CommandLine

/-- What a file holds, if it can be read as a text. -/
def readSource (path : String) : IO (Option String) := do
  try
    return some (← IO.FS.readFile path)
  catch _ =>
    return none

/-- The time of the system clock, in the zone of the system. -/
def systemTime : IO Instant := do
  let now ← Std.Time.DateTime.now
  let elapsed := now.toTimestamp.toNanosecondsSinceUnixEpoch.val
  return ⟨elapsed / nanosPerSecond, (elapsed % nanosPerSecond).toNat, now.offset.second.val⟩

def execute (arguments : List String) : IO UInt32 := do
  match Invocation.read arguments with
  | .error .help =>
    IO.print helpText
    return 0
  | .error .usage =>
    IO.eprintln "For more information, try '--help'."
    return 2
  | .ok invocation =>
    match invocation.run (← readSource invocation.page) (← systemTime) with
    | .ok shown =>
      IO.print shown
      return 0
    | .error fault =>
      IO.eprintln ("Error: " ++ fault.message)
      return 1

end CommandLine

end QuickFill

def main (arguments : List String) : IO UInt32 :=
  QuickFill.CommandLine.execute arguments
