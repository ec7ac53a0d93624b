import Switchboard.Demo

/-!
# Main

The demo on the console: every line of the input is dispatched, and what it is answered with is
printed.
-/

namespace Switchboard.Demo

/-- Answers the lines of an input until it ends. -/
partial def converse (input : IO.FS.Stream) (w : World Unit) : IO Unit := do
  let line ← input.getLine
  unless line.isEmpty do
    let (texts, w) := answer w line
    for text in texts do
      IO.println text
    converse input w

end Switchboard.Demo

/-- Runs the demo. -/
def main : IO Unit := do
  Switchboard.Demo.converse (← IO.getStdin) Switchboard.Demo.start
