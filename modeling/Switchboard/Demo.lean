import Switchboard.Dispatch

/-!
# Demo

A small switchboard on a console: the handbook, a die to roll, and a command that repeats a text.
The console is the only client, and whatever is sent anywhere is printed on it.
-/

namespace Switchboard.Demo

/-- Rolls a die. -/
def roll : Act Unit Value := do
  match (← Act.record).get? "sides" with
  | none => .fail (.noValue "sides")
  | some sides => do
    Act.reply ("rolled a " ++ sides.display ++ "-sided die")
    pure .null

/-- Repeats a text, in upper case if the tone is loud. -/
def say : Act Unit Value := do
  let record ← Act.record
  match record.get? "text", record.get? "tone" with
  | some text, some tone => do
    let text := text.display
    Act.reply (if tone.isText "loud" then String.ofList (Text.upper text.toList) else text)
    pure .null
  | none, _ => .fail (.noValue "text")
  | _, none => .fail (.noValue "tone")

/-- The host of the demo: it emphasises with stars, and its chat takes every text. -/
def host : Host Unit where
  readMarker _ _ := (.ok .unset, ())
  embolden _ text _ := (.ok (.text ("*" ++ text ++ "*")), ())
  permits _ _ _ := (.ok (.bool true), ())
  deliver _ _ _ := (.ok (), ())
  handle id _ := if id = 0 then roll else say

/-- The demo as it is set up. -/
def setup : Setup Unit where
  host := host
  config := { bold := some (.host 0) }
  backend := true

/-- Adds `roll` and `say` to a registry. -/
def addCommands (r : Registry) : Registry :=
  let first := r.arguments.length
  let sides : Argument := .number
    { name := "sides", display := "sides", need := .optional (some (.int 6)) }
    { integral := true, sign := some .positive }
  let tone : Argument := .string
    { name := "tone", display := "tone", need := .optional (some (.text "quiet")) }
    { words := some ["loud", "quiet"] }
  let text : Argument := .rest { name := "text", display := "text" } { minimum := some 1 }
  { commands := r.commands ++ [
      { name := "roll", helpText := "Rolls a die"
        manualLines := ["Rolls a die with the given number of sides (6 by default)"]
        grammar := [first], standing := .listed, handler := .callback (.host 0) },
      { name := "say", helpText := "Repeats a text, optionally shouting it"
        grammar := [first + 1, first + 2], standing := .listed
        handler := .callback (.host 1) }]
    arguments := r.arguments ++ [sides, tone, text] }

/-- The demo before its first line. -/
def start : World Unit :=
  { registry := addCommands (Handbook.install {}).1, memory := () }

/-- The texts that a trace shows were sent. -/
def printed (trace : List Entry) : List String :=
  trace.filterMap fun
    | .sent _ _ _ text none => some text
    | _ => none

/-- Dispatches a line and gives the texts that it is answered with. -/
def answer (w : World Unit) (line : String) : List String × World Unit :=
  let text := String.ofList (Text.dropEndWhile (· == '\n') line.toList)
  let event : Event := { text := .text text, client := { name := "console" } }
  let (_, after) := (setup.dispatch event).run { w with trace := [] }
  (printed after.trace, after)

/-- The texts that lines are answered with, one line after the other. -/
def answers : World Unit → List String → List String
  | _, [] => []
  | w, line :: lines =>
    let (texts, w) := answer w line
    texts ++ answers w lines

end Switchboard.Demo
