import Switchboard.Pattern.Parser
import Switchboard.Pattern.Matcher
import Switchboard.Text.Quoted

/-!
# Pattern

A search pattern: its text, its switches and the tests they amount to.  A pattern is made by
reading a text, or from a text that is looked for as it stands.  A host may also hand over a pattern
of its own that is one for bytes; no text can be searched for it.
-/

namespace Switchboard

/-- A search pattern. -/
structure Pattern where
  source : String
  flags : Pattern.Flags
  program : Pattern.Node
  /-- The pattern is one for bytes.  Its source then has a character for each byte. -/
  ofBytes : Bool := false

namespace Pattern

/-- Reads a pattern under the given switches. -/
def compile (source : String) (flags : Flags := {}) : Except Error Pattern := do
  let parsed ← parse flags source.toList
  let widths (group : Nat) : Width := ((parsed.groups[group - 1]?).getD none).getD ⟨0, 0⟩
  let program ← sequenceNode widths parsed.flags parsed.pieces
  return { source, flags := parsed.flags, program }

/-- The pattern that looks for a text as it stands, in any case of its letters. -/
def literally (source : String) : Pattern where
  source
  flags := { ignoreCase := true, unicode := true }
  program := source.toList.foldr
    (fun c rest => .sequence (.char (.letter .unicode c.toNat false)) rest) .empty

/-- Whether a pattern for texts has a match somewhere in the text. -/
def search (p : Pattern) (text : List Char) : Bool :=
  p.program.searchFrom 0 [] text

/-- The names of the switches that are on, in the order in which they are shown. -/
def Flags.names (flags : Flags) : List String :=
  [(flags.template, "TEMPLATE"), (flags.ignoreCase, "IGNORECASE"), (flags.locale, "LOCALE"),
    (flags.multiline, "MULTILINE"), (flags.dotAll, "DOTALL"), (flags.verbose, "VERBOSE"),
    (flags.ascii, "ASCII")].filterMap
    fun (on, name) => if on then some name else none

/-- The literal of the source. -/
def literalChars (p : Pattern) : List Char :=
  if p.ofBytes then 'b' :: Text.quotedByteChars p.source.toList
  else Text.quotedChars p.source.toList

/-- The description of a pattern: the first two hundred characters of its literal, and its
switches. -/
def describe (p : Pattern) : String :=
  let literal := String.ofList (p.literalChars.take 200)
  let flags := String.intercalate "|" (p.flags.names.map ("re." ++ ·))
  if flags.isEmpty then "re.compile(" ++ literal ++ ")"
  else "re.compile(" ++ literal ++ ", " ++ flags ++ ")"

end Pattern

end Switchboard
