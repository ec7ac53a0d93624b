import Switchboard.Host

/-!
# Handbook

The two commands that tell about commands.  `help` lists what a caller may use and has a help text,
perhaps only what a filter is found in.  `man` shows the usage and the manual of the commands of a
name.  Both see a command only if it is listed, enabled and permitted to the caller.
-/

namespace Switchboard.Handbook

/-- The commands of a name that the caller may use, in order; the unset value is every name. -/
def available {σ : Type} (name : Value) : Act σ (List Command) := do
  let ids ← Act.available name
  let registry ← Act.registry
  pure (ids.filterMap registry.command?)

/-- The pattern that a filter is: a search pattern in any case of letters, or, if it is not well
formed as one, the text itself. -/
def filterPattern (filter : String) : Except Failure Pattern :=
  match Pattern.compile filter { ignoreCase := true } with
  | .ok p => .ok p
  | .error .malformed => .ok (Pattern.literally filter)
  | .error e => .error (.pattern e)

/-- Whether a pattern is found in the name, an alias or the help text of a command. -/
def mentions (p : Pattern) (c : Command) : Bool :=
  p.search c.name.toList || c.aliases.any (fun name => p.search name.toList) ||
    p.search c.helpText.toList

/-- The commands that a filter is found in; a value that counts as false filters nothing. -/
def filtered {σ : Type} (filter : Option Value) (commands : List Command) :
    Act σ (List Command) :=
  match filter with
  | none => pure commands
  | some filter =>
      if !filter.isTrue then pure commands
      else
        match filter with
        | .text filter =>
          match filterPattern filter with
          | .ok p => pure (commands.filter (mentions p))
          | .error e => .fail e
        | _ => .fail .filterNotText

/-- Replies with a line for each command. -/
def listing {σ : Type} : List Command → Act σ Unit
  | [] => pure ()
  | c :: commands => do
    let marker ← Act.marker
    let shown ← Act.embolden (marker ++ c.name)
    Act.reply (shown ++ " - " ++ c.helpText)
    listing commands

/-- Lists the commands that the caller may use and that have a help text: first their number, then
a line for each. -/
def help {σ : Type} : Act σ Value := do
  let commands ← available .unset
  let record ← Act.record
  let commands ← filtered (record.get? "filter") (commands.filter Command.hasHelp)
  let count ← Act.embolden (decimalText commands.length)
  Act.reply (count ++ " Commands found:")
  listing commands
  pure .null

/-- What the manual of a command says: the manual lines, or the help text, or that there is
none. -/
def manualBody (c : Command) : String :=
  if c.hasManual then c.manualText
  else if c.hasHelp then c.helpText
  else "No manual for this command available!"

/-- Replies with the manual of each command. -/
def manuals {σ : Type} : List Command → Act σ Unit
  | [] => pure ()
  | c :: commands => do
    let name ← Act.embolden c.name
    let heading ← Act.embolden "Usage:"
    let marker ← if c.isAttached then Act.marker else pure defaultMarker
    let registry ← Act.registry
    Act.reply ("\nManual for command: " ++ name ++ "\n" ++ heading ++ " " ++
      registry.usage marker c ++ "\n\n" ++ manualBody c)
    manuals commands

/-- Shows the manuals of the commands of a name that the caller may use. -/
def man {σ : Type} : Act σ Value := do
  match (← Act.record).get? "command" with
  | none => .fail (.noValue "command")
  | some name => do
    let commands ← available name
    if commands.isEmpty then
      Act.reply
        "No command with valid manual documentation found! Maybe did you misstype the command?"
      pure .null
    else
      manuals commands
      pure .null

/-- Adds a command of the handbook with its one argument. -/
def add (r : Registry) (c : Command) (argument : Argument) : Registry × List LogRecord :=
  let applied := r.create (.text c.name) .unset
  let number := r.arguments.length
  ({ commands := r.commands ++ [{ c with standing := .listed, grammar := [number] }]
     arguments := r.arguments ++ [argument] }, applied.logs)

/-- The argument of `help`: a filter, which may be left out. -/
def filterArgument : Argument :=
  .string { name := "filter", display := "filter", need := .optional none } { minimum := some 1 }

/-- The argument of `man`: the name of a command. -/
def commandArgument : Argument :=
  .string { name := "command", display := "command" } { minimum := some 1 }

/-- The command `help`. -/
def helpCommand : Command where
  name := "help"
  helpText := "Displays this text"
  manualLines := ["Displays a list of useable commands",
    "you can search/filter for a specific commands by adding a keyword"]
  handler := .help

/-- The command `man`. -/
def manCommand : Command where
  name := "man"
  helpText := "Displays detailed help about a command if available"
  manualLines := ["Displays detailed usage help for a specific command"]
  handler := .man

/-- Adds both commands to a registry, `help` first. -/
def install (r : Registry) : Registry × List LogRecord :=
  let (r, logs) := add r helpCommand filterArgument
  let (r, more) := add r manCommand commandArgument
  (r, logs ++ more)

end Switchboard.Handbook
