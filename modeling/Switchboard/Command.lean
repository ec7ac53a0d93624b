import Switchboard.Argument.Basic
import Switchboard.Config

/-!
# Command

A command: its name and aliases, what help and manual say about it, who may use it, the arguments
it takes and what handles it.  Arguments are known by number, since one argument may belong to
several commands and is then the same in all of them.
-/

namespace Switchboard

/-- The number of a command, in the order of making. -/
abbrev CommandId := Nat

/-- The number of an argument, in the order of making. -/
abbrev ArgumentId := Nat

/-- What handles a command. -/
inductive Handler where
  /-- Does nothing. -/
  | idle
  /-- Lists the commands that a client may use. -/
  | help
  /-- Shows the manual of a command. -/
  | man
  | callback (callback : Callback)

/-- How a command stands to a registry. -/
inductive Standing where
  /-- Made without a registry. -/
  | loose
  /-- In a registry and listed by it. -/
  | listed
  /-- Taken off the list of its registry, which it still belongs to. -/
  | removed
  /-- Of no use any more, and of no registry. -/
  | destroyed
  deriving DecidableEq

/-- A command. -/
structure Command where
  name : String
  aliases : List String := []
  helpText : String := ""
  manualLines : List String := []
  grammar : List ArgumentId := []
  enabled : Bool := true
  /-- Whether text beyond the arguments is tolerated. -/
  tolerant : Bool := false
  standing : Standing := .loose
  /-- Who may use the command; without one, everybody. -/
  permission : Option Callback := none
  handler : Handler := .idle

/-- Why a call on a command is refused. -/
inductive CommandError where
  | nameExpected
  | nameTooShort
  | nameNotText
  | nameEmpty
  | aliasNotText
  | aliasEmpty
  | aliasIsName (name : String)
  | aliasTaken (name : String)
  | helpNotText
  | manualNotText
  | predicateNotCallable
  | argumentExpected
  | handlerNotCallable
  | destroyed (name : String)
  /-- No command, or no argument, has the number. -/
  | unknown
  deriving DecidableEq

/-- The wording of a refusal. -/
def CommandError.message : CommandError → String
  | .nameExpected => "Expected a string as command name!"
  | .nameTooShort => "Command should have a minimum length of 2!"
  | .nameNotText => "command must be a string"
  | .nameEmpty => "command needs to be at least 1 char long"
  | .aliasNotText => "alias must be a string"
  | .aliasEmpty => "alias needs to be at least 1 char long"
  | .aliasIsName name => "alias " ++ Text.quoted name ++ " is the same as the command name"
  | .aliasTaken name => "alias " ++ Text.quoted name ++ " already exists"
  | .helpNotText => "help text must be a string"
  | .manualNotText => "manual line must be a string"
  | .predicateNotCallable => "permission predicate must be callable"
  | .argumentExpected => "command arguments must be arguments"
  | .handlerNotCallable => "command handler must be callable"
  | .destroyed name => "command " ++ Text.quoted name ++ " has been destroyed"
  | .unknown => "list index out of range"

/-- A call that declares something about a command. -/
inductive Declaration where
  | help (text : Value)
  | manual (line : Value)
  | addAliases (aliases : List Value)
  | checkPermission (predicate : Value)
  /-- Adds an argument; what is no argument is nothing. -/
  | argument (argument : Option ArgumentId)
  | exec (handler : Value)
  | ignoreExtraArgs
  | enable
  | disable

namespace Command

/-- Whether the command is listed by its registry. -/
def isListed (c : Command) : Bool := c.standing == .listed

/-- Whether the command belongs to a registry. -/
def isAttached (c : Command) : Bool := c.standing == .listed || c.standing == .removed

/-- Whether the command is of no use any more. -/
def isDestroyed (c : Command) : Bool := c.standing == .destroyed

/-- The name and the aliases. -/
def names (c : Command) : List String := c.name :: c.aliases

/-- Whether the command answers to a token. -/
def answersTo (c : Command) (token : String) : Bool := c.names.contains token

/-- Whether the command has a help text. -/
def hasHelp (c : Command) : Bool := !c.helpText.isEmpty

/-- Whether the command has manual lines. -/
def hasManual (c : Command) : Bool := !c.manualLines.isEmpty

/-- The manual lines as one text. -/
def manualText (c : Command) : String := "\r\n".intercalate c.manualLines

/-- The command as a JSON value. -/
def toJson (c : Command) : Json :=
  .object [
    ("cmd", .string c.name),
    ("alias", .array (c.aliases.map .string)),
    ("help", .string c.helpText),
    ("manual", .array (c.manualLines.map .string))]

/-- The command as a JSON text. -/
def serialize (c : Command) : String := c.toJson.render

/-- Checks the names added to a command, which differ from the name, from the aliases before and
from each other. -/
def checkAliases (name : String) : List String → List Value → Except CommandError (List String)
  | _, [] => .ok []
  | seen, .text other :: more =>
      if other.isEmpty then .error .aliasEmpty
      else if other = name then .error (.aliasIsName other)
      else if seen.contains other then .error (.aliasTaken other)
      else (checkAliases name (other :: seen) more).map (other :: ·)
  | _, _ :: _ => .error .aliasNotText

/-- The command after a declaration. -/
def declare (c : Command) (d : Declaration) : Except CommandError Command :=
  if c.isDestroyed then .error (.destroyed c.name)
  else match d with
    | .help (.text helpText) => .ok { c with helpText }
    | .help _ => .error .helpNotText
    | .manual (.text line) => .ok { c with manualLines := c.manualLines ++ [line] }
    | .manual _ => .error .manualNotText
    | .addAliases aliases =>
        (checkAliases c.name c.aliases aliases).map fun aliases =>
          { c with aliases := c.aliases ++ aliases }
    | .checkPermission predicate =>
      match predicate.callback? with
      | some callback => .ok { c with permission := some callback }
      | none => .error .predicateNotCallable
    | .argument (some argument) => .ok { c with grammar := c.grammar ++ [argument] }
    | .argument none => .error .argumentExpected
    | .exec handler =>
      match handler.callback? with
      | some callback => .ok { c with handler := .callback callback }
      | none => .error .handlerNotCallable
    | .ignoreExtraArgs => .ok { c with tolerant := true }
    | .enable => .ok { c with enabled := true }
    | .disable => .ok { c with enabled := false }

end Command

end Switchboard
