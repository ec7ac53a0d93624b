import Switchboard.Log

/-!
# Registry

The registry of a switchboard: every command that was ever made, in the order of making, and the
arguments that their grammars share.  A command keeps its number for good; whether the registry
still lists it is its standing, so what is listed is always in the order of making.  An operation
that is refused changes nothing, except that naming an argument may give it the name and then
refuse the display.
-/

namespace Switchboard

/-- The registry of a switchboard. -/
structure Registry where
  commands : List Command := []
  arguments : List Argument := []

/-- A change of a registry, as a host asks for it. -/
inductive Operation where
  /-- Makes a command and lists it.  A name of one letter needs the override. -/
  | create (name override : Value)
  /-- Makes a command that belongs to no registry. -/
  | make (name : Value)
  | remove (command : CommandId)
  | destroy (command : CommandId)
  | declare (command : CommandId) (declaration : Declaration)
  /-- Makes an argument and adds it to a command; what is no argument is nothing. -/
  | register (command : CommandId) (argument : Option Argument)
  /-- Calls a builder on an argument that was made before. -/
  | rebuild (argument : ArgumentId) (call : Build)

/-- What comes of an operation: the number of what was made, if anything was. -/
structure Applied where
  registry : Registry
  result : Except Failure (Option Nat)
  logs : List LogRecord := []

namespace Registry

/-- What has to be given with a name of one letter. -/
def oneCharOverride : String :=
  "YES_I_KNOW_THAT_I_SHOULD_NOT_USE_COMMANDS_WITH_LENGTH_OF_ONE"

/-- The command of a number. -/
def command? (r : Registry) (id : CommandId) : Option Command := r.commands[id]?

/-- The argument of a number. -/
def argument? (r : Registry) (id : ArgumentId) : Option Argument := r.arguments[id]?

/-- The numbers of the listed commands that pass a test, in the order of making. -/
def listedWhere (r : Registry) (p : Command → Bool) : List CommandId :=
  (r.commands.zipIdx.filter fun (c, _) => c.isListed && p c).map (·.2)

/-- The numbers of the listed commands, in the order of making. -/
def order (r : Registry) : List CommandId := r.listedWhere fun _ => true

/-- The first listed command of a name; aliases do not count. -/
def get? (r : Registry) (name : String) : Option CommandId :=
  (r.listedWhere (·.name == name)).head?

/-- The listed commands that answer to a token and are enabled. -/
def find (r : Registry) (token : String) : List CommandId :=
  r.listedWhere fun c => c.answersTo token && c.enabled

/-- The arguments that a command takes. -/
def grammar (r : Registry) (c : Command) : List Argument :=
  c.grammar.filterMap r.argument?

/-- The arguments of a command as its usage shows them. -/
def manuals (r : Registry) (c : Command) : List String :=
  (r.grammar c).map Argument.manual

/-- The usage line of a command under a marker. -/
def usage (r : Registry) (marker : String) (c : Command) : String :=
  marker ++ c.name ++ " " ++ " ".intercalate (r.manuals c)

/-- The description of a command. -/
def describeCommand (r : Registry) (c : Command) : String :=
  let texts (items : List String) : String :=
    "[" ++ ", ".intercalate (items.map Text.quoted) ++ "]"
  Argument.fieldText "command" [
    ("command", Text.quoted c.name),
    ("aliases", texts c.aliases),
    ("helptext", Text.quoted c.helpText),
    ("manuals", texts c.manualLines),
    ("arguments", "[" ++ ", ".intercalate ((r.grammar c).map Argument.describe) ++ "]"),
    ("enabled", (Value.bool c.enabled).literal),
    ("extras", (Value.bool c.tolerant).literal)]

/-- The description of a registry under a config and the marker now. -/
def describe (r : Registry) (config : Config) (marker : String) : String :=
  let names := (r.commands.filter Command.isListed).map fun c => Text.quoted c.name
  "registry(commands=[" ++ ", ".intercalate names ++ "], config=" ++ config.describe marker ++ ")"

/-- The registry with a command changed. -/
def update (r : Registry) (id : CommandId) (f : Command → Command) : Registry :=
  { r with commands := r.commands.modify id f }

/-- Refuses an operation. -/
def refuse (r : Registry) (failure : Failure) : Applied :=
  { registry := r, result := .error failure }

/-- Makes a command and lists it. -/
def create (r : Registry) (name override : Value) : Applied :=
  match name with
  | .text name =>
      if name.isEmpty || (name.length == 1 && !override.isText oneCharOverride) then
        r.refuse (.command .nameTooShort)
      else
        let duplicate := (r.get? name).isSome
        { registry := { r with commands := r.commands ++ [{ name, standing := .listed }] }
          result := .ok (some r.commands.length)
          logs := { event := .registering name } ::
            if duplicate then [{ event := .duplicate name }] else [] }
  | _ => r.refuse (.command .nameExpected)

/-- Makes a command that belongs to no registry. -/
def make (r : Registry) (name : Value) : Applied :=
  match name with
  | .text name =>
      if name.isEmpty then r.refuse (.command .nameEmpty)
      else
        { registry := { r with commands := r.commands ++ [{ name }] }
          result := .ok (some r.commands.length) }
  | _ => r.refuse (.command .nameNotText)

/-- Takes a command off the list; one that is not listed stays as it is. -/
def remove (r : Registry) (id : CommandId) : Applied :=
  match r.command? id with
  | none => r.refuse (.command .unknown)
  | some _ =>
      { registry := r.update id fun c =>
          if c.isListed then { c with standing := .removed } else c
        result := .ok none }

/-- Makes a command of no use any more. -/
def destroy (r : Registry) (id : CommandId) : Applied :=
  match r.command? id with
  | none => r.refuse (.command .unknown)
  | some c =>
      if c.isDestroyed then r.refuse (.command (.destroyed c.name))
      else
        { registry := r.update id fun c => { c with standing := .destroyed }
          result := .ok none
          logs := [{ event := .destroyed c.name }] }

/-- What is logged about a declaration that a command accepts. -/
def declarationLogs (c : Command) : Declaration → List LogRecord
  | .enable => [{ event := .enabled c.name }]
  | .disable => [{ event := .disabled c.name }]
  | _ => []

/-- Declares something about a command. -/
def declare (r : Registry) (id : CommandId) (d : Declaration) : Applied :=
  match r.command? id with
  | none => r.refuse (.command .unknown)
  | some c =>
    match c.declare d with
    | .error e => r.refuse (.command e)
    | .ok declared =>
        { registry := r.update id fun _ => declared
          result := .ok none
          logs := declarationLogs c d }

/-- Makes an argument and adds it to a command. -/
def register (r : Registry) (id : CommandId) (argument : Option Argument) : Applied :=
  let number := r.arguments.length
  let applied := r.declare id (.argument (argument.map fun _ => number))
  match applied.result, argument with
  | .ok _, some argument =>
      { applied with
        registry := { applied.registry with arguments := r.arguments ++ [argument] }
        result := .ok (some number) }
  | _, _ => applied

/-- Calls a builder on an argument.  Every grammar that holds the argument sees the change. -/
def rebuild (r : Registry) (id : ArgumentId) (call : Build) : Applied :=
  match r.argument? id with
  | none => r.refuse (.command .unknown)
  | some a =>
      let built := a.build call
      { registry := { r with arguments := r.arguments.set id built.argument }
        result := match built.error with
          | none => .ok none
          | some e => .error (.build e) }

/-- Does an operation. -/
def apply (r : Registry) : Operation → Applied
  | .create name override => r.create name override
  | .make name => r.make name
  | .remove id => r.remove id
  | .destroy id => r.destroy id
  | .declare id d => r.declare id d
  | .register id argument => r.register id argument
  | .rebuild id call => r.rebuild id call

end Registry

end Switchboard
