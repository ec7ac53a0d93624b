import Switchboard.Failure

/-!
# Fault

What a caller is told when a line comes to nothing: a message, an optional hint after an arrow, and
a code that stays the same whatever the wording.  A fault is shown as one line, or as a few styled
lines headed by its code and kind.
-/

namespace Switchboard

/-- The stable number of a fault; a code starts with its domain. -/
inductive FaultCode where
  | commandNotFound
  | permissionDenied
  | parseError
  | requiredArgument
  | optionalArgument
  | tooManyArguments
  | invalidUsage
  | handlerFault
  deriving DecidableEq

namespace FaultCode

/-- All codes. -/
def all : List FaultCode :=
  [.commandNotFound, .permissionDenied, .parseError, .requiredArgument, .optionalArgument,
    .tooManyArguments, .invalidUsage, .handlerFault]

/-- The number of a code. -/
def number : FaultCode → Nat
  | .commandNotFound => 11101
  | .permissionDenied => 11102
  | .parseError => 11111
  | .requiredArgument => 11112
  | .optionalArgument => 11113
  | .tooManyArguments => 11114
  | .invalidUsage => 11115
  | .handlerFault => 11131

/-- The name of a code. -/
def name : FaultCode → String
  | .commandNotFound => "COMMAND_NOT_FOUND"
  | .permissionDenied => "PERMISSION_DENIED"
  | .parseError => "PARSE_ERROR"
  | .requiredArgument => "REQUIRED_ARGUMENT"
  | .optionalArgument => "OPTIONAL_ARGUMENT"
  | .tooManyArguments => "TOO_MANY_ARGUMENTS"
  | .invalidUsage => "INVALID_USAGE"
  | .handlerFault => "HANDLER_FAULT"

/-- The code of a name. -/
def ofName? (s : String) : Option FaultCode :=
  all.find? (·.name == s)

end FaultCode

/-- The labels that a host shows in the place of numbers. -/
abbrev CodeTable := List (FaultCode × Value)

/-- The label of a code: the host's, or the number. -/
def FaultCode.label (codes : CodeTable) (code : FaultCode) : String :=
  match codes.lookup code with
  | some label => label.display
  | none => decimalText code.number

/-- The kinds of faults. -/
inductive FaultKind where
  | general
  | parse
  | requiredArgument
  | optionalArgument
  | tooManyArguments
  | invalidUsage
  | permissionDenied
  | commandNotFound
  | handler
  deriving DecidableEq

namespace FaultKind

/-- All kinds. -/
def all : List FaultKind :=
  [.general, .parse, .requiredArgument, .optionalArgument, .tooManyArguments, .invalidUsage,
    .permissionDenied, .commandNotFound, .handler]

/-- The name of a kind. -/
def name : FaultKind → String
  | .general => "CommandException"
  | .parse => "ParseError"
  | .requiredArgument => "RequiredArgumentError"
  | .optionalArgument => "OptionalArgumentError"
  | .tooManyArguments => "TooManyArgumentsError"
  | .invalidUsage => "InvalidUsageError"
  | .permissionDenied => "PermissionDeniedError"
  | .commandNotFound => "CommandNotFoundError"
  | .handler => "HandlerFault"

/-- The kind of a name. -/
def ofName? (s : String) : Option FaultKind :=
  all.find? (·.name == s)

/-- The code of a fault that is given none. -/
def code : FaultKind → FaultCode
  | .general | .parse => .parseError
  | .requiredArgument => .requiredArgument
  | .optionalArgument => .optionalArgument
  | .tooManyArguments => .tooManyArguments
  | .invalidUsage => .invalidUsage
  | .permissionDenied => .permissionDenied
  | .commandNotFound => .commandNotFound
  | .handler => .handlerFault

/-- The level at which a fault is logged. -/
def level : FaultKind → Level
  | .general | .permissionDenied => .info
  | .handler => .error
  | _ => .debug

end FaultKind

/-- What may be said about a fault beside its message. -/
structure FaultOptions where
  code : Option FaultCode := none
  hint : Option Value := none
  command : Option CommandId := none
  argument : Option Argument := none
  /-- Whatever else a host says about it. -/
  extras : Record := []

namespace FaultOptions

/-- The options with others laid over them. -/
def overlay (o added : FaultOptions) : FaultOptions where
  code := added.code.or o.code
  hint := added.hint.or o.hint
  command := added.command.or o.command
  argument := added.argument.or o.argument
  extras := added.extras.foldl (fun extras (name, value) => extras.put name value) o.extras

/-- The names of the options that are given, in order. -/
def names (o : FaultOptions) : List String :=
  let given :=
    (if o.code.isSome then ["code"] else []) ++ (if o.hint.isSome then ["hint"] else []) ++
      (if o.command.isSome then ["command"] else []) ++
      (if o.argument.isSome then ["argument"] else []) ++ o.extras.map (·.1)
  given.mergeSort fun a b => decide (a ≤ b)

end FaultOptions

/-- A fault. -/
structure Fault where
  kind : FaultKind
  message : String := ""
  options : FaultOptions := {}

/-- Why a fault cannot be made or surfaced. -/
inductive FaultError where
  | messageNotText
  | optionsByPosition
  | notFault
  | notCallable
  | hintNotText

/-- The wording of a refusal. -/
def FaultError.message : FaultError → String
  | .messageNotText => ""
  | .optionsByPosition => "positional arguments are not allowed"
  | .notFault => "trigger() argument must have render() and __replace__() methods"
  | .notCallable => "trigger() reply must be callable"
  | .hintNotText => "Only str or Text can be appended to Text"

/-- A line with styles on parts of it; a part runs from its first place up to its last. -/
structure StyledLine where
  plain : String
  spans : List (Nat × Nat × String) := []

namespace StyledLine

/-- Whether the character moves the printing position without showing: bell, backspace, vertical
tabulator, form feed and carriage return. -/
def isControl (c : Char) : Bool :=
  let n := c.toNat
  n == 7 || n == 8 || n == 11 || n == 12 || n == 13

/-- The text without control characters. -/
def cleaned (s : String) : String :=
  String.ofList (s.toList.filter fun c => !isControl c)

/-- A line of parts, each with its style if it has one.  An empty part leaves no span. -/
def ofParts (parts : List (String × Option String)) : StyledLine :=
  parts.foldl
    (fun line (text, style) =>
      let start := line.plain.length
      let plain := line.plain ++ cleaned text
      match style with
      | some style =>
          if text.isEmpty then { line with plain }
          else { plain, spans := line.spans ++ [(start, plain.length, style)] }
      | none => { line with plain })
    { plain := "" }

end StyledLine

namespace Fault

/-- A fault with the message that a value gives. -/
def make (kind : FaultKind) (message : Value) (options : FaultOptions) :
    Except FaultError Fault :=
  match message with
  | .text message => .ok { kind, message, options }
  | .unset => .ok { kind, options }
  | _ => .error .messageNotText

/-- The code of a fault. -/
def code (f : Fault) : FaultCode := f.options.code.getD f.kind.code

/-- The hint of a fault, unless it counts as false. -/
def hint? (f : Fault) : Option Value := f.options.hint.filter Value.isTrue

/-- The fault as one line. -/
def render (f : Fault) : String :=
  match f.hint? with
  | some hint => f.message ++ " → " ++ hint.display
  | none => f.message

/-- The fault with options laid over its own. -/
def overlay (f : Fault) (added : FaultOptions) : Fault :=
  { f with options := f.options.overlay added }

/-- The fault as styled lines: code and kind, the message, and the hint if there is one. -/
def lines (codes : CodeTable) (f : Fault) : Except FaultError (List StyledLine) :=
  let header := StyledLine.ofParts [("[ ", none), (f.code.label codes, some "bold cyan"),
    (" | ", none), (f.kind.name, some "bold magenta"), (" ]", none)]
  let body := StyledLine.ofParts [(f.message, none)]
  match f.hint? with
  | none => .ok [header, body]
  | some (.text hint) =>
      .ok [header, body,
        StyledLine.ofParts [(" → ", some "green dim"), (hint, some "italic green")]]
  | some _ => .error .hintNotText

end Fault

end Switchboard
