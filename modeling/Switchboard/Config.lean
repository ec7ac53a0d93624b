import Switchboard.Value
import Switchboard.Text.Case

/-!
# Config

The settings of a switchboard: the marker that a command line begins with, whether unknown commands
are answered, how much is logged, and the callback that emphasises parts of a notice.  Settings come
from a host in loose forms; a config holds them in one form each, and reading a setting that is
already in that form gives it back.
-/

namespace Switchboard

/-- Something that a host lets be called. -/
inductive Callback where
  | constant (result : Value)
  | host (id : Nat)

/-- The callback that a value is. -/
def Value.callback? : Value → Option Callback
  | .constant result => some (.constant result)
  | .callback id => some (.host id)
  | _ => none

/-- Where the marker of command lines comes from. -/
inductive Marker where
  | unset
  | fixed (text : String)
  /-- The host is asked whenever the marker is needed. -/
  | asked (accessor : Callback)

/-- The marker when a host gives none. -/
def defaultMarker : String := "!"

/-- The settings in their one form. -/
structure Config where
  marker : Marker := .unset
  /-- Whether a line with an unknown command is answered. -/
  answerUnknown : Bool := true
  verbosity : Verbosity := .info
  /-- The callback that emphasises a text; without one, texts stay as they are. -/
  bold : Option Callback := none

/-- Why settings are refused. -/
inductive ConfigError where
  | markerNotText
  | switchUnknown (given : Value)
  | switchNotText
  | verbosityUnknown (given : Value)
  | verbosityNotName
  | boldNotCallable
  | notMapping

/-- The wording of a refusal. -/
def ConfigError.message : ConfigError → String
  | .markerNotText => "config 'prefix' must be a string or a callable"
  | .switchUnknown given =>
      "config 'not_found_message' must be one of 'YES' or 'NO', not " ++ given.literal
  | .switchNotText => "config 'not_found_message' must be a bool or a string"
  | .verbosityUnknown given =>
      "config 'debuglevel' must be one of " ++ ", ".intercalate (Verbosity.all.map (·.name)) ++
        ", not " ++ given.literal
  | .verbosityNotName => "config 'debuglevel' must be a verbosity, a name or an index"
  | .boldNotCallable => "config 'bold' must be callable"
  | .notMapping => "Config.load() argument must be a mapping"

/-- The settings as a host gives them. -/
structure Settings where
  marker : Value := .unset
  answerUnknown : Value := .bool true
  verbosity : Value := .verbosity .info
  bold : Option Value := none

namespace Config

/-- The marker that a value gives. -/
def readMarker : Value → Except ConfigError Marker
  | .unset => .ok .unset
  | .text s => .ok (.fixed s)
  | v =>
    match v.callback? with
    | some accessor => .ok (.asked accessor)
    | none => .error .markerNotText

/-- The switch that a value gives: a truth value, one of two words, or the index of one of them as
a number or a text.  The index of yes is 0. -/
def readSwitch (v : Value) : Except ConfigError Bool :=
  match v with
  | .bool b => .ok b
  | .text s =>
      if s == "YES" || s == "yes" || s == "0" then .ok true
      else if s == "NO" || s == "no" || s == "1" then .ok false
      else .error (.switchUnknown v)
  | v =>
      if v.isNumber 0 then .ok true
      else if v.isNumber 1 then .ok false
      else match v with
        | .int _ | .verbosity _ => .error (.switchUnknown v)
        | _ => .error .switchNotText

/-- The white space that may stand around digits: all of it but the four separators of ASCII. -/
def isIndexBlank (c : Char) : Bool :=
  Text.isAsciiBlank c || (128 ≤ c.toNat && Text.isBlank c)

/-- The index that a text of digits denotes. -/
def readIndex? (cs : List Char) : Option Nat :=
  let digits := Text.trimWhile isIndexBlank cs
  if digits.length ≤ Reading.maxDigits then Text.decimalNumber? digits else none

/-- The verbosity that a value gives: itself, its name in any case, or its index as a number or in
digits. -/
def readVerbosity (v : Value) : Except ConfigError Verbosity :=
  let found (v? : Option Verbosity) : Except ConfigError Verbosity :=
    match v? with
    | some verbosity => .ok verbosity
    | none => .error (.verbosityUnknown v)
  match v with
  | .verbosity verbosity => .ok verbosity
  | .int i => found (Verbosity.ofIndex? i)
  | .text s =>
      let word := Text.trim s.toList
      if !word.isEmpty && word.all Text.isDigit then
        found ((readIndex? s.toList).bind fun n => Verbosity.ofIndex? n)
      else found (Verbosity.ofName? (String.ofList (Text.upper word)))
  | _ => .error .verbosityNotName

/-- The emphasis that a value gives. -/
def readBold : Option Value → Except ConfigError (Option Callback)
  | none => .ok none
  | some v =>
    match v.callback? with
    | some callback => .ok (some callback)
    | none => .error .boldNotCallable

/-- Reads settings, in the order marker, switch, verbosity, emphasis. -/
def make (s : Settings) : Except ConfigError Config := do
  let marker ← readMarker s.marker
  let answerUnknown ← readSwitch s.answerUnknown
  let verbosity ← readVerbosity s.verbosity
  let bold ← readBold s.bold
  return { marker, answerUnknown, verbosity, bold }

/-- Settings given beside a mapping of options, which they win over. -/
structure Overrides where
  answerUnknown : Option Value := none
  verbosity : Option Value := none
  bold : Option Value := none

/-- The value under a name in a mapping. -/
def option? (entries : List (Value × Value)) (name : String) : Option Value :=
  (entries.find? (·.1.isText name)).map (·.2)

/-- Reads settings from a host's mapping of options.  Options of other names do not count. -/
def load (options : Value) (overrides : Overrides) : Except ConfigError Config :=
  match options with
  | .mapping entries =>
      let defaults : Settings := {}
      make {
        marker := (option? entries "PREFIX").getD defaults.marker
        answerUnknown := (overrides.answerUnknown.or (option? entries "NOT_FOUND_MESSAGE")).getD
          defaults.answerUnknown
        verbosity := (overrides.verbosity.or (option? entries "DEBUGLEVEL")).getD
          defaults.verbosity
        bold := overrides.bold }
  | _ => .error .notMapping

/-- The description of a config that leaves texts as they are, `marker` being the marker now. -/
def describe (c : Config) (marker : String) : String :=
  "config(prefix=" ++ Text.quoted marker ++
    ", not_found_message=" ++ (Value.bool c.answerUnknown).literal ++
    ", debuglevel=" ++ c.verbosity.describe ++
    ", bold=" ++ (if c.bold.isSome then "<function>" else "<class 'str'>") ++ ")"

end Config

end Switchboard
