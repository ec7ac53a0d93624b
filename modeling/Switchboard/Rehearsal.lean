import Switchboard.Dispatch

/-!
# Rehearsal

A host that is played from scripts: predicates, formatters, accessors and handlers that are written
down beforehand, and clients of whom some are gone.  A switchboard can be tried out on it without a
chat server.  The scripts are the memory of the host, so they can be added to between lines.
-/

namespace Switchboard.Rehearsal

/-- A predicate by script. -/
inductive Predicate where
  | allow
  | deny
  /-- Allows the clients that are administrators. -/
  | admin
  | fails
  /-- Allows the clients of these names. -/
  | names (clients : List String)
  | returns (value : Value)

/-- A formatter by script. -/
inductive Formatter where
  | stars
  | tag
  | upper
  /-- Gives the length in the place of the text. -/
  | length
  | nothing
  | fails

/-- A step of a handler's script. -/
inductive Action where
  | reply (text : String)
  /-- Replies with a value of the record in its written form. -/
  | replyValue (name : String)
  | raise (failure : Failure)
  | set (name : String) (value : Value)
  | operate (operation : Operation)
  /-- Decides what the accessor of the marker gives from now on. -/
  | marker (result : Option Value)
  | dispatch (text : Value)

/-- A handler by script. -/
structure Script where
  actions : List Action
  returns : Value := .null

/-- A pattern for bytes: the byte of the letter a. -/
def bytesPattern : Pattern where
  source := "a"
  flags := {}
  program := .char (.letter .exact 'a'.toNat false)
  ofBytes := true

/-- The scripts and the clients of a rehearsal. -/
structure Cast where
  predicates : List Predicate := []
  scripts : List Script := []
  formatter : Formatter := .stars
  /-- What the accessor of the marker gives, one after the other and the last one for good; nothing
  stands for raising. -/
  markers : List (Option Value) := []
  admins : List String := []
  /-- The clients whose private chat takes no text. -/
  gone : List String := []
  /-- Whether the chat of the whole server takes no text. -/
  backendGone : Bool := false

/-- The failure of a chat that takes no text. -/
def goneFailure : Failure := .raised "OSError" "client left the server"

/-- What the accessor of the marker gives now. -/
def readMarker (cast : Cast) : Except Failure Value × Cast :=
  let given : Option Value → Except Failure Value
    | some v => .ok v
    | none => .error (.raised "RuntimeError" "prefix accessor failed")
  match cast.markers with
  | [] => (given none, cast)
  | [last] => (given last, cast)
  | first :: more => (given first, { cast with markers := more })

/-- What the formatter makes of a text. -/
def Formatter.apply (f : Formatter) (text : String) : Except Failure Value :=
  match f with
  | .stars => .ok (.text ("*" ++ text ++ "*"))
  | .tag => .ok (.text ("[b]" ++ text ++ "[/b]"))
  | .upper => .ok (.text (String.ofList (Text.upper text.toList)))
  | .length => .ok (.int text.length)
  | .nothing => .ok .null
  | .fails => .error (.raised "RuntimeError" "bold failed")

/-- What a predicate says about a client. -/
def Predicate.apply (cast : Cast) (client : Client) : Predicate → Except Failure Value
  | .allow => .ok (.bool true)
  | .deny => .ok (.bool false)
  | .admin => .ok (.bool (cast.admins.contains client.name))
  | .fails => .error (.raised "RuntimeError" "permission backend down")
  | .names clients => .ok (.bool (clients.contains client.name))
  | .returns value => .ok value

/-- Whether a sink takes texts. -/
def takes (cast : Cast) : Sink → Bool
  | .caller client => !cast.gone.contains client
  | .channel .. => true
  | .backend => !cast.backendGone

/-- Does a step of a script; `write` gives the written form of a value. -/
def Action.act (write : Value → String) : Action → Act Cast Unit
  | .reply text => Act.reply text
  | .replyValue name => do
    match (← Act.record).get? name with
    | some value => Act.reply (write value)
    | none => .fail (.noValue name)
  | .raise failure => .fail failure
  | .set name value => Act.put name value
  | .operate operation => do
    let _ ← Act.operate operation
  | .marker result => do
    let cast ← Act.memory
    Act.remember { cast with markers := [result] }
  | .dispatch text => do
    let _ ← Act.dispatch text

/-- Does the steps of a script. -/
def actAll (write : Value → String) : List Action → Act Cast Unit
  | [] => pure ()
  | action :: actions => do
    action.act write
    actAll write actions

/-- Plays a handler. -/
def play (write : Value → String) (id : Nat) : Act Cast Value := do
  match (← Act.memory).scripts[id]? with
  | none => pure .null
  | some script => do
    actAll write script.actions
    pure script.returns

/-- The host that plays the scripts in its memory. -/
def host (write : Value → String) : Host Cast where
  readMarker _ cast := readMarker cast
  embolden _ text cast := (cast.formatter.apply text, cast)
  permits id client cast :=
    match cast.predicates[id]? with
    | some predicate => (predicate.apply cast client, cast)
    | none => (.ok (.bool true), cast)
  deliver sink _ cast := (if takes cast sink then .ok () else .error goneFailure, cast)
  handle id _ := play write id

end Switchboard.Rehearsal
