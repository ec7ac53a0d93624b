import Switchboard.Event
import Switchboard.Registry

/-!
# Host

What a switchboard is connected to.  A host keeps a memory of its own, answers for the callbacks
that it handed over by number, and takes the texts that are sent.  What a handler does is an act: a
tree of requests, each followed by what the handler does with the answer.  A handler can do nothing
but ask, so whatever it does to the registry or to a caller goes through the switchboard.
-/

namespace Switchboard

/-- What a handler can ask for. -/
inductive Request (σ : Type) where
  /-- Sends a text to where the replies to the line go. -/
  | reply (text : String)
  /-- Emphasises a text. -/
  | embolden (text : String)
  /-- Reads the marker of command lines. -/
  | marker
  /-- Asks for the commands of a name that the caller may use. -/
  | available (name : Value)
  /-- Looks at the registry. -/
  | registry
  | operate (operation : Operation)
  /-- Looks at the values resolved for the line. -/
  | record
  /-- Puts a value among those resolved for the line. -/
  | put (name : String) (value : Value)
  /-- Looks at the memory of the host. -/
  | memory
  | remember (memory : σ)
  /-- Dispatches another line from the same client in the same mode. -/
  | dispatch (text : Value)

/-- The kind of answer to a request. -/
def Request.Answer {σ : Type} : Request σ → Type
  | .reply _ | .put .. | .remember _ => Unit
  | .embolden _ | .marker => String
  | .available _ => List CommandId
  | .registry => Registry
  | .operate _ => Option Nat
  | .record => Record
  | .memory => σ
  | .dispatch _ => List Outcome

/-- What a handler does: it is done, it fails, or it asks and goes on with the answer or with the
failure to get one. -/
inductive Act (σ α : Type) where
  | done (result : α)
  | fail (failure : Failure)
  | ask (request : Request σ) (next : Except Failure request.Answer → Act σ α)

namespace Act

variable {σ α β : Type}

/-- One act after another; a failure of the first is the failure of both. -/
def bind : Act σ α → (α → Act σ β) → Act σ β
  | .done a, next => next a
  | .fail e, _ => .fail e
  | .ask request more, next => .ask request fun answer => (more answer).bind next

instance : Monad (Act σ) where
  pure := .done
  bind := bind

/-- Asks for something; the failure to get it is the failure of the act. -/
def request (r : Request σ) : Act σ r.Answer :=
  .ask r fun
    | .ok answer => .done answer
    | .error e => .fail e

/-- Sends a text to where the replies to the line go. -/
def reply (text : String) : Act σ Unit := request (.reply text)

/-- Emphasises a text. -/
def embolden (text : String) : Act σ String := request (.embolden text)

/-- Reads the marker of command lines. -/
def marker : Act σ String := request .marker

/-- Asks for the commands of a name that the caller may use; the unset value is every name. -/
def available (name : Value) : Act σ (List CommandId) := request (.available name)

/-- Looks at the registry. -/
def registry : Act σ Registry := request .registry

/-- Does an operation on the registry. -/
def operate (operation : Operation) : Act σ (Option Nat) := request (.operate operation)

/-- Looks at the values resolved for the line. -/
def record : Act σ Record := request .record

/-- Puts a value among those resolved for the line. -/
def put (name : String) (value : Value) : Act σ Unit := request (.put name value)

/-- Looks at the memory of the host. -/
def memory : Act σ σ := request .memory

/-- Replaces the memory of the host. -/
def remember (memory : σ) : Act σ Unit := request (.remember memory)

/-- Dispatches another line from the same client in the same mode. -/
def dispatch (text : Value) : Act σ (List Outcome) := request (.dispatch text)

end Act

/-- A call of a handler. -/
structure Call where
  client : Client
  text : Value
  record : Record

/-- A host whose memory is a `σ`.  A callback that asks or is asked may change the memory and may
raise. -/
structure Host (σ : Type) where
  /-- The marker that an accessor gives now. -/
  readMarker : Nat → σ → Except Failure Value × σ
  /-- A text as a formatter emphasises it. -/
  embolden : Nat → String → σ → Except Failure Value × σ
  /-- What a predicate says about a client. -/
  permits : Nat → Client → σ → Except Failure Value × σ
  /-- Sends a text to a sink. -/
  deliver : Sink → String → σ → Except Failure Unit × σ
  /-- What a handler does about a call. -/
  handle : Nat → Call → Act σ Value

/-- A switchboard as it is set up: its config, the host it is connected to, whether there is a chat
of the whole server, and the labels that the host shows for codes. -/
structure Setup (σ : Type) where
  host : Host σ
  config : Config := {}
  backend : Bool := false
  codes : CodeTable := []

end Switchboard
