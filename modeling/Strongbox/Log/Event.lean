/-! What a program reports while it runs: events with a level, a target and named fields, each
perhaps inside a span of work. A report is made whether or not anyone listens. -/
namespace Strongbox.Log

inductive Level where
  | error
  | warn
  | info
  | debug
  | trace
  deriving DecidableEq, Repr

namespace Level

def all : List Level := [error, warn, info, debug, trace]

/-- Verbosity: the higher, the less urgent. -/
def rank : Level → Nat
  | error => 0
  | warn => 1
  | info => 2
  | debug => 3
  | trace => 4

def toText : Level → String
  | error => "error"
  | warn => "warn"
  | info => "info"
  | debug => "debug"
  | trace => "trace"

def raisedBy (l : Level) (steps : Nat) : Level :=
  match l.rank + steps with
  | 0 => error
  | 1 => warn
  | 2 => info
  | 3 => debug
  | _ => trace

end Level

inductive FieldValue where
  | quoted (text : String)
  | shown (text : String)
  | flag (value : Bool)
  deriving DecidableEq, Repr

abbrev Fields := List (String × FieldValue)

/-- A stretch of work. Its own level and target decide whether it is seen. -/
structure Span where
  name : String
  level : Level
  target : String
  fields : Fields
  deriving DecidableEq, Repr

structure Event where
  level : Level
  target : String
  message : String
  fields : Fields
  span : Option Span
  deriving DecidableEq, Repr

/-- A value together with the events on the way to it, in order. -/
structure Logged (α : Type) where
  value : α
  events : List Event
  deriving DecidableEq, Repr

namespace Logged

def inside (span : Span) (l : Logged α) : Logged α :=
  { l with events := l.events.map fun e => { e with span := e.span <|> some span } }

def map (f : α → β) (l : Logged α) : Logged β := ⟨f l.value, l.events⟩

def andThen (l : Logged α) (f : α → Logged β) : Logged β :=
  let next := f l.value
  ⟨next.value, l.events ++ next.events⟩

end Logged

def storeTarget : String := "credstore::store"

end Strongbox.Log
