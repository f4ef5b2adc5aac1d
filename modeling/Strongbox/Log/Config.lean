import Strongbox.Log.Line
import Strongbox.Text.Lowercase
import Strongbox.Error
/-! What the log is asked to show, and where. -/
namespace Strongbox.Log

namespace Level

/-- A level by name, in any case and with any blanks around it. One level has two names. -/
def parse (s : String) : Except LogError Level :=
  let name := Text.lowercase (Text.trim s)
  match if name = "warning" then some warn else all.find? (·.toText == name) with
  | some l => .ok l
  | none => .error (.invalidLevel s)

end Level

inductive Output where
  | standardError
  | file (path : String)
  deriving DecidableEq, Repr

structure Config where
  level : Level
  output : Output
  /-- Directives, which make the level irrelevant. -/
  directives : Option String
  deriving DecidableEq, Repr

namespace Config

def standard : Config := ⟨.warn, .standardError, none⟩

def ownTarget : String := "credstore"

/-- Filter of the level alone, written as a directive. -/
def levelDirective (c : Config) : String := ownTarget ++ "=" ++ c.level.toText

/-- A filter that is torn leaves no error behind that could be answered with. -/
def unfiltered : FilterError → LogError
  | .torn => .crash FilterError.torn.message
  | e => .initialization e.message

def filter (c : Config) : Except LogError Filter :=
  match c.directives with
  | some text => (Filter.parse text).mapError unfiltered
  | none => .ok (.ofLevel ownTarget c.level)

end Config
end Strongbox.Log
