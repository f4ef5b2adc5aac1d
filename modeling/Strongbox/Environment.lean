import Strongbox.Path
/-! What a process is told about its surroundings: variables, and the directories that follow from
them. -/
namespace Strongbox

structure Environment where
  bindings : List (String × String)
  accountHome : Option String
  deriving DecidableEq, Repr

namespace Environment

/-- Value of a variable; of two settings the later one holds. -/
def get? (e : Environment) (name : String) : Option String :=
  (e.bindings.reverse.find? (·.1 == name)).map (·.2)

def home? (e : Environment) : Option String :=
  match e.get? "HOME" with
  | some h => if h = "" then e.accountHome else some h
  | none => e.accountHome

/-- A directory that a variable may name, if it names one from the root. -/
def directory? (e : Environment) (name below : String) : Option String :=
  match (e.get? name).filter (·.startsWith "/") with
  | some d => some d
  | none => e.home?.map (Path.join · below)

def dataDirectory? (e : Environment) : Option String := e.directory? "XDG_DATA_HOME" ".local/share"

def settingsDirectory? (e : Environment) : Option String := e.directory? "XDG_CONFIG_HOME" ".config"

/-- Address of the session bus; an empty one is none. -/
def session? (e : Environment) : Option String :=
  (e.get? "DBUS_SESSION_BUS_ADDRESS").filter (· != "")

end Environment
end Strongbox
