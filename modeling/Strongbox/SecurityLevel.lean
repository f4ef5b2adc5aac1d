import Strongbox.Text.Lowercase
import Strongbox.Text.Blank
import Strongbox.Error
/-! How much security a caller asks for. -/
namespace Strongbox

inductive SecurityLevel where
  | must
  /-- A secure store is preferred; a plain file will do. -/
  | optional
  deriving DecidableEq, Repr

namespace SecurityLevel

def standard : SecurityLevel := optional

def toText : SecurityLevel → String
  | must => "must"
  | optional => "optional"

/-- Exact names; the second level has two of them. -/
def ofName? (s : String) : Option SecurityLevel :=
  if s = "must" then some must
  else if s = "optional" ∨ s = "try" then some optional
  else none

def parse (s : String) : Except SecretError SecurityLevel :=
  match ofName? (Text.lowercase (Text.trim s)) with
  | some l => .ok l
  | none => .error (.validation s!"unknown security level '{s}', expected 'must' or 'optional'")

end SecurityLevel
end Strongbox
