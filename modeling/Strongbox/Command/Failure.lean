import Strongbox.Error
import Strongbox.Secret.Kind
/-! Why a command fails, with the text for the user and the exit status. -/
namespace Strongbox.Command

inductive Failure where
  | settings (reason : String)
  | secret (reason : String)
  | missing (kind : SecretKind) (key : String)
  /-- A secure store is required and there is none. -/
  | unavailable (reason : String)
  | input (reason : String)
  | terminal (reason : String)
  /-- No failure that is told of: the process goes down, and the runtime ends it. -/
  | crash (reason : String)
  deriving DecidableEq, Repr

namespace Failure

def message : Failure → String
  | settings r => "Configuration error: " ++ r
  | secret r => "Secret error: " ++ r
  | missing kind key => s!"No {kind.typeName} stored under '{key}'"
  | unavailable r => "Secret store unavailable: " ++ r
  | input r => "Invalid input: " ++ r
  | terminal r => "IO error: " ++ r
  | crash r => r

def exitStatus : Failure → Nat
  | missing _ _ => 2
  | unavailable _ => 3
  | settings _ | secret _ | input _ | terminal _ => 1
  | crash _ => 101

/-- What the program itself says of it on standard error. -/
def told : Failure → List String
  | crash _ => []
  | f => ["Error: " ++ f.message]

/-- Broken rules are the user's fault; what a store says is told in full. -/
def ofSecret : SecretError → Failure
  | .unavailable r => .unavailable r
  | .validation r => .input r
  | e => .secret e.message

def ofSettings : SettingsError → Failure
  | .crash r => .crash r
  | e => .settings e.message

end Failure
end Strongbox.Command
