/-! Causes of failure and their texts: what can be wrong with a secret or its store, with the
settings, and with setting up the log. A data error is the fault of the stored data, not of the store. -/
namespace Strongbox

inductive SecretError where
  | validation (reason : String)
  | serialization (reason : String)
  /-- A well-formed document lacks what the secret needs. -/
  | malformed (reason : String)
  | unavailable (reason : String)
  | failed (reason : String)
  deriving DecidableEq, Repr

namespace SecretError

def message : SecretError → String
  | validation r => "Validation failed: " ++ r
  | serialization r => "Serialization error: " ++ r
  | malformed r => "Malformed secret: " ++ r
  | unavailable r => "Secret backend unavailable: " ++ r
  | failed r => "Secret store operation failed: " ++ r

def isDataError : SecretError → Bool
  | validation _ | serialization _ | malformed _ => true
  | unavailable _ | failed _ => false

/-- A rule broken by decoded data makes the stored secret malformed. -/
def asMalformed : SecretError → SecretError
  | validation r => malformed r
  | e => e

end SecretError

inductive SettingsError where
  | parse (reason : String)
  | invalid (field reason : String)
  | notFound (path : String)
  | write (reason : String)
  | serialize (reason : String)
  | io (reason : String)
  /-- No error that a caller sees: to look at the filter has brought the process down. -/
  | crash (reason : String)
  deriving DecidableEq, Repr

def SettingsError.message : SettingsError → String
  | parse r => "Failed to parse configuration: " ++ r
  | invalid field r => s!"Invalid configuration value for {field}: {r}"
  | notFound path => "Configuration directory not found: " ++ path
  | write r => "Failed to write configuration: " ++ r
  | serialize r => "Failed to serialize configuration: " ++ r
  | io r => "IO error: " ++ r
  | crash r => r

inductive LogError where
  | initialization (reason : String)
  | invalidLevel (text : String)
  | alreadyInitialized
  | fileCreation (reason : String)
  /-- No error that a caller sees: to read the filter has brought the process down. -/
  | crash (reason : String)
  deriving DecidableEq, Repr

def LogError.message : LogError → String
  | initialization r => "Failed to initialize tracing: " ++ r
  | invalidLevel s => "Invalid log level: " ++ s
  | alreadyInitialized => "Tracing has already been initialized"
  | fileCreation r => "Failed to open log file: " ++ r
  | crash r => r

/-- Any failure of a secret or of the settings, for callers that want a single type. -/
inductive AnyError where
  | secret (e : SecretError)
  | settings (e : SettingsError)
  deriving DecidableEq, Repr

def AnyError.message : AnyError → String
  | secret e => e.message
  | settings e => e.message

end Strongbox
