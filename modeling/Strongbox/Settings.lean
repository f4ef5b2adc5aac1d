import Strongbox.SecurityLevel
import Strongbox.NativeKey
import Strongbox.Environment
import Strongbox.Log.Config
/-! Settings of the program, with the values that hold when nothing is set, and the rules that a
value has to keep. -/
namespace Strongbox

structure LogSettings where
  level : Log.Level
  directives : Option String
  file : Option String
  deriving DecidableEq, Repr

namespace LogSettings

def standard : LogSettings := ⟨.warn, none, none⟩

def config (l : LogSettings) : Log.Config :=
  ⟨l.level, match l.file with
    | some path => .file path
    | none => .standardError, l.directives⟩

def validate (l : LogSettings) : Except SettingsError Unit :=
  match l.config.filter with
  | .ok _ => .ok ()
  | .error (.crash reason) => .error (.crash reason)
  | .error e => .error (.invalid "logging.filter" e.message)

end LogSettings

structure Settings where
  /-- First component of every native key. -/
  space : String
  security : SecurityLevel
  fallback : Option String
  logging : LogSettings
  deriving DecidableEq, Repr

namespace Settings

def programDirectory : String := "credstore"

def fallbackName : String := "insecure-store.json"

def standard : Settings := ⟨programDirectory, .standard, none, .standard⟩

/-- The first field that breaks a rule decides. -/
def validate (s : Settings) : Except SettingsError Unit :=
  if Text.isBlank s.space then .error (.invalid "namespace" "must not be empty")
  else if s.space.toList.contains NativeKey.separator then
    .error (.invalid "namespace" s!"must not contain '{NativeKey.separator}'")
  else if s.fallback = some "" then .error (.invalid "fallback_path" "must not be empty")
  else s.logging.validate

def fallbackPath (s : Settings) (e : Environment) : Except SettingsError String :=
  match s.fallback, e.dataDirectory? with
  | some path, _ => .ok path
  | none, some d => .ok (Path.join (Path.join d programDirectory) fallbackName)
  | none, none => .error (.notFound fallbackName)

end Settings
end Strongbox
