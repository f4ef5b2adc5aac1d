import Strongbox.Settings.Document
import Strongbox.Disk
import Strongbox.Log.Event
/-! The directory that holds the settings file. What is loaded is valid, and only what is valid is
saved. -/
namespace Strongbox

open Log

structure SettingsDirectory where
  path : String
  deriving DecidableEq, Repr

namespace SettingsDirectory

def standard (e : Environment) : Except SettingsError SettingsDirectory :=
  match e.settingsDirectory? with
  | some d => .ok ⟨Path.join d Settings.programDirectory⟩
  | none => .error (.notFound Settings.programDirectory)

def fileName : String := "config.toml"

def file (d : SettingsDirectory) : String := Path.join d.path fileName

def target : String := "credstore_core::config::manager"

def spanOf (d : SettingsDirectory) (name : String) : Span :=
  ⟨name, .debug, target, [("path", .shown d.file)]⟩

def report (d : SettingsDirectory) (message : String) : Event :=
  ⟨.debug, target, message, [("path", .shown d.file)], none⟩

def settingsOf (d : SettingsDirectory) (text : String) : Except SettingsError Settings :=
  match Settings.read? text with
  | none => .error (.parse d.file)
  | some s => match s.validate with
    | .ok () => .ok s
    | .error e => .error e

/-- A file that is missing holds the standard settings. -/
def load (d : SettingsDirectory) (disk : Disk) : Logged (Except SettingsError Settings) × Disk :=
  match Disk.readText d.file disk with
  | .error .notFound disk =>
    (⟨.ok .standard, [{ d.report "No settings file, using defaults" with
      span := some (d.spanOf "config.load") }]⟩, disk)
  | .error e disk => (⟨.error (.io e.message), []⟩, disk)
  | .ok text disk => (⟨d.settingsOf text, []⟩, disk)

def writeFailure (path : String) (e : IoError) : SettingsError := .write s!"{path}: {e.message}"

/-- Writes the settings in place, after making the directory. -/
def save (d : SettingsDirectory) (s : Settings) (disk : Disk) :
    Logged (Except SettingsError Unit) × Disk :=
  match s.validate with
  | .error e => (⟨.error e, []⟩, disk)
  | .ok () => match Disk.makeDirectories d.path disk with
    | .error e disk => (⟨.error (writeFailure d.path e), []⟩, disk)
    | .ok () disk => match Disk.writeFile d.file s.render.toUTF8 disk with
      | .error e disk => (⟨.error (writeFailure d.file e), []⟩, disk)
      | .ok () disk =>
        (⟨.ok (), [{ d.report "Settings saved" with span := some (d.spanOf "config.save") }]⟩, disk)

end SettingsDirectory
end Strongbox
