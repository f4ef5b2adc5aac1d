import Strongbox.Settings
import Strongbox.Toml.Document
import Strongbox.Toml.Magnitude
/-! The written form of the settings. What is missing in a document keeps its standard value, and
what is unknown is passed over, if only its numbers can be read. -/
namespace Strongbox

namespace Toml.Value

def text? : Value → Option String
  | .text s => some s
  | _ => none

def isEmpty : Value → Bool
  | .table _ fields => fields.isEmpty
  | .array items _ => items.isEmpty
  | _ => false

/-- One of some alternatives: its name, or the one field of a table with nothing below it. -/
def choice? : Value → Option String
  | .text s => some s
  | .table _ [(name, v)] => if v.isEmpty then some name else none
  | _ => none

end Toml.Value

def othersReadable (known : List String) (t : Toml.Table) : Bool :=
  Toml.fieldsReadable (t.fields.filter fun f => !known.contains f.1)

def fieldOr {α : Type} (standard : α) (read : Toml.Value → Option α) (v : Option Toml.Value) :
    Option α :=
  match v with
  | none => some standard
  | some v => read v

namespace LogSettings

def readLevel (v : Toml.Value) : Option Log.Level :=
  v.choice?.bind fun name => Log.Level.all.find? (·.toText == name)

def readOptional (v : Toml.Value) : Option (Option String) := v.text?.map some

def ofFields? (level directives file : Option Toml.Value) : Option LogSettings := do
  return ⟨← fieldOr standard.level readLevel level, ← fieldOr none readOptional directives,
    ← fieldOr none readOptional file⟩

/-- A table by its fields, or an array of their values in order. A moment counts as a table that has
none of the fields. -/
def ofValue? : Toml.Value → Option LogSettings
  | .table origin fields =>
    let t : Toml.Table := ⟨origin, fields⟩
    if !othersReadable ["level", "filter", "file"] t then none
    else ofFields? (t.get? "level") (t.get? "filter") (t.get? "file")
  | .array items _ => ofFields? items[0]? items[1]? items[2]?
  | .scalar (.moment _) => some standard
  | _ => none

end LogSettings

namespace Settings

def readSecurity (v : Toml.Value) : Option SecurityLevel := v.choice?.bind SecurityLevel.ofName?

def ofTable? (t : Toml.Table) : Option Settings := do
  if !othersReadable ["namespace", "secure_option", "fallback_path", "logging"] t then none
  return ⟨← fieldOr standard.space Toml.Value.text? (t.get? "namespace"),
    ← fieldOr standard.security readSecurity (t.get? "secure_option"),
    ← fieldOr none LogSettings.readOptional (t.get? "fallback_path"),
    ← fieldOr standard.logging LogSettings.ofValue? (t.get? "logging")⟩

def read? (s : String) : Option Settings := (Toml.Table.read? s).bind ofTable?

def fieldLine (name value : String) : List Char :=
  name.toList ++ ' ' :: '=' :: ' ' :: Toml.writeText value.toList ++ ['\n']

def optionalLine (name : String) : Option String → List Char
  | none => []
  | some value => fieldLine name value

/-- Every field that is set, in a fixed order, those of the log under a header of their own. -/
def renderChars (s : Settings) : List Char :=
  fieldLine "namespace" s.space ++ fieldLine "secure_option" s.security.toText ++
    optionalLine "fallback_path" s.fallback ++ "\n[logging]\n".toList ++
    fieldLine "level" s.logging.level.toText ++ optionalLine "filter" s.logging.directives ++
    optionalLine "file" s.logging.file

def render (s : Settings) : String := String.ofList s.renderChars

end Settings
end Strongbox
