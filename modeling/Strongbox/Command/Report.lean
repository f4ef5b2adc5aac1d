import Strongbox.Command.Invocation
import Strongbox.Settings.Directory
import Strongbox.Secret
import Strongbox.Json.Value
/-! What commands print: tables of labelled lines, or a document of JSON. Secret values are masked
unless they are asked for. -/
namespace Strongbox.Command

/-- Stands for every secret value, whatever its length. -/
def mask : String := "********"

def shown (reveal : Bool) (value : String) : String := if reveal then value else mask

/-- A value of a report; `nothing` is told apart from an empty text. -/
inductive Field where
  | text (s : String)
  | flag (b : Bool)
  | nothing
  deriving DecidableEq, Repr

def Field.ofOption : Option String → Field
  | some s => .text s
  | none => .nothing

def Field.render : Field → List Char
  | .text s => Json.quote s
  | .flag true => ['t', 'r', 'u', 'e']
  | .flag false => ['f', 'a', 'l', 's', 'e']
  | .nothing => ['n', 'u', 'l', 'l']

def renderJson (fields : List (String × Field)) : String :=
  String.ofList (Json.objectAt 0 (fields.map fun (name, f) => (name, f.render)) ++ ['\n'])

/-- Labels, each filled up with blanks to one width, before their values. -/
def renderTable (width : Nat) (lines : List (String × String)) : String :=
  String.join (lines.map fun (label, value) =>
    label ++ ":" ++ "".pushn ' ' (width - label.length - 1) ++ value ++ "\n")

/-! A secret -/

/-- Fields of a secret: its labels in a table, its names in a document. -/
def secretLines (reveal : Bool) : Secret → List (String × String × String)
  | .credential c =>
    [("Username", "username", c.username), ("Password", "password", shown reveal c.password)]
  | .token t =>
    [("Type", "token_type", t.display), ("Value", "value", shown reveal t.value)] ++
      if t.hasTarget then [("Identity", "target_identity", t.target.toText)] else []
  | .tokenPair p =>
    [("Access", "access_token", shown reveal p.access.value),
     ("Refresh", "refresh_token", shown reveal p.refresh.value)]

def kindTag : SecretKind → String
  | .credential => "credential"
  | .token => "token"
  | .tokenPair => "token_pair"

def renderSecret (format : Format) (reveal : Bool) (key : String) (s : Secret) : String :=
  let lines := ("Key", "key", key) :: secretLines reveal s
  match format with
  | .table => renderTable 11 (lines.map fun (label, _, value) => (label, value))
  | .json => renderJson (("kind", .text (kindTag s.kind)) ::
      lines.map fun (_, name, value) => (name, .text value))

/-! The choice of the store -/

structure Status where
  platform : String
  space : String
  level : SecurityLevel
  detected : Except String String
  chosen : Option (String × Bool)
  fallback : String

def Status.detectedLine (s : Status) : String :=
  match s.detected with
  | .ok name => name ++ " (available)"
  | .error reason => "not available (" ++ reason ++ ")"

def Status.chosenLine (s : Status) : String :=
  match s.chosen with
  | some (name, true) => name
  | some (name, false) => name ++ " (INSECURE)"
  | none => "none (a secure store is required)"

def Status.renderTable (s : Status) : String :=
  "Secret Store Status\n===================\n\n" ++
    Command.renderTable 17
      [("Platform", s.platform), ("Namespace", s.space), ("Security level", s.level.toText),
       ("Secure store", s.detectedLine), ("Selected", s.chosenLine), ("Fallback file", s.fallback)]

def Status.renderJson (s : Status) : String :=
  let reason := match s.detected with
    | .ok _ => none
    | .error reason => some reason
  let secure := match s.chosen with
    | some (_, secure) => .flag secure
    | none => .nothing
  Command.renderJson
    [("platform", .text s.platform), ("namespace", .text s.space),
     ("secure_option", .text s.level.toText), ("secure_store", .ofOption s.detected.toOption),
     ("detection_error", .ofOption reason), ("selected_backend", .ofOption (s.chosen.map (·.1))),
     ("selected_is_secure", secure), ("fallback_path", .text s.fallback)]

def Status.render (s : Status) : Format → String
  | .table => s.renderTable
  | .json => s.renderJson

/-! The settings -/

def optionalLine (label : String) : Option String → List (String × String)
  | some value => [(label, value)]
  | none => []

def renderSettings (d : SettingsDirectory) (s : Settings) (fallback : String) : String :=
  renderTable 17
    ([("Settings file", d.file), ("Namespace", s.space), ("Security level", s.security.toText),
      ("Fallback file", fallback), ("Log level", s.logging.level.toText)] ++
     optionalLine "Log filter" s.logging.directives ++ optionalLine "Log file" s.logging.file)

end Strongbox.Command
