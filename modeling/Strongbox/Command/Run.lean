import Strongbox.Command.Failure
import Strongbox.Command.Report
import Strongbox.Provider
import Strongbox.Log.Journal
/-! Runs of the program: what a command does to the disk and the keyring, what it prints, and with
which status it ends. -/
namespace Strongbox.Command

open Log

/-- A run while it goes on. Standard error is kept by the journal. -/
structure Process where
  backends : Backends Unit
  journal : Journal
  output : String

abbrev Run := EStateM Failure Process

/-- Puts what was reported into the log. -/
def note {α : Type} (l : Logged α) : Run α := fun p =>
  let (journal, disk) := Journal.take l.events p.journal p.backends.disk
  .ok l.value { p with journal, backends := { p.backends with disk } }

def orFail {ε α : Type} (failure : ε → Failure) : Except ε α → Run α
  | .ok a => pure a
  | .error e => throw (failure e)

def print (text : String) : Run Unit := modify fun p => { p with output := p.output ++ text }

def complain (line : String) : Run Unit :=
  modify fun p => { p with journal := { p.journal with lines := p.journal.lines ++ [line] } }

def readBackends : Run (Backends Unit) := return (← get).backends

def onDisk {α : Type} (call : Disk → Logged α × Disk) : Run α := fun p =>
  let (l, disk) := call p.backends.disk
  note l { p with backends := { p.backends with disk } }

def onStore {α : Type} (call : Backends Unit → Logged α × Backends Unit) : Run α := fun p =>
  let (l, backends) := call p.backends
  note l { p with backends }

/-! Settings -/

/-- The directory that was named, or the user's. -/
def directoryOf (e : Environment) (i : Invocation) : Except SettingsError SettingsDirectory :=
  match i.directory with
  | some path => .ok ⟨path⟩
  | none => SettingsDirectory.standard e

def noDirectory (e : SettingsError) : Failure := .settings ("Failed to initialize config: " ++ e.message)

def notLoaded : SettingsError → Failure
  | .crash r => .crash r
  | e => .settings ("Failed to load settings: " ++ e.message)

def loadSettings (e : Environment) (i : Invocation) : Run Settings := do
  let d ← orFail noDirectory (directoryOf e i)
  orFail notLoaded (← onDisk d.load)

def withSecurity (security : Option SecurityLevel) (p : Provider Unit) : Provider Unit :=
  match security with
  | some level => { p with level }
  | none => p

def loadProvider (e : Environment) (i : Invocation) : Run (Provider Unit) := do
  let s ← loadSettings e i
  return withSecurity i.security (← orFail Failure.ofSettings (Provider.ofSettings e s))

/-! Commands -/

def openStore {α : Type} (p : Provider Unit) (format : SecretFormat α) :
    Run (SecretStore (Backends Unit) α) := do
  orFail Failure.ofSecret (← note (p.store p.level format (← readBackends)))

def showStatus (e : Environment) (i : Invocation) (format : Format) : Run Unit := do
  let p ← loadProvider e i
  let detected ← note (Detector.keyring e.session? p.platform p.space (← readBackends))
  let chosen ← note (p.select p.level (← readBackends))
  let status : Status :=
    ⟨p.platform.display, p.space, p.level,
      (detected.map (·.name)).mapError (·.message),
      (chosen.map fun native => (native.name, native.secure)).toOption, p.fallback⟩
  print (status.render format)

def find {α : Type} (p : Provider Unit) (format : SecretFormat α) (wrap : α → Secret)
    (key : String) : Run (Option Secret) := do
  let store ← openStore p format
  return (← onStore (store.get key)).map wrap

def findOfKind (p : Provider Unit) (kind : SecretKind) (key : String) : Run (Option Secret) :=
  match kind with
  | .credential => find p Credential.xml .credential key
  | .token => find p Token.xml .token key
  | .tokenPair => find p TokenPair.xml .tokenPair key

def showSecret (e : Environment) (i : Invocation) (kind : SecretKind) (key : String) (format : Format)
    (reveal : Bool) : Run Unit := do
  let p ← loadProvider e i
  match ← findOfKind p kind key with
  | some s => print (renderSecret format reveal key s)
  | none => throw (.missing kind key)

/-- There is no terminal on which a value could be asked for. -/
def noTerminal : Failure := .terminal "No such device or address (os error 6)"

def needValue (label : String) : Option String → Run String
  | none => throw noTerminal
  | some value => if value = "" then throw (.input (label ++ " must not be empty")) else pure value

def unprotected (backend : String) : Event :=
  ⟨.warn, "credstore_cli::commands::set", "Storing secret without encryption",
    [("backend", .quoted backend)], none⟩

def keep {α : Type} (p : Provider Unit) (format : SecretFormat α)
    (validate : α → Except SecretError Unit) (kind : SecretKind) (key : String) (a : α) :
    Run Unit := do
  orFail Failure.ofSecret (validate a)
  let store ← openStore p format
  unless store.isSecure do note ⟨(), [unprotected store.backendId]⟩
  if ← onStore (store.add key a) then
    print s!"Stored {kind.typeName} '{key}' in {store.backendId}\n"
  else
    throw (.secret (s!"Failed to store {kind.typeName} '{key}' in {store.backendId}" ++
      " (run with -v for details)"))

/-- Parts are looked at in their order on the command line, the type of a token before its value. -/
def storeSecret (e : Environment) (i : Invocation) (key : String) (proposal : Proposal) : Run Unit := do
  let p ← loadProvider e i
  match proposal with
  | .credential username password =>
    let password ← needValue "Password" password
    keep p Credential.xml Credential.validate .credential key ⟨username, password⟩
  | .token typeName value target =>
    let type ← orFail Failure.ofSecret (TokenType.ofFriendlyName typeName)
    let value ← needValue "Token" value
    let token ← orFail Failure.ofSecret (Token.make value type (target.getD Uuid.nil))
    keep p Token.xml Token.validate .token key token
  | .tokenPair access refresh =>
    let access ← needValue "Access token" access
    let refresh ← needValue "Refresh token" refresh
    let pair ← orFail Failure.ofSecret (TokenPair.make access refresh)
    keep p TokenPair.xml TokenPair.validate .tokenPair key pair

def drop {α : Type} (p : Provider Unit) (format : SecretFormat α) (key : String) :
    Run (Bool × String) := do
  let store ← openStore p format
  return (← onStore (store.delete key), store.backendId)

def dropOfKind (p : Provider Unit) (kind : SecretKind) (key : String) : Run (Bool × String) :=
  match kind with
  | .credential => drop p Credential.xml key
  | .token => drop p Token.xml key
  | .tokenPair => drop p TokenPair.xml key

def deleteSecret (e : Environment) (i : Invocation) (kind : SecretKind) (key : String) : Run Unit := do
  let p ← loadProvider e i
  let (deleted, backend) ← dropOfKind p kind key
  if deleted then print s!"Deleted {kind.typeName} '{key}' from {backend}\n"
  else
    throw (.secret (s!"Failed to delete {kind.typeName} '{key}' from {backend}" ++
      " (run with -v for details)"))

def showSettings (e : Environment) (i : Invocation) : Run Unit := do
  let d ← orFail noDirectory (directoryOf e i)
  let s ← orFail Failure.ofSettings (← onDisk d.load)
  let fallback ← orFail Failure.ofSettings (s.fallbackPath e)
  print (renderSettings d s fallback)

/-- Writes settings that are standard but for what was asked. An old file is kept unless forced. -/
def initSettings (e : Environment) (i : Invocation) (space fallback : Option String)
    (force : Bool) : Run Unit := do
  let d ← orFail noDirectory (directoryOf e i)
  if (← readBackends).disk.existsAt d.file && !force then
    throw (.settings (d.file ++ " already exists (use --force to overwrite)"))
  let s := { Settings.standard with space := space.getD Settings.standard.space, fallback }
  orFail Failure.ofSettings (← onDisk (d.save s))
  print s!"Wrote {d.file}\n"

def perform (e : Environment) (i : Invocation) : Run Unit :=
  match i.action with
  | .status format => showStatus e i format
  | .get kind key format reveal => showSecret e i kind key format reveal
  | .set key proposal => storeSecret e i key proposal
  | .delete kind key => deleteSecret e i kind key
  | .showSettings => showSettings e i
  | .initSettings space fallback force => initSettings e i space fallback force

/-! The whole run -/

/-- How a command line changes what the settings say about the log. A run that is quiet keeps their
directives; one that is verbose drops them. -/
def adjust (i : Invocation) (c : Config) : Config :=
  if i.quiet then { c with level := .error }
  else if 0 < i.verbosity then { c with level := c.level.raisedBy i.verbosity, directives := none }
  else c

/-- Configuration of the log; settings that cannot be loaded count as the standard ones, unless to load
them brings the process down. -/
def logConfig (e : Environment) (i : Invocation) : Run Config := do
  match directoryOf e i with
  | .error _ => return adjust i .standard
  | .ok d => match ← onDisk d.load with
    | .ok s => return adjust i s.logging.config
    | .error (.crash reason) => throw (.crash reason)
    | .error _ => return adjust i .standard

/-- A log that cannot be set up is no reason to stop. -/
def startLog (c : Config) : Run Unit := fun p =>
  let (answer, journal, disk) := Journal.start c p.journal p.backends.disk
  let p := { p with journal, backends := { p.backends with disk } }
  match answer with
  | .ok () => .ok () p
  | .error (.crash reason) => .error (.crash reason) p
  | .error e => complain ("Warning: logging disabled: " ++ e.message) p

def everything (e : Environment) (i : Invocation) : Run Unit := do
  startLog (← logConfig e i)
  perform e i

structure Outcome where
  exit : Nat
  output : String
  /-- Lines on standard error, of the log and others; what the runtime says of a crash is left out. -/
  errors : List String
  backends : Backends Unit

def Outcome.of (exit : Nat) (p : Process) : Outcome :=
  ⟨exit, p.output, p.journal.lines, p.backends⟩

/-- Runs what was asked for. Only a run that is not quiet tells why it failed. -/
def execute (e : Environment) (stamp : String) (i : Invocation) (b : Backends Unit) : Outcome :=
  match everything e i ⟨b, { Journal.empty with stamp }, ""⟩ with
  | .ok () p => .of 0 p
  | .error f p =>
    let told := if i.quiet then [] else f.told
    .of f.exitStatus { p with journal := { p.journal with lines := p.journal.lines ++ told } }

def versionNumber : String := "0.3.1"

def synopsis : String :=
  "Usage: credstore-cli [OPTIONS] <status|get|set|delete|config> [OPTIONS] [ARGUMENTS]"

def Stop.outcome (b : Backends Unit) : Stop → Outcome
  | .usage => ⟨2, "", [synopsis], b⟩
  | .version program => ⟨0, program ++ " " ++ versionNumber ++ "\n", [], b⟩
  | .help => ⟨0, synopsis ++ "\n", [], b⟩

def run (e : Environment) (stamp : String) (args : List String) (b : Backends Unit) : Outcome :=
  match Invocation.parse e args with
  | .ok i => execute e stamp i b
  | .error stop => stop.outcome b

end Strongbox.Command
