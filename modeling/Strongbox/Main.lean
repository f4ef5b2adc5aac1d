import Strongbox.Command.Run
import Std.Time.Format
/-! The program itself: it shows a run the part of the disk that the run may touch, and then does to
the disk what the run did to its image. There is no keyring that answers. -/
namespace Strongbox.Main

def variableNames : List String :=
  ["HOME", "XDG_DATA_HOME", "XDG_CONFIG_HOME", "DBUS_SESSION_BUS_ADDRESS",
   "CREDSTORE_CONFIG_DIR", "CREDSTORE_PASSWORD", "CREDSTORE_TOKEN"]

def readEnvironment : IO Environment := do
  let found ← variableNames.filterMapM fun name => do
    return (← IO.getEnv name).map fun value => (name, value)
  return ⟨found, none⟩

def pathOf (names : List String) : String := "/" ++ "/".intercalate names

/-- What is at a path whose directory is there. The mode of a file that is there is not asked for. -/
def look (names : List String) (serial : Nat) : IO (Option Node) := do
  try
    return some (.file (← IO.FS.readBinFile (pathOf names)) 0o644 serial)
  catch
    | .noFileOrDirectory _ _ _ => return none
    | _ => return some .directory

/-- Adds to an image of the disk what is met on the way along some names. -/
def survey (disk : Disk) (above : List String) : List String → IO Disk
  | [] => return disk
  | name :: later => do
    if name = "." then survey disk above later
    else if name = ".." then survey disk above.dropLast later
    else
      let names := above ++ [name]
      match disk.find? names with
      | some _ => survey disk names later
      | none => match ← look names disk.serial with
        | some node => survey { disk.set names node with serial := disk.serial + 1 } names later
        | none => survey disk names later

def surveyPath (disk : Disk) (path : String) : IO Disk :=
  let r := Path.route path
  survey disk (if r.fromRoot then [] else disk.here) r.names

def touched (e : Environment) (i : Command.Invocation) (disk : Disk) : List String :=
  match Command.directoryOf e i with
  | .error _ => []
  | .ok d =>
    let s := match (d.load disk).1.value with
      | .ok s => s
      | .error _ => .standard
    let store := (s.fallbackPath e).toOption.toList
    store ++ store.map FileStore.temporary ++ s.logging.file.toList

def image (e : Environment) (i : Command.Invocation) : IO Disk := do
  let disk : Disk := ⟨[], (Path.route (← IO.currentDir).toString).names, [], 0⟩
  match Command.directoryOf e i with
  | .error _ => return disk
  | .ok d =>
    let disk ← surveyPath disk d.file
    (touched e i disk).foldlM surveyPath disk

def rightsOf (mode : Nat) : IO.FileRight :=
  let rights (n : Nat) : IO.AccessRight :=
    ⟨(mode / n / 4) % 2 == 1, (mode / n / 2) % 2 == 1, (mode / n) % 2 == 1⟩
  ⟨rights 64, rights 8, rights 1⟩

def replaceFile (path : String) (bytes : ByteArray) (mode : Nat) : IO Unit := do
  let aside := path ++ ".new"
  IO.FS.writeBinFile aside bytes
  IO.setAccessRights aside (rightsOf mode)
  IO.FS.rename aside path

/-- Makes one node what it has become. A file that only grew is appended to. -/
def settle (before : Disk) (names : List String) (node : Node) : IO Unit := do
  if before.find? names == some node then return
  match before.find? names, node with
  | _, .void => return
  | _, .directory => IO.FS.createDirAll (pathOf names)
  | some (.file old mode _), .file bytes mode' _ =>
    if mode == mode' && bytes.extract 0 old.size == old then
      let handle ← IO.FS.Handle.mk (pathOf names) .append
      handle.write (bytes.extract old.size bytes.size)
    else replaceFile (pathOf names) bytes mode'
  | _, .file bytes mode _ => replaceFile (pathOf names) bytes mode

/-- Does to the disk what was done to its image, directories before what is in them. -/
def settleAll (before after : Disk) : IO Unit := do
  let nodes := after.nodes.mergeSort fun a b => a.1.length ≤ b.1.length
  for (names, node) in nodes do settle before names node
  for (names, _) in before.nodes do
    if (after.find? names).isNone then IO.FS.removeFile (pathOf names)

def unreachable : Keyring :=
  let e := KeyringError.noStorageAccess "no secret service"
  { Keyring.empty with faults := ⟨none, some e, some e, some e⟩ }

def stamp : IO String := do
  let now := Std.Time.DateTime.ofTimestampWithZone (← Std.Time.Timestamp.now) .UTC
  return now.format "uuuu-MM-dd'T'HH:mm:ss.SSSSSS'Z'"

def finish (o : Command.Outcome) : IO UInt32 := do
  (← IO.getStdout).putStr o.output
  for line in o.errors do IO.eprintln line
  return o.exit.toUInt32

def runInvocation (e : Environment) (i : Command.Invocation) : IO UInt32 := do
  let before ← image e i
  let outcome := Command.execute e (← stamp) i ⟨before, unreachable, ()⟩
  settleAll before outcome.backends.disk
  finish outcome

end Strongbox.Main

def main (args : List String) : IO UInt32 := do
  let e ← Strongbox.Main.readEnvironment
  match Strongbox.Command.Invocation.parse e args with
  | .ok i => Strongbox.Main.runInvocation e i
  | .error stop => Strongbox.Main.finish (stop.outcome ⟨⟨[], [], [], 0⟩, Strongbox.Main.unreachable, ()⟩)
