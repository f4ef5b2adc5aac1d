import Strongbox.Path
/-! A disk as a value: which files and directories there are, and the calls that a program makes on
them. A path is walked name by name, so that every directory on the way has to be there; there are no
links. Any call may be made to fail, so that what a program does after a failure can be stated. -/
namespace Strongbox

inductive IoError where
  | notFound
  | busy
  | occupied
  | notDirectory
  | isDirectory
  | nameTooLong
  /-- A path holds a character that ends it for the system. -/
  | nulByte
  | notText
  /-- A failure that the state of the disk does not explain. -/
  | other (text : String)
  deriving DecidableEq, Repr

def IoError.message : IoError → String
  | notFound => "No such file or directory (os error 2)"
  | busy => "Device or resource busy (os error 16)"
  | occupied => "File exists (os error 17)"
  | notDirectory => "Not a directory (os error 20)"
  | isDirectory => "Is a directory (os error 21)"
  | nameTooLong => "File name too long (os error 36)"
  | nulByte => "file name contained an unexpected NUL byte"
  | notText => "stream did not contain valid UTF-8"
  | other text => text

/-- Contents are compared in one way, whatever else is in scope. -/
instance decidableEqContent : DecidableEq ByteArray := ByteArray.instDecidableEq

inductive Node where
  /-- Content, permission bits, and the number that the file keeps when it is moved. -/
  | file (bytes : ByteArray) (mode serial : Nat)
  /-- A device that takes everything and gives nothing. -/
  | void
  | directory
  deriving DecidableEq

inductive Handle where
  | file (serial : Nat)
  | void
  deriving DecidableEq, Repr

/-- What strikes a call: its text, and how many bytes a write puts down first. -/
structure Mishap where
  text : String
  written : Nat
  deriving DecidableEq, Repr

structure Disk where
  /-- What lies below the root, by the names on the way there. -/
  nodes : List (List String × Node)
  /-- Working directory, where a path starts that does not start at the root. -/
  here : List String
  /-- What happens to the next calls; after the last one, calls go as the nodes have it. -/
  mishaps : List (Option Mishap)
  /-- Number for the next file that is made; no file has it yet. -/
  serial : Nat
  deriving DecidableEq

abbrev DiskCall := EStateM IoError Disk

namespace Disk

def find? (d : Disk) (names : List String) : Option Node :=
  if names.isEmpty then some .directory
  else (d.nodes.find? (·.1 == names)).map (·.2)

def set (d : Disk) (names : List String) (node : Node) : Disk :=
  { d with nodes := (names, node) :: d.nodes.filter (·.1 != names) }

def remove (d : Disk) (names : List String) : Disk :=
  { d with nodes := d.nodes.filter (·.1 != names) }

def nameLimit : Nat := 255

def pathLimit : Nat := 4095

def inside (d : Disk) (above : List String) (name : String) : Except IoError (Option Node) :=
  if nameLimit < name.utf8ByteSize then .error .nameTooLong else .ok (d.find? (above ++ [name]))

def enter (d : Disk) (above : List String) (name : String) : Except IoError (List String) :=
  if name = "." then .ok above
  else if name = ".." then .ok above.dropLast
  else match d.inside above name with
    | .ok (some .directory) => .ok (above ++ [name])
    | .ok (some _) => .error .notDirectory
    | .ok none => .error .notFound
    | .error e => .error e

def walk (d : Disk) (above : List String) : List String → Except IoError (List String)
  | [] => .ok above
  | name :: later => match d.enter above name with
    | .ok above => d.walk above later
    | .error e => .error e

/-- What a path comes down to once the directories on the way are walked. -/
inductive Spot where
  /-- A directory: the path ends at the root or in dots. -/
  | place (names : List String)
  /-- A name in a directory, perhaps before a slash. -/
  | entry (above : List String) (name : String) (slash : Bool)
  deriving DecidableEq, Repr

def spotOn (d : Disk) (r : Path.Route) : Except IoError Spot := do
  let start := if r.fromRoot then [] else d.here
  match r.names.getLast? with
  | none => return .place start
  | some name =>
    let above ← d.walk start r.names.dropLast
    if name = "." ∨ name = ".." then return .place (← d.enter above name)
    else return .entry above name r.slash

def spot (d : Disk) (path : String) : Except IoError Spot :=
  if path.toList.contains (Char.ofNat 0) then .error .nulByte
  else if path = "" then .error .notFound
  else if pathLimit < path.utf8ByteSize then .error .nameTooLong
  else d.spotOn (Path.route path)

/-- Names on the way to what is at a path, and what it is. A file has nothing behind a slash. -/
def status (d : Disk) (path : String) : Except IoError (List String × Node) := do
  match ← d.spot path with
  | .place names => return (names, .directory)
  | .entry above name slash => match ← d.inside above name with
    | none => throw .notFound
    | some .directory => return (above ++ [name], .directory)
    | some node => if slash then throw .notDirectory else return (above ++ [name], node)

def bytesAt? (d : Disk) (path : String) : Option ByteArray :=
  match d.status path with
  | .ok (_, .file bytes _ _) => some bytes
  | _ => none

def modeAt? (d : Disk) (path : String) : Option Nat :=
  match d.status path with
  | .ok (_, .file _ mode _) => some mode
  | _ => none

def existsAt (d : Disk) (path : String) : Bool := (d.status path).toOption.isSome

def isDirectoryAt (d : Disk) (path : String) : Bool :=
  match d.status path with
  | .ok (_, .directory) => true
  | _ => false

def attempt {α : Type} (call : DiskCall α) : DiskCall α := fun d =>
  match d.mishaps with
  | [] => call d
  | none :: later => call { d with mishaps := later }
  | some m :: later => .error (.other m.text) { d with mishaps := later }

def ask {α : Type} (answer : Disk → Except IoError α) : DiskCall α := fun d =>
  match answer d with
  | .ok a => .ok a d
  | .error e => .error e d

def readBytes (path : String) : DiskCall ByteArray := attempt do
  match ← ask (·.status path) with
  | (_, .file bytes _ _) => return bytes
  | (_, .void) => return .empty
  | (_, .directory) => throw .isDirectory

/-- Content as text; bytes that are no text are an error of their own. -/
def readText (path : String) : DiskCall String := do
  match String.fromUTF8? (← readBytes path) with
  | some s => return s
  | none => throw .notText

def makeDirectory (path : String) : DiskCall Unit := attempt do
  match ← ask (·.spot path) with
  | .place _ => throw .occupied
  | .entry above name _ => match ← ask (·.inside above name) with
    | some _ => throw .occupied
    | none => modify (·.set (above ++ [name]) .directory)

def create (names : List String) (mode : Nat) : DiskCall Handle := fun d =>
  .ok (.file d.serial) { d.set names (.file .empty mode d.serial) with serial := d.serial + 1 }

/-- Opens what is to be written. Nothing that is a directory, or looks like one, is opened. Only a
new file gets the mode; `clear` drops what an old one holds. -/
def openFile (path : String) (mode : Nat) (clear : Bool) : DiskCall Handle := attempt do
  match ← ask (·.spot path) with
  | .place _ => throw .isDirectory
  | .entry above name slash =>
    if slash then throw .isDirectory
    match ← ask (·.inside above name) with
    | some .directory => throw .isDirectory
    | some .void => return .void
    | some (.file _ mode serial) =>
      if clear then modify (·.set (above ++ [name]) (.file .empty mode serial))
      return .file serial
    | none => create (above ++ [name]) mode

def openEmpty (path : String) (mode : Nat) : DiskCall Handle := openFile path mode true

def openAppend (path : String) : DiskCall Handle := openFile path 0o644 false

def extended (serial : Nat) (bytes : ByteArray) : Node → Node
  | .file old mode own => .file (if own = serial then old ++ bytes else old) mode own
  | node => node

/-- Puts bytes at the end of what is open, wherever it has been moved to. Nothing is left of them
once it is removed. -/
def extend (handle : Handle) (bytes : ByteArray) (d : Disk) : Disk :=
  match handle with
  | .void => d
  | .file serial =>
    { d with nodes := d.nodes.map fun (names, node) => (names, extended serial bytes node) }

/-- Writes to what is open. A mishap may leave a part of the bytes behind. -/
def append (handle : Handle) (bytes : ByteArray) : DiskCall Unit := fun d =>
  match d.mishaps with
  | [] => .ok () (extend handle bytes d)
  | none :: later => .ok () (extend handle bytes { d with mishaps := later })
  | some m :: later =>
    .error (.other m.text) (extend handle (bytes.extract 0 m.written) { d with mishaps := later })

/-- Waits until what is open is on the disk. A device has nothing to wait for and refuses. -/
def sync (handle : Handle) : DiskCall Unit := attempt do
  match handle with
  | .file _ => return
  | .void => throw (.other "Invalid argument (os error 22)")

def rename (source target : String) : DiskCall Unit := attempt do
  match ← ask (·.spot source), ← ask (·.spot target) with
  | .entry above name slash, .entry above' name' slash' =>
    match ← ask (·.inside above name), ← ask (·.inside above' name') with
    | none, _ => throw .notFound
    | some .directory, _ => throw .isDirectory
    | some node, there =>
      if slash || slash' then throw .notDirectory
      if there = some .directory then throw .isDirectory
      modify fun d => (d.remove (above ++ [name])).set (above' ++ [name']) node
  | _, _ => throw .busy

def removeFile (path : String) : DiskCall Unit := attempt do
  match ← ask (·.spot path) with
  | .place _ => throw .isDirectory
  | .entry above name slash => match ← ask (·.inside above name) with
    | none => throw .notFound
    | some .directory => throw .isDirectory
    | some _ =>
      if slash then throw .notDirectory
      modify (·.remove (above ++ [name]))

def writeFile (path : String) (bytes : ByteArray) : DiskCall Unit := do
  append (← openEmpty path 0o644) bytes

/-- Makes a directory after those above it. The fuel bounds how many are missing. -/
def makeDirectoriesWithin : Nat → String → DiskCall Unit
  | 0, _ => pure ()
  | fuel + 1, path => fun d =>
    if path = "" then .ok () d
    else match makeDirectory path d with
      | .ok () d => .ok () d
      | .error .notFound d => match Path.parent? path with
        | none => .error (.other "failed to create whole tree") d
        | some above => match makeDirectoriesWithin fuel above d with
          | .error e d => .error e d
          | .ok () d => match makeDirectory path d with
            | .ok () d => .ok () d
            | .error e d => if d.isDirectoryAt path then .ok () d else .error e d
      | .error e d => if d.isDirectoryAt path then .ok () d else .error e d

def makeDirectories (path : String) : DiskCall Unit :=
  makeDirectoriesWithin (path.length + 1) path

end Disk
end Strongbox
