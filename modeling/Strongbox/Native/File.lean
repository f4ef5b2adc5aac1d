import Strongbox.Native.Store
import Strongbox.StoreDocument
import Strongbox.Disk
/-! A native store in a plain file, readable by whoever can read the file. Every call reads the whole
document; a change is written beside it first and then moved into its place. -/
namespace Strongbox.FileStore

def ioFailure (path action : String) (e : IoError) : SecretError :=
  .failed s!"Failed to {action} store file {path}: {e.message}"

def documentOf (path text : String) : Except SecretError StoreDocument :=
  match StoreDocument.read? text with
  | none => .error (.failed s!"Corrupt store file {path}")
  | some d =>
    if StoreDocument.currentVersion < d.version then
      .error (.failed s!"Store file {path} has unsupported version {d.version}")
    else .ok d

/-- A file that does not exist holds the empty document. -/
def load (path : String) : StoreCall Disk StoreDocument := fun disk =>
  match Disk.readText path disk with
  | .error .notFound disk => .ok .empty disk
  | .error e disk => .error (ioFailure path "read" e) disk
  | .ok text disk => match documentOf path text with
    | .ok d => .ok d disk
    | .error e => .error e disk

def temporary (path : String) : String := path ++ ".tmp"

/-- Only a new file is closed to other users; one that was left behind keeps its mode. -/
def writePrivate (path : String) (bytes : ByteArray) : DiskCall Unit := do
  let handle ← Disk.openEmpty path 0o600
  Disk.append handle bytes
  Disk.sync handle

def replace (path : String) (bytes : ByteArray) : DiskCall Unit := do
  writePrivate (temporary path) bytes
  Disk.rename (temporary path) path

def prepare (path : String) : DiskCall Unit :=
  match Path.parent? path with
  | some above => Disk.makeDirectories above
  | none => pure ()

/-- After a failed write the temporary file is removed, if that can be done. -/
def save (path : String) (d : StoreDocument) : StoreCall Disk Unit := fun disk =>
  match prepare path disk with
  | .error e disk => .error (ioFailure path "create directory for" e) disk
  | .ok () disk => match replace path d.render.toUTF8 disk with
    | .ok () disk => .ok () disk
    | .error e disk => match Disk.removeFile (temporary path) disk with
      | .ok () disk => .error (ioFailure path "write" e) disk
      | .error _ disk => .error (ioFailure path "write" e) disk

def put (path : String) (key : NativeKey) (blob : String) : StoreCall Disk Unit := do
  let d ← load path
  let d := { d with version := StoreDocument.currentVersion }
  save path (d.insert key.service key.key blob)

def get (path : String) (key : NativeKey) : StoreCall Disk (Option String) := do
  return (← load path).get? key.service key.key

/-- Nothing is written when there is nothing to delete. -/
def delete (path : String) (key : NativeKey) : StoreCall Disk Bool := do
  let d ← load path
  if (d.get? key.service key.key).isSome then
    save path (d.erase key.service key.key)
    return true
  else return false

def native (path : String) : NativeStore Disk where
  name := "insecure-file"
  secure := false
  put := put path
  get := get path
  delete := delete path

end Strongbox.FileStore
