import Strongbox.Native.Store
import Strongbox.Log.Event
/-! The secret service of the desktop: items by service and user, reached through entries that have
to be built first. A keyring may refuse any of its calls. -/
namespace Strongbox

inductive KeyringError where
  | platformFailure (text : String)
  | noStorageAccess (text : String)
  | noEntry
  | badEncoding
  | tooLong (text : String)
  | invalid (text : String)
  | ambiguous
  deriving DecidableEq, Repr

def KeyringError.message : KeyringError → String
  | platformFailure text => "Platform secure storage failure: " ++ text
  | noStorageAccess text => "Couldn't access platform secure storage: " ++ text
  | noEntry => "No matching entry found in secure storage"
  | badEncoding => "Data is not UTF-8 encoded"
  | tooLong text => s!"Attribute '{text}' is longer than platform limit of 2560 chars"
  | invalid text => s!"Attribute {text} is invalid: rejected"
  | ambiguous => "Entry is matched by 0 credentials: []"

structure KeyringFaults where
  build : Option KeyringError
  get : Option KeyringError
  set : Option KeyringError
  delete : Option KeyringError
  deriving DecidableEq, Repr

structure Keyring where
  /-- Bytes by service and user. -/
  items : List ((String × String) × ByteArray)
  faults : KeyringFaults

inductive KeyringPlatform where
  | windowsCredentialManager
  | secretService
  | macosKeychain
  deriving DecidableEq, Repr

namespace KeyringPlatform

/-- The service of the system this library is built for. -/
def ofBuild : Option KeyringPlatform := some secretService

def backendId : KeyringPlatform → String
  | windowsCredentialManager => "windows-credential-manager"
  | secretService => "secret-service"
  | macosKeychain => "macos-keychain"

def displayName : KeyringPlatform → String
  | windowsCredentialManager => "Windows Credential Manager"
  | secretService => "GNOME Keyring (Secret Service)"
  | macosKeychain => "macOS Keychain"

end KeyringPlatform

namespace Keyring

def empty : Keyring := ⟨[], ⟨none, none, none, none⟩⟩

def find? (k : Keyring) (item : String × String) : Option ByteArray :=
  (k.items.find? (·.1 == item)).map (·.2)

def without (k : Keyring) (item : String × String) : Keyring :=
  { k with items := k.items.filter (·.1 != item) }

def bind (k : Keyring) (item : String × String) (bytes : ByteArray) : Keyring :=
  { k with items := (item, bytes) :: (k.without item).items }

abbrev Call := EStateM KeyringError Keyring

def refuseIf (fault : KeyringFaults → Option KeyringError) : Call Unit := fun k =>
  match fault k.faults with
  | some e => .error e k
  | none => .ok () k

def itemOf (key : NativeKey) : String × String := (key.service, key.key)

def buildEntry (key : NativeKey) : Call (String × String) := do
  refuseIf (·.build)
  return itemOf key

def getPassword (item : String × String) : Call String := do
  refuseIf (·.get)
  match (← EStateM.get).find? item with
  | none => throw .noEntry
  | some bytes => match String.fromUTF8? bytes with
    | some s => return s
    | none => throw .badEncoding

def setPassword (item : String × String) (text : String) : Call Unit := do
  refuseIf (·.set)
  modify (·.bind item text.toUTF8)

def deleteItem (item : String × String) : Call Unit := do
  refuseIf (·.delete)
  match (← EStateM.get).find? item with
  | none => throw .noEntry
  | some _ => modify (·.without item)

/-- A keyring that cannot be reached is unavailable; any other refusal is a failed operation. -/
def explain (p : KeyringPlatform) (e : KeyringError) : SecretError :=
  match e with
  | .platformFailure _ | .noStorageAccess _ => .unavailable s!"{p.displayName}: {e.message}"
  | _ => .failed s!"{p.displayName}: {e.message}"

def explained {α : Type} (p : KeyringPlatform) (call : Call α) : StoreCall Keyring α := fun k =>
  match call k with
  | .ok a k => .ok a k
  | .error e k => .error (explain p e) k

def put (p : KeyringPlatform) (key : NativeKey) (blob : String) : StoreCall Keyring Unit := do
  let item ← explained p (buildEntry key)
  explained p (setPassword item blob)

/-- An item that is missing is no failure. -/
def get (p : KeyringPlatform) (key : NativeKey) : StoreCall Keyring (Option String) := do
  let item ← explained p (buildEntry key)
  fun k => match getPassword item k with
    | .ok s k => .ok (some s) k
    | .error .noEntry k => .ok none k
    | .error e k => .error (explain p e) k

def delete (p : KeyringPlatform) (key : NativeKey) : StoreCall Keyring Bool := do
  let item ← explained p (buildEntry key)
  fun k => match deleteItem item k with
    | .ok () k => .ok true k
    | .error .noEntry k => .ok false k
    | .error e k => .error (explain p e) k

def native (p : KeyringPlatform) : NativeStore Keyring where
  name := p.backendId
  secure := true
  put := put p
  get := get p
  delete := delete p

def probeKey : String := "__credstore_probe__"

def detected (p : KeyringPlatform) : Log.Event :=
  ⟨.debug, "credstore_core::store::keyring", "Native secret store detected",
    [("backend", .quoted p.backendId)], none⟩

/-- Whether the keyring of a platform answers to a name space. Nothing is written. -/
def probe (p : KeyringPlatform) (space : String) (k : Keyring) :
    Log.Logged (Except SecretError Unit) :=
  if KeyringPlatform.ofBuild ≠ some p then
    ⟨.error (.unavailable s!"{p.displayName} is not available on this platform"), []⟩
  else match NativeKey.make space "Probe" probeKey with
    | .error e => ⟨.error e, []⟩
    | .ok key => match explained p (buildEntry key) k with
      | .error e _ => ⟨.error e, []⟩
      | .ok item k => match getPassword item k with
        | .ok _ _ | .error .noEntry _ => ⟨.ok (), [detected p]⟩
        | .error e _ =>
          ⟨.error (.unavailable s!"{p.displayName} did not respond: {e.message}"), []⟩

end Keyring
end Strongbox
