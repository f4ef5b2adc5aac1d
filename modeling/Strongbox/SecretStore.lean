import Strongbox.Native.Store
import Strongbox.Secret.Document
import Strongbox.Log.Event
/-! The store that callers use, the same over every native store. It never fails: what cannot be
read is absent, what cannot be written answers `false`, and each failure is reported as one event. -/
namespace Strongbox

open Log

structure SecretStore (σ α : Type) where
  native : NativeStore σ
  space : String
  format : SecretFormat α
  space_component : NativeKey.isComponent space = true
  type_component : NativeKey.isComponent format.typeName = true

namespace SecretStore

variable {σ α : Type}

def make (native : NativeStore σ) (space : String) (format : SecretFormat α) :
    Except SecretError (SecretStore σ α) :=
  match hs : NativeKey.checkComponent "namespace" space with
  | .error e => .error e
  | .ok () => match ht : NativeKey.checkComponent "type name" format.typeName with
    | .error e => .error e
    | .ok () => .ok ⟨native, space, format, NativeKey.isComponent_of_check hs,
        NativeKey.isComponent_of_check ht⟩

def nativeKey (s : SecretStore σ α) (key : String) : NativeKey :=
  ⟨s.space, s.format.typeName, key, s.space_component, s.type_component⟩

def tryGet (s : SecretStore σ α) (key : String) : StoreCall σ (Option α) := fun w =>
  match s.native.get (s.nativeKey key) w with
  | .error e w => .error e w
  | .ok none w => .ok none w
  | .ok (some blob) w => match s.format.deserialize blob with
    | .ok a => .ok (some a) w
    | .error e => .error e w

def tryAdd (s : SecretStore σ α) (key : String) (a : α) : StoreCall σ Unit := fun w =>
  match s.format.serialize a with
  | .error e => .error e w
  | .ok blob => s.native.put (s.nativeKey key) blob w

def tryDelete (s : SecretStore σ α) (key : String) : StoreCall σ Bool :=
  s.native.delete (s.nativeKey key)

def spanOf (s : SecretStore σ α) (name key : String) : Span :=
  ⟨name, .debug, "credstore_core::store::backed",
    [("backend", .quoted s.native.name), ("type_name", .quoted s.format.typeName),
     ("key", .shown key)]⟩

def failure (s : SecretStore σ α) (level : Level) (message key : String) (e : SecretError)
    (span : Span) : Event :=
  ⟨level, storeTarget, message,
    [("backend", .quoted s.native.name), ("type_name", .quoted s.format.typeName),
     ("key", .shown key), ("error", .shown e.message)], some span⟩

/-- A secret that cannot be decoded is absent, with a warning; so is one whose store fails, with an
error. -/
def get (s : SecretStore σ α) (key : String) (w : σ) : Logged (Option α) × σ :=
  let span := s.spanOf "store.get" key
  match s.tryGet key w with
  | .ok found w => (⟨found, []⟩, w)
  | .error e w =>
    if e.isDataError then
      (⟨none, [s.failure .warn "Stored secret could not be decoded, treating it as absent" key e
        span]⟩, w)
    else (⟨none, [s.failure .error "Failed to read secret" key e span]⟩, w)

def add (s : SecretStore σ α) (key : String) (a : α) (w : σ) : Logged Bool × σ :=
  let span := s.spanOf "store.add" key
  match s.tryAdd key a w with
  | .ok () w =>
    (⟨true, [⟨.debug, storeTarget, "Secret stored", [("key", .shown key)], some span⟩]⟩, w)
  | .error e w => (⟨false, [s.failure .error "Failed to add secret" key e span]⟩, w)

/-- Deleting what is not there succeeds; the event says whether it was. -/
def delete (s : SecretStore σ α) (key : String) (w : σ) : Logged Bool × σ :=
  let span := s.spanOf "store.delete" key
  match s.tryDelete key w with
  | .ok existed w =>
    (⟨true, [⟨.debug, storeTarget, "Secret deleted",
      [("key", .shown key), ("existed", .flag existed)], some span⟩]⟩, w)
  | .error e w => (⟨false, [s.failure .error "Failed to delete secret" key e span]⟩, w)

def isSecure (s : SecretStore σ α) : Bool := s.native.secure

def backendId (s : SecretStore σ α) : String := s.native.name

def debug (s : SecretStore σ α) : String :=
  Text.debugRecord "BackedStore"
    [("backend", Text.debug s.native.name), ("namespace", Text.debug s.space),
     ("format", s.format.debug)] false

end SecretStore
end Strongbox
