import Strongbox.NativeKey
/-! The boundary to a native store: a flat map from keys to blobs whose calls may fail. -/
namespace Strongbox

/-- Call that may change what the store stands in, and may fail. -/
abbrev StoreCall := EStateM SecretError

/-- What a native store offers. `σ` is all that its calls can read and change. -/
structure NativeStore (σ : Type) where
  name : String
  /-- Whether blobs are safe from other users of the machine. -/
  secure : Bool
  put : NativeKey → String → StoreCall σ Unit
  get : NativeKey → StoreCall σ (Option String)
  delete : NativeKey → StoreCall σ Bool

def StoreCall.onPart {σ τ α : Type} (part : τ → σ) (set : σ → τ → τ) (call : StoreCall σ α) :
    StoreCall τ α := fun t =>
  match call (part t) with
  | .ok a s => .ok a (set s t)
  | .error e s => .error e (set s t)

def NativeStore.within {σ τ : Type} (part : τ → σ) (set : σ → τ → τ) (s : NativeStore σ) :
    NativeStore τ where
  name := s.name
  secure := s.secure
  put key blob := (s.put key blob).onPart part set
  get key := (s.get key).onPart part set
  delete key := (s.delete key).onPart part set

end Strongbox
