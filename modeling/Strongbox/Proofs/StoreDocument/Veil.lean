import Strongbox.Proofs.Native.File
import Strongbox.Proofs.Secret.Face
/-! Documents that differ in what is masked. Under each key two of them hold the same, or two secrets
with the same face; changes of both at one key keep them so. -/
namespace Strongbox.StoreDocument

open Secret (SameFace)

/-- Blobs of two documents under one key. -/
inductive VeiledAt (key : NativeKey) : Option String → Option String → Prop
  | same (blob : Option String) : VeiledAt key blob blob
  | secret {s s' : Secret} (face : SameFace s s') (kind : s.kind.typeName = key.typeName) :
      VeiledAt key (some s.encodeDocument) (some s'.encodeDocument)

theorem VeiledAt.isSome_eq {key : NativeKey} {blob blob' : Option String}
    (h : VeiledAt key blob blob') : blob'.isSome = blob.isSome := by
  cases h <;> rfl

structure Veiled (d d' : StoreDocument) : Prop where
  version : d'.version = d.version
  readable : d.version ≤ currentVersion
  blobs : ∀ key : NativeKey,
    VeiledAt key (d.get? key.service key.key) (d'.get? key.service key.key)

variable {d d' : StoreDocument}

namespace Veiled

theorem refl (h : d.version ≤ currentVersion) : Veiled d d :=
  ⟨rfl, h, fun _ => .same _⟩

theorem readable' (h : Veiled d d') : d'.version ≤ currentVersion := by
  rw [h.version]
  exact h.readable

theorem insert (h : Veiled d d') {key : NativeKey} {s s' : Secret} (face : SameFace s s')
    (hkind : s.kind.typeName = key.typeName) :
    Veiled (({ d with version := currentVersion } : StoreDocument).insert key.service key.key
        s.encodeDocument)
      (({ d' with version := currentVersion } : StoreDocument).insert key.service key.key
        s'.encodeDocument) := by
  constructor
  · rfl
  · exact Nat.le_refl _
  · intro other
    rw [FileStore.get?_insert_key, FileStore.get?_insert_key]
    by_cases hother : other = key
    · subst hother
      rw [if_pos rfl, if_pos rfl]
      exact .secret face hkind
    · rw [if_neg hother, if_neg hother]
      exact h.blobs other

theorem erase (h : Veiled d d') (key : NativeKey) :
    Veiled (d.erase key.service key.key) (d'.erase key.service key.key) := by
  constructor
  · rw [version_erase, version_erase]
    exact h.version
  · rw [version_erase]
    exact h.readable
  · intro other
    rw [FileStore.get?_erase_key, FileStore.get?_erase_key]
    by_cases hother : other = key
    · rw [if_pos hother, if_pos hother]
      exact .same none
    · rw [if_neg hother, if_neg hother]
      exact h.blobs other

end Veiled
end Strongbox.StoreDocument
