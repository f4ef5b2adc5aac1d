import Strongbox.Proofs.FileStore.Atomicity
import Strongbox.Proofs.Secret.Acceptance
import Strongbox.Proofs.SecretStore.Opened
import Strongbox.Native.Keyring
import Strongbox.Native.Memory
/-! Who is to blame for a read that fails. A native store blames itself and a format blames the text, so that
the kind of an error tells where it comes from. -/
namespace Strongbox

/-- What native stores promise: whatever they hold, a read fails by the store and not by the data. -/
def NativeStore.BlamesItself {σ : Type} (native : NativeStore σ) : Prop :=
  ∀ key w e w', native.get key w = .error e w' → e.isDataError = false

/-- What formats promise: a text that is not decoded is itself at fault. -/
def SecretFormat.BlamesText {α : Type} (format : SecretFormat α) : Prop :=
  ∀ text e, format.deserialize text = .error e → e.isDataError = true

theorem SecretKind.blamesText (kind : SecretKind) : kind.format.BlamesText := by
  intro text e h
  have hdecode : Secret.decode kind text = .error e := by
    rw [decode_format, h]
    rfl
  exact Secret.isDataError_of_decode hdecode

theorem MemoryStore.blamesItself (secure : Bool) : (MemoryStore.native secure).BlamesItself := by
  intro key w e w' h
  simp only [native, guarded] at h
  split at h
  · cases h
    rfl
  · cases h

/-- A file that holds no document is the fault of the store, too. -/
theorem FileStore.blamesItself (path : String) : (FileStore.native path).BlamesItself := by
  intro key disk e disk' h
  have hload := load_cases path disk
  have hget : FileStore.get path key disk = .error e disk' := h
  cases hcall : load path disk with
  | ok d disk₁ =>
      cases (Call.bind_of_ok hcall _).symm.trans hget
  | error e₁ disk₁ =>
      rw [hcall] at hload
      obtain ⟨-, ⟨text, rfl⟩, -⟩ := hload
      cases (Call.bind_of_error hcall _).symm.trans hget
      rfl

namespace Keyring

theorem isDataError_explain (p : KeyringPlatform) (e : KeyringError) :
    (explain p e).isDataError = false := by
  cases e <;> rfl

theorem isDataError_of_explained {α : Type} {p : KeyringPlatform} {call : Call α} {k k' : Keyring}
    {e : SecretError} (h : explained p call k = .error e k') : e.isDataError = false := by
  unfold explained at h
  split at h
  · cases h
  · cases h
    exact isDataError_explain p _

/-- Bytes that are no text never come before the format. -/
theorem blamesItself (p : KeyringPlatform) : (Keyring.native p).BlamesItself := by
  intro key k e k' h
  have hget : Keyring.get p key k = .error e k' := h
  cases hbuild : explained p (buildEntry key) k with
  | error e₁ k₁ =>
      cases (Call.bind_of_error hbuild _).symm.trans hget
      exact isDataError_of_explained hbuild
  | ok item k₁ =>
      have hread := (Call.bind_of_ok hbuild _).symm.trans hget
      split at hread
      · cases hread
      · cases hread
      · cases hread
        exact isDataError_explain p _

end Keyring

end Strongbox
