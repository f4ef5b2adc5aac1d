import Strongbox.Proofs.FileStore.Abreast
import Strongbox.Proofs.SecretStore
import Strongbox.Proofs.SecretStore.Veil
/-! Calls of stores over disks that differ in what is open for a log. The store is in the keyring, or in a
file that is not the log, so the same is done, told and reported. -/
namespace Strongbox

open Call (Agree)
open Disk (Nowhere)

namespace Backends

variable {ρ : Type} {handle? : Option Handle} {P Q : String → Prop} {b b' : Backends ρ}

structure Abreast (handle? : Option Handle) (P : String → Prop) (b b' : Backends ρ) : Prop where
  keyring : b'.keyring = b.keyring
  disk : b.disk.Abreast handle? P b'.disk

theorem Abreast.nowhere (h : b.Abreast handle? P b') : b.Abreast handle? Nowhere b' :=
  ⟨h.keyring, h.disk.nowhere⟩

theorem Abreast.onDisk {α : Type} {call : StoreCall Disk α} (h : b.Abreast handle? P b')
    (hcall : Agree Eq (Disk.Abreast handle? Q) (call b.disk) (call b'.disk)) :
    Agree Eq (Abreast handle? Q) (call.onPart (·.disk) (fun disk b => { b with disk }) b)
      (call.onPart (·.disk) (fun disk b => { b with disk }) b') :=
  StoreCall.onPart_agree hcall fun _ _ hw => ⟨h.keyring, hw⟩

theorem Abreast.onKeyring {α : Type} (h : b.Abreast handle? P b') (call : StoreCall Keyring α) :
    Agree Eq (Abreast handle? P) (call.onPart (·.keyring) (fun keyring b => { b with keyring }) b)
      (call.onPart (·.keyring) (fun keyring b => { b with keyring }) b') := by
  have hcall : Agree Eq Eq (call b.keyring) (call b'.keyring) := by
    rw [h.keyring]
    exact Call.agree_refl (fun _ => rfl) _
  exact StoreCall.onPart_agree hcall fun _ _ hw => ⟨hw.symm, h.disk⟩

/-- A store in the keyring, or in a file at one of some paths. -/
inductive Among (P : String → Prop) : NativeStore (Backends ρ) → Prop
  | file {path : String} (hpath : P path) : Among P (file path)
  | secret (p : KeyringPlatform) : Among P (secret p)

variable {native : NativeStore (Backends ρ)}

theorem get_abreast (hnative : Among P native) (h : b.Abreast handle? P b') (key : NativeKey) :
    Agree Eq (Abreast handle? P) (native.get key b) (native.get key b') := by
  cases hnative with
  | file hpath => exact h.onDisk (FileStore.get_abreast h.disk hpath key)
  | secret p => exact h.onKeyring (Keyring.get p key)

theorem put_abreast (hnative : Among P native) (h : b.Abreast handle? P b') (key : NativeKey)
    (blob : String) : Agree Eq (Abreast handle? Nowhere) (native.put key blob b) (native.put key blob b') := by
  cases hnative with
  | file hpath => exact h.onDisk (FileStore.put_abreast h.disk hpath key blob)
  | secret p => exact (h.onKeyring (Keyring.put p key blob)).weaken fun _ _ => Abreast.nowhere

theorem delete_abreast (hnative : Among P native) (h : b.Abreast handle? P b') (key : NativeKey) :
    Agree Eq (Abreast handle? Nowhere) (native.delete key b) (native.delete key b') := by
  cases hnative with
  | file hpath => exact h.onDisk (FileStore.delete_abreast h.disk hpath key)
  | secret p => exact (h.onKeyring (Keyring.delete p key)).weaken fun _ _ => Abreast.nowhere

end Backends

namespace SecretStore

open Backends (Abreast Among)

variable {ρ α : Type} {handle? : Option Handle} {P : String → Prop} {b b' : Backends ρ}
variable {s : SecretStore (Backends ρ) α}

/-- The same is told and reported, over backends that stay abreast. -/
def Keeps (handle? : Option Handle) (P : String → Prop) {β : Type}
    (call : Backends ρ → Log.Logged β × Backends ρ) (b b' : Backends ρ) : Prop :=
  (call b').1 = (call b).1 ∧ (call b).2.Abreast handle? P (call b').2

theorem tryGet_abreast (hs : Among P s.native) (h : b.Abreast handle? P b') (key : String) :
    Agree Eq (Abreast handle? P) (s.tryGet key b) (s.tryGet key b') := by
  have hget := Backends.get_abreast hs h (s.nativeKey key)
  unfold tryGet
  generalize s.native.get (s.nativeKey key) b = result at hget
  generalize s.native.get (s.nativeKey key) b' = result' at hget
  cases hget with
  | error e states => exact .error e states
  | @ok found _ _ _ answers states =>
      obtain rfl := answers
      cases found with
      | none => exact .ok rfl states
      | some blob =>
          dsimp only
          cases s.format.deserialize blob with
          | ok a => exact .ok rfl states
          | error e => exact .error e states

theorem get_keeps (hs : Among P s.native) (h : b.Abreast handle? P b') (key : String) :
    Keeps handle? P (s.get key) b b' := by
  have htry := tryGet_abreast hs h key
  unfold Keeps
  generalize hread : s.tryGet key b = result at htry
  generalize hread' : s.tryGet key b' = result' at htry
  cases htry with
  | ok answers states =>
      cases answers
      rw [s.get_of_ok hread, s.get_of_ok hread']
      exact ⟨rfl, states⟩
  | error e states =>
      rw [s.get_of_error hread, s.get_of_error hread']
      exact ⟨rfl, states⟩

theorem add_keeps (hs : Among P s.native) (h : b.Abreast handle? P b') (key : String) (a : α) :
    Keeps handle? Nowhere (s.add key a) b b' := by
  have htry : Agree Eq (Abreast handle? Nowhere) (s.tryAdd key a b) (s.tryAdd key a b') := by
    unfold tryAdd
    cases s.format.serialize a with
    | error e => exact .error e h.nowhere
    | ok blob => exact Backends.put_abreast hs h (s.nativeKey key) blob
  unfold Keeps add
  generalize s.tryAdd key a b = result at htry
  generalize s.tryAdd key a b' = result' at htry
  cases htry with
  | ok answers states => exact ⟨rfl, states⟩
  | error e states => exact ⟨rfl, states⟩

theorem delete_keeps (hs : Among P s.native) (h : b.Abreast handle? P b') (key : String) :
    Keeps handle? Nowhere (s.delete key) b b' := by
  have htry := Backends.delete_abreast hs h (s.nativeKey key)
  unfold Keeps delete tryDelete
  generalize s.native.delete (s.nativeKey key) b = result at htry
  generalize s.native.delete (s.nativeKey key) b' = result' at htry
  cases htry with
  | ok answers states =>
      cases answers
      exact ⟨rfl, states⟩
  | error e states => exact ⟨rfl, states⟩

end SecretStore
end Strongbox
