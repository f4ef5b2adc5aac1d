import Strongbox.Backends
import Strongbox.Proofs.FileStore.Veil
import Strongbox.Proofs.SecretStore.Reports
/-! Calls of stores over states that differ in what is masked. The same is told and reported; a secret
that is read may be another one, with the same face. -/
namespace Strongbox

open Call (Agree)
open FileStore (Masked Remains)
open Secret (SameFace)
open StoreDocument (VeiledAt)

theorem StoreCall.onPart_agree {σ τ α β : Type} {R : α → β → Prop} {S : σ → σ → Prop}
    {S' : τ → τ → Prop} {part : τ → σ} {set : σ → τ → τ} {call : StoreCall σ α} {call' : StoreCall σ β}
    {t t' : τ} (h : Agree R S (call (part t)) (call' (part t')))
    (hset : ∀ w w', S w w' → S' (set w t) (set w' t')) :
    Agree R S' (call.onPart part set t) (call'.onPart part set t') := by
  unfold onPart
  generalize call (part t) = result at h
  generalize call' (part t') = result' at h
  cases h with
  | ok answers states => exact .ok answers (hset _ _ states)
  | error e states => exact .error e (hset _ _ states)

theorem Call.agree_refl {ε σ α : Type} {R : α → α → Prop} (hR : ∀ a, R a a)
    (result : EStateM.Result ε σ α) : Agree R Eq result result := by
  cases result with
  | ok a w => exact .ok (hR a) rfl
  | error e w => exact .error e rfl

/-- A keyring refuses a text or takes it, whatever it says. -/
theorem Keyring.setPassword_agree (item : String × String) (text text' : String) (k : Keyring) :
    Agree Eq (fun _ _ => True) (setPassword item text k) (setPassword item text' k) := by
  refine (Call.agree_refl (fun _ => rfl) (refuseIf (·.set) k)).bindInto (fun _ _ _ => trivial) ?_
  intro _ _ w w' _ _
  exact .ok rfl trivial

theorem Keyring.put_agree (p : KeyringPlatform) (key : NativeKey) (blob blob' : String) (k : Keyring) :
    Agree Eq (fun _ _ => True) (put p key blob k) (put p key blob' k) := by
  refine (Call.agree_refl (fun _ => rfl) (explained p (buildEntry key) k)).bindInto
    (fun _ _ _ => trivial) ?_
  rintro item item' w w' rfl rfl
  have hset := setPassword_agree item blob blob' w
  unfold explained
  generalize setPassword item blob w = result at hset
  generalize setPassword item blob' w = result' at hset
  cases hset with
  | ok answers states => exact .ok answers states
  | error e states => exact .error _ states

namespace Backends

variable {ρ : Type}

structure Seem (K : Keyring → Keyring → Prop) (C : ByteArray → ByteArray → Prop) (b b' : Backends ρ) :
    Prop where
  keyring : K b.keyring b'.keyring
  disk : Disk.Alike (fun _ => C) b.disk b'.disk
  sound : b.disk.Sound

/-- Keyrings that are not compared any more. -/
def Any (_ _ : Keyring) : Prop := True

/-- The stores that are ever chosen. -/
inductive Chosen : NativeStore (Backends ρ) → Prop
  | file (path : String) : Chosen (file path)
  | secret (p : KeyringPlatform) : Chosen (secret p)

variable {native : NativeStore (Backends ρ)} {b b' : Backends ρ}

theorem Seem.part (h : Seem Eq Masked b b') : Seem Any Remains b b' :=
  ⟨trivial, h.disk.mono Masked.remains, h.sound⟩

theorem get_agree (hnative : Chosen native) (h : Seem Eq Masked b b') (key : NativeKey) :
    Agree (VeiledAt key) (Seem Eq Masked) (native.get key b) (native.get key b') := by
  cases hnative with
  | file path =>
      have hget := FileStore.get_agree h.disk path key
      have huntouched := FileStore.get_untouched path key b.disk
      have hsound : Agree (VeiledAt key)
          (fun w w' => Disk.Alike (fun _ => Masked) w w' ∧ w.Sound)
          (FileStore.get path key b.disk) (FileStore.get path key b'.disk) := by
        generalize FileStore.get path key b.disk = result at hget huntouched
        generalize FileStore.get path key b'.disk = result' at hget
        cases hget with
        | ok answers states => exact .ok answers ⟨states, h.sound.untouched huntouched⟩
        | error e states => exact .error e ⟨states, h.sound.untouched huntouched⟩
      apply StoreCall.onPart_agree hsound
      rintro w w' ⟨hw, hsound⟩
      exact ⟨h.keyring, hw, hsound⟩
  | secret p =>
      have hget : Agree (VeiledAt key) Eq (Keyring.get p key b.keyring)
          (Keyring.get p key b'.keyring) := by
        rw [h.keyring]
        exact Call.agree_refl VeiledAt.same _
      apply StoreCall.onPart_agree hget
      intro w w' hw
      exact ⟨hw, h.disk, h.sound⟩

theorem put_agree (hnative : Chosen native) (h : Seem Eq Masked b b') {key : NativeKey}
    {s s' : Secret} (face : SameFace s s') (hkind : s.kind.typeName = key.typeName) :
    Agree Eq (Seem Any Remains) (native.put key s.encodeDocument b)
      (native.put key s'.encodeDocument b') := by
  cases hnative with
  | file path =>
      have hput := FileStore.put_agree h.disk h.sound face hkind path
      have hevolves := FileStore.put_evolves h.sound path key s.encodeDocument
      have hsound : Agree Eq (fun w w' => Disk.Alike (fun _ => Remains) w w' ∧ w.Sound)
          (FileStore.put path key s.encodeDocument b.disk)
          (FileStore.put path key s'.encodeDocument b'.disk) := by
        generalize FileStore.put path key s.encodeDocument b.disk = result at hput hevolves
        generalize FileStore.put path key s'.encodeDocument b'.disk = result' at hput
        cases hput with
        | ok answers states => exact .ok answers ⟨states, hevolves.sound h.sound⟩
        | error e states => exact .error e ⟨states, hevolves.sound h.sound⟩
      apply StoreCall.onPart_agree hsound
      rintro w w' ⟨hw, hsound⟩
      exact ⟨trivial, hw, hsound⟩
  | secret p =>
      have hput := Keyring.put_agree p key s.encodeDocument s'.encodeDocument b.keyring
      have hsame : Agree Eq (fun _ _ => True) (Keyring.put p key s.encodeDocument b.keyring)
          (Keyring.put p key s'.encodeDocument b'.keyring) := by
        rwa [← h.keyring]
      apply StoreCall.onPart_agree hsame
      intro w w' _
      exact ⟨trivial, h.disk.mono Masked.remains, h.sound⟩

theorem delete_agree (hnative : Chosen native) (h : Seem Eq Masked b b') (key : NativeKey) :
    Agree Eq (Seem Any Remains) (native.delete key b) (native.delete key b') := by
  cases hnative with
  | file path =>
      have hdelete := FileStore.delete_agree h.disk h.sound path key
      have hevolves := FileStore.delete_evolves h.sound path key
      have hsound : Agree Eq (fun w w' => Disk.Alike (fun _ => Remains) w w' ∧ w.Sound)
          (FileStore.delete path key b.disk) (FileStore.delete path key b'.disk) := by
        generalize FileStore.delete path key b.disk = result at hdelete hevolves
        generalize FileStore.delete path key b'.disk = result' at hdelete
        cases hdelete with
        | ok answers states => exact .ok answers ⟨states, hevolves.sound h.sound⟩
        | error e states => exact .error e ⟨states, hevolves.sound h.sound⟩
      apply StoreCall.onPart_agree hsound
      rintro w w' ⟨hw, hsound⟩
      exact ⟨trivial, hw, hsound⟩
  | secret p =>
      have hdelete : Agree Eq Eq (Keyring.delete p key b.keyring) (Keyring.delete p key b'.keyring) := by
        rw [h.keyring]
        exact Call.agree_refl (fun _ => rfl) _
      apply StoreCall.onPart_agree hdelete
      intro w w' _
      exact ⟨trivial, h.disk.mono Masked.remains, h.sound⟩

end Backends

/-! ### Calls of an opened store -/

namespace Opened

open Backends (Seem Any Chosen)

variable {ρ : Type} {native : NativeStore (Backends ρ)} {b b' : Backends ρ}

/-- Two secrets of one kind with the same face, or twice none. -/
def Faces (kind : SecretKind) : Option kind.Content → Option kind.Content → Prop :=
  Option.Rel fun a a' => SameFace (kind.secret a) (kind.secret a')

theorem decoded_agree (s : Opened native) {key : String} {blob blob' : Option String}
    (h : VeiledAt (s.nativeKey key) blob blob') :
    (∃ e, s.decoded blob = .error e ∧ s.decoded blob' = .error e) ∨
      ∃ a a', s.decoded blob = .ok a ∧ s.decoded blob' = .ok a' ∧ Faces s.kind a a' := by
  cases h with
  | same =>
      cases s.decoded blob with
      | error e => exact .inl ⟨e, rfl, rfl⟩
      | ok a =>
          refine .inr ⟨a, a, rfl, rfl, ?_⟩
          cases a with
          | none => exact .none
          | some a => exact .some (.refl _)
  | @secret secret secret' face hkind =>
      rw [s.typeName_nativeKey] at hkind
      have hown := SecretKind.typeName_injective hkind
      obtain ⟨a, ha, hpersisted⟩ := SecretKind.deserialize_encodeDocument hown
      obtain ⟨a', ha', hpersisted'⟩ := SecretKind.deserialize_encodeDocument (face.kind.trans hown)
      refine .inr ⟨some a, some a', ?_, ?_, .some ?_⟩
      · rw [decoded, ha]
        rfl
      · rw [decoded, ha']
        rfl
      · rw [hpersisted, hpersisted']
        exact face.persisted

theorem tryGet_agree (s : Opened native) (hnative : Chosen native) (h : Seem Eq Masked b b')
    (key : String) :
    Agree (Faces s.kind) (Seem Eq Masked) (s.store.tryGet key b) (s.store.tryGet key b') := by
  have hget := Backends.get_agree hnative h (s.nativeKey key)
  generalize hread : native.get (s.nativeKey key) b = result at hget
  generalize hread' : native.get (s.nativeKey key) b' = result' at hget
  cases hget with
  | error e states =>
      rw [s.tryGet_of_error hread, s.tryGet_of_error hread']
      exact .error e states
  | ok hblob states =>
      rw [s.tryGet_of_found hread, s.tryGet_of_found hread']
      rcases s.decoded_agree hblob with ⟨e, he, he'⟩ | ⟨a, a', ha, ha', hfaces⟩
      · rw [he, he']
        exact .error e states
      · rw [ha, ha']
        exact .ok hfaces states

theorem get_agree (s : Opened native) (hnative : Chosen native) (h : Seem Eq Masked b b')
    (key : String) :
    (s.store.get key b').1.events = (s.store.get key b).1.events ∧
      Faces s.kind (s.store.get key b).1.value (s.store.get key b').1.value ∧
      Seem Eq Masked (s.store.get key b).2 (s.store.get key b').2 := by
  have htry := s.tryGet_agree hnative h key
  unfold SecretStore.get
  generalize s.store.tryGet key b = result at htry
  generalize s.store.tryGet key b' = result' at htry
  cases htry with
  | ok hfaces states => exact ⟨rfl, hfaces, states⟩
  | error e states =>
      dsimp only
      split
      · exact ⟨rfl, .none, states⟩
      · exact ⟨rfl, .none, states⟩

theorem add_agree (s : Opened native) (hnative : Chosen native) (h : Seem Eq Masked b b')
    (key : String) {a a' : s.kind.Content} (face : SameFace (s.kind.secret a) (s.kind.secret a')) :
    (s.store.add key a' b').1 = (s.store.add key a b).1 ∧
      Seem Any Remains (s.store.add key a b).2 (s.store.add key a' b').2 := by
  have hkind : (s.kind.secret a).kind.typeName = (s.nativeKey key).typeName := by
    rw [SecretKind.kind_secret, s.typeName_nativeKey]
  have hput := Backends.put_agree hnative h face hkind
  unfold SecretStore.add
  rw [s.tryAdd_eq, s.tryAdd_eq]
  generalize native.put (s.nativeKey key) (s.kind.secret a).encodeDocument b = result at hput
  generalize native.put (s.nativeKey key) (s.kind.secret a').encodeDocument b' = result' at hput
  cases hput with
  | ok answers states => exact ⟨rfl, states⟩
  | error e states => exact ⟨rfl, states⟩

theorem delete_agree (s : Opened native) (hnative : Chosen native) (h : Seem Eq Masked b b')
    (key : String) :
    (s.store.delete key b').1 = (s.store.delete key b).1 ∧
      Seem Any Remains (s.store.delete key b).2 (s.store.delete key b').2 := by
  have hdelete := Backends.delete_agree hnative h (s.nativeKey key)
  unfold SecretStore.delete
  rw [s.tryDelete_eq]
  generalize native.delete (s.nativeKey key) b = result at hdelete
  generalize native.delete (s.nativeKey key) b' = result' at hdelete
  cases hdelete with
  | ok answers states =>
      cases answers
      exact ⟨rfl, states⟩
  | error e states => exact ⟨rfl, states⟩

end Opened
end Strongbox
