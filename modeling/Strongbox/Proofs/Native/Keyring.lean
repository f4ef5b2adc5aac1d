import Strongbox.Proofs.Association
import Strongbox.Proofs.Call
import Strongbox.Proofs.NativeKey
import Strongbox.Proofs.Native.Map
import Strongbox.Proofs.Text.Bytes
import Strongbox.Native.Keyring
/-! A keyring that refuses nothing serves a map: its items are told apart by service and user, and
the bytes of an item are those of a text. -/
namespace Strongbox.Keyring

theorem itemOf_injective {k k' : NativeKey} (h : itemOf k = itemOf k') : k = k' := by
  cases Prod.mk.inj h with
  | intro hservice hkey => exact NativeKey.eq_of_service hservice hkey

theorem find?_bind (k : Keyring) (item item' : String × String) (bytes : ByteArray) :
    (k.bind item' bytes).find? item = if item = item' then some bytes else k.find? item :=
  Association.first?_rebind item item' bytes k.items

theorem find?_without (k : Keyring) (item item' : String × String) :
    (k.without item').find? item = if item = item' then none else k.find? item :=
  Association.first?_without item item' k.items

/-- No call is refused, and the items of keys hold the blobs of a map. Other items may be there. -/
structure Shows (k : Keyring) (m : BlobMap) : Prop where
  willing : k.faults = ⟨none, none, none, none⟩
  items : ∀ key, k.find? (itemOf key) = (m key).map String.toUTF8

theorem shows_empty : empty.Shows .empty := ⟨rfl, fun _ => rfl⟩

variable {k : Keyring} {m : BlobMap}

theorem Shows.bind (h : k.Shows m) (key : NativeKey) (blob : String) :
    (k.bind (itemOf key) blob.toUTF8).Shows (Function.update m key (some blob)) := by
  refine ⟨h.willing, fun j => ?_⟩
  rw [find?_bind, Function.update_apply]
  by_cases hj : j = key
  · rw [if_pos (congrArg itemOf hj), if_pos hj]
    rfl
  · rw [if_neg fun hitem => hj (itemOf_injective hitem), if_neg hj]
    exact h.items j

theorem Shows.without (h : k.Shows m) (key : NativeKey) :
    (k.without (itemOf key)).Shows (Function.update m key none) := by
  refine ⟨h.willing, fun j => ?_⟩
  rw [find?_without, Function.update_apply]
  by_cases hj : j = key
  · rw [if_pos (congrArg itemOf hj), if_pos hj]
    rfl
  · rw [if_neg fun hitem => hj (itemOf_injective hitem), if_neg hj]
    exact h.items j

/-- Forgetting what is not there changes nothing. -/
theorem Shows.without_missing (h : k.Shows m) {key : NativeKey} (hkey : m key = none) :
    k.Shows (Function.update m key none) := by
  rwa [← hkey, Function.update_eq_self]

theorem refuseIf_of_none {fault : KeyringFaults → Option KeyringError} (h : fault k.faults = none) :
    refuseIf fault k = .ok () k := by
  rw [refuseIf, h]

theorem buildEntry_of_willing (h : k.faults.build = none) (key : NativeKey) :
    buildEntry key k = .ok (itemOf key) k := by
  rw [buildEntry, Call.bind_of_ok (refuseIf_of_none h)]
  rfl

theorem getPassword_of_willing (h : k.faults.get = none) (item : String × String) :
    getPassword item k = match k.find? item with
      | none => .error .noEntry k
      | some bytes => match String.fromUTF8? bytes with
        | some s => .ok s k
        | none => .error .badEncoding k := by
  rw [getPassword, Call.bind_of_ok (refuseIf_of_none h), Call.get_bind]
  cases hitem : k.find? item with
  | none => rfl
  | some bytes => cases htext : String.fromUTF8? bytes <;> simp only [htext] <;> rfl

theorem deleteItem_of_willing (h : k.faults.delete = none) (item : String × String) :
    deleteItem item k = match k.find? item with
      | none => .error .noEntry k
      | some _ => .ok () (k.without item) := by
  rw [deleteItem, Call.bind_of_ok (refuseIf_of_none h), Call.get_bind]
  cases hitem : k.find? item <;> rfl

theorem put_of_shows (h : k.Shows m) (p : KeyringPlatform) (key : NativeKey) (blob : String) :
    put p key blob k = .ok () (k.bind (itemOf key) blob.toUTF8) := by
  have hbuild := buildEntry_of_willing (by rw [h.willing]) key
  have hset : setPassword (itemOf key) blob k = .ok () (k.bind (itemOf key) blob.toUTF8) := by
    rw [setPassword, Call.bind_of_ok (refuseIf_of_none (by rw [h.willing]))]
    rfl
  simp only [put, Bind.bind, EStateM.bind, explained, hbuild, hset]

theorem get_of_shows (h : k.Shows m) (p : KeyringPlatform) (key : NativeKey) :
    get p key k = .ok (m key) k := by
  have hbuild := buildEntry_of_willing (by rw [h.willing]) key
  have hget := getPassword_of_willing (by rw [h.willing]) (itemOf key)
  rw [h.items key] at hget
  cases hblob : m key with
  | none =>
      rw [hblob] at hget
      simp only [get, Bind.bind, EStateM.bind, explained, hbuild, hget, Option.map_none]
  | some blob =>
      rw [hblob] at hget
      simp only [Option.map_some, Text.fromUTF8?_toUTF8] at hget
      simp only [get, Bind.bind, EStateM.bind, explained, hbuild, hget]

theorem delete_of_missing (h : k.Shows m) (p : KeyringPlatform) {key : NativeKey}
    (hkey : m key = none) : delete p key k = .ok false k := by
  have hbuild := buildEntry_of_willing (by rw [h.willing]) key
  have hdelete := deleteItem_of_willing (by rw [h.willing]) (itemOf key)
  rw [h.items key, hkey] at hdelete
  simp only [delete, Bind.bind, EStateM.bind, explained, hbuild, hdelete, Option.map_none]

theorem delete_of_there (h : k.Shows m) (p : KeyringPlatform) {key : NativeKey} {blob : String}
    (hkey : m key = some blob) : delete p key k = .ok true (k.without (itemOf key)) := by
  have hbuild := buildEntry_of_willing (by rw [h.willing]) key
  have hdelete := deleteItem_of_willing (by rw [h.willing]) (itemOf key)
  rw [h.items key, hkey] at hdelete
  simp only [delete, Bind.bind, EStateM.bind, explained, hbuild, hdelete, Option.map_some]

theorem serves (p : KeyringPlatform) : (native p).Serves Shows := by
  constructor
  intro k m h call
  cases call with
  | put key blob =>
      exact ⟨_, NativeStore.answer_put_of_ok (put_of_shows h p key blob), h.bind key blob⟩
  | get key => exact ⟨k, NativeStore.answer_get_of_ok (get_of_shows h p key), h⟩
  | delete key =>
      cases hkey : m key with
      | none =>
          have hanswer : (native p).answer (.delete key) k = .ok (.existed false) k :=
            NativeStore.answer_delete_of_ok (delete_of_missing h p hkey)
          refine ⟨k, ?_, h.without_missing hkey⟩
          rw [BlobMap.answer, hkey]
          exact hanswer
      | some blob =>
          have hanswer : (native p).answer (.delete key) k =
              .ok (.existed true) (k.without (itemOf key)) :=
            NativeStore.answer_delete_of_ok (delete_of_there h p hkey)
          refine ⟨k.without (itemOf key), ?_, h.without key⟩
          rw [BlobMap.answer, hkey]
          exact hanswer

end Strongbox.Keyring
