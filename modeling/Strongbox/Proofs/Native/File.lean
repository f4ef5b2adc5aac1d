import Strongbox.Proofs.FileStore.Saving
import Strongbox.Proofs.Native.Map
import Strongbox.Proofs.NativeKey
import Strongbox.Proofs.StoreDocument.Entries
import Strongbox.Proofs.StoreDocument.RoundTrip
import Strongbox.Proofs.Text.Bytes
/-! A store in a file serves a map on a disk that lets it save, and nothing but the document in the
file carries the map from one call to the next. -/
namespace Strongbox.FileStore

variable {path : String} {disk : Disk} {m : BlobMap}

/-- What a reader finds at the path stands for a map: nothing at all, or a document of its blobs. -/
def Stored (m : BlobMap) (content : Except IoError ByteArray) : Prop :=
  (content = .error .notFound ∧ m = .empty) ∨
    ∃ d : StoreDocument, content = .ok d.render.toUTF8 ∧
      d.version ≤ StoreDocument.currentVersion ∧ ∀ key, d.get? key.service key.key = m key

theorem load_of_missing (h : disk.mishaps = []) (hmissing : disk.contentAt path = .error .notFound) :
    load path disk = .ok .empty disk := by
  have hread : Disk.readText path disk = .error .notFound disk := by
    simp only [Disk.readText, bind, EStateM.bind, Disk.readBytes_of_quiet h, hmissing]
  rw [load, hread]

theorem load_of_document {d : StoreDocument} (h : disk.mishaps = [])
    (hcontent : disk.contentAt path = .ok d.render.toUTF8)
    (hversion : d.version ≤ StoreDocument.currentVersion) : load path disk = .ok d disk := by
  have hread : Disk.readText path disk = .ok d.render disk := by
    simp only [Disk.readText, bind, EStateM.bind, Disk.readBytes_of_quiet h, hcontent,
      Text.fromUTF8?_toUTF8]
    rfl
  have hdocument : documentOf path d.render = .ok d := by
    rw [documentOf, StoreDocument.read?_render hversion]
    exact if_neg (Nat.not_lt.2 hversion)
  rw [load, hread]
  dsimp only
  rw [hdocument]

theorem load_of_stored (h : disk.mishaps = []) (hstored : Stored m (disk.contentAt path)) :
    ∃ d, load path disk = .ok d disk ∧ d.version ≤ StoreDocument.currentVersion ∧
      ∀ key : NativeKey, d.get? key.service key.key = m key := by
  rcases hstored with ⟨hmissing, rfl⟩ | ⟨d, hcontent, hversion, hget⟩
  · exact ⟨.empty, load_of_missing h hmissing, Nat.le_refl _,
      fun key => StoreDocument.get?_empty key.service key.key⟩
  · exact ⟨d, load_of_document h hcontent hversion, hversion, hget⟩

/-- A disk that lets the store save, with the document of a map in the file. -/
structure Shows (path : String) (disk : Disk) (m : BlobMap) : Prop where
  saves : Saves path disk
  stored : Stored m (disk.contentAt path)

theorem Shows.save (h : Shows path disk m) {d : StoreDocument} {m' : BlobMap}
    (hversion : d.version ≤ StoreDocument.currentVersion)
    (hget : ∀ key : NativeKey, d.get? key.service key.key = m' key) :
    ∃ disk', save path d disk = .ok () disk' ∧ Shows path disk' m' := by
  obtain ⟨disk', hsave, hsaves, hbytes⟩ := h.saves.save d
  exact ⟨disk', hsave, hsaves, .inr ⟨d, Disk.contentAt_of_bytesAt? hbytes, hversion, hget⟩⟩

theorem get?_insert_key (d : StoreDocument) (key j : NativeKey) (blob : String) :
    (d.insert key.service key.key blob).get? j.service j.key =
      if j = key then some blob else d.get? j.service j.key := by
  rw [StoreDocument.get?_insert, if_congr (NativeKey.service_key_iff j key) rfl rfl]

theorem get?_erase_key (d : StoreDocument) (key j : NativeKey) :
    (d.erase key.service key.key).get? j.service j.key =
      if j = key then none else d.get? j.service j.key := by
  rw [StoreDocument.get?_erase, if_congr (NativeKey.service_key_iff j key) rfl rfl]

/-- Whatever document is saved, the disk that is left is one for the map of its blobs. -/
def SavesAs (K : BlobMap → Disk → Prop) (path : String) (disk : Disk) : Prop :=
  ∀ {d : StoreDocument} {m' : BlobMap}, d.version ≤ StoreDocument.currentVersion →
    (∀ key : NativeKey, d.get? key.service key.key = m' key) →
      ∃ disk', save path d disk = .ok () disk' ∧ K m' disk'

section

variable {K : BlobMap → Disk → Prop}

theorem put_of_saves (hsave : SavesAs K path disk) (hquiet : disk.mishaps = [])
    (hstored : Stored m (disk.contentAt path)) (key : NativeKey) (blob : String) :
    ∃ disk', put path key blob disk = .ok () disk' ∧ K (Function.update m key (some blob)) disk' := by
  obtain ⟨d, hload, -, hget⟩ := load_of_stored hquiet hstored
  let current : StoreDocument := { d with version := StoreDocument.currentVersion }
  have hcurrent : ∀ j : NativeKey, (current.insert key.service key.key blob).get? j.service j.key =
      Function.update m key (some blob) j := by
    intro j
    rw [get?_insert_key, Function.update_apply, ← hget j]
    rfl
  obtain ⟨disk', hsaved, hleft⟩ := hsave (Nat.le_refl _) hcurrent
  refine ⟨disk', ?_, hleft⟩
  rw [put, Call.bind_of_ok hload]
  exact hsaved

/-- A delete that finds nothing writes nothing, and the map is the same without the key. -/
theorem delete_of_saves (hsave : SavesAs K path disk) (hquiet : disk.mishaps = [])
    (hstored : Stored m (disk.contentAt path)) (key : NativeKey) :
    ∃ disk', delete path key disk = .ok (m key).isSome disk' ∧
      ((disk' = disk ∧ Function.update m key none = m) ∨ K (Function.update m key none) disk') := by
  obtain ⟨d, hload, hversion, hget⟩ := load_of_stored hquiet hstored
  cases hkey : m key with
  | none =>
      refine ⟨disk, ?_, .inl ⟨rfl, ?_⟩⟩
      · rw [delete, Call.bind_of_ok hload]
        simp only [hget, hkey, Option.isSome_none, Bool.false_eq_true, if_false]
        rfl
      · rw [← hkey, Function.update_eq_self]
  | some blob =>
      have herased : ∀ j : NativeKey, (d.erase key.service key.key).get? j.service j.key =
          Function.update m key none j := by
        intro j
        rw [get?_erase_key, Function.update_apply, ← hget j]
      obtain ⟨disk', hsaved, hleft⟩ :=
        hsave (by rw [StoreDocument.version_erase]; exact hversion) herased
      refine ⟨disk', ?_, .inr hleft⟩
      rw [delete, Call.bind_of_ok hload]
      simp only [hget, hkey, Option.isSome_some, if_true]
      rw [Call.bind_of_ok hsaved]
      rfl

theorem get_of_stored (hquiet : disk.mishaps = []) (hstored : Stored m (disk.contentAt path))
    (key : NativeKey) : get path key disk = .ok (m key) disk := by
  obtain ⟨d, hload, -, hget⟩ := load_of_stored hquiet hstored
  rw [get, Call.bind_of_ok hload, hget]
  rfl

end

theorem Shows.savesAs (h : Shows path disk m) : SavesAs (fun m disk => Shows path disk m) path disk :=
  fun hversion hget => h.save hversion hget

theorem put_of_shows (h : Shows path disk m) (key : NativeKey) (blob : String) :
    ∃ disk', put path key blob disk = .ok () disk' ∧
      Shows path disk' (Function.update m key (some blob)) :=
  put_of_saves h.savesAs h.saves.1 h.stored key blob

theorem get_of_shows (h : Shows path disk m) (key : NativeKey) :
    get path key disk = .ok (m key) disk :=
  get_of_stored h.saves.1 h.stored key

theorem delete_of_shows (h : Shows path disk m) (key : NativeKey) :
    ∃ disk', delete path key disk = .ok (m key).isSome disk' ∧
      Shows path disk' (Function.update m key none) := by
  obtain ⟨disk', hdelete, ⟨rfl, hsame⟩ | hshows⟩ := delete_of_saves h.savesAs h.saves.1 h.stored key
  · exact ⟨_, hdelete, hsame.symm ▸ h⟩
  · exact ⟨_, hdelete, hshows⟩

theorem serves (path : String) : (native path).Serves (Shows path) := by
  constructor
  intro disk m h call
  cases call with
  | put key blob =>
      obtain ⟨disk', hput, hshows⟩ := put_of_shows h key blob
      exact ⟨disk', NativeStore.answer_put_of_ok hput, hshows⟩
  | get key => exact ⟨disk, NativeStore.answer_get_of_ok (get_of_shows h key), h⟩
  | delete key =>
      obtain ⟨disk', hdelete, hshows⟩ := delete_of_shows h key
      exact ⟨disk', NativeStore.answer_delete_of_ok hdelete, hshows⟩

/-- What may happen to a disk while no instance of the store is open: the file stays as it is, and
can still be replaced. -/
def Spares (path : String) (change : Disk → Disk) : Prop :=
  ∀ disk, Saves path disk → Saves path (change disk) ∧
    (change disk).contentAt path = disk.contentAt path

theorem spares_id : Spares path id := fun _ h => ⟨h, rfl⟩

theorem Shows.spared (h : Shows path disk m) {change : Disk → Disk} (hspares : Spares path change) :
    Shows path (change disk) m := by
  obtain ⟨hsaves, hcontent⟩ := hspares disk h.saves
  exact ⟨hsaves, hcontent ▸ h.stored⟩

theorem shows_of_missing (h : Saves path disk) (hmissing : disk.status path = .error .notFound) :
    Shows path disk .empty := by
  refine ⟨h, .inl ⟨?_, rfl⟩⟩
  rw [Disk.contentAt, hmissing]

end Strongbox.FileStore
