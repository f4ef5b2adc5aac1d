import Strongbox.Proofs.Native.File
import Strongbox.Proofs.Native.Keyring
import Strongbox.Proofs.Native.Memory
/-! Every native store that answers is the same store: a map that starts without blobs. -/
namespace Strongbox.NativeStore

/-- In memory, in a keyring and in a file, calls are answered as a map answers them. The file may
be opened anew for every call, with the disk changed in between, as long as it is spared. -/
theorem stores_agree (calls : List Call) (secure : Bool) (p : KeyringPlatform) {path : String}
    {disk : Disk} (hmissing : disk.status path = .error .notFound)
    (hsaves : FileStore.Saves path disk) :
    (MemoryStore.native secure).answers .empty calls = (BlobMap.empty.answers calls).map .ok ∧
    (Keyring.native p).answers .empty calls = (BlobMap.empty.answers calls).map .ok ∧
    (FileStore.native path).answers disk calls = (BlobMap.empty.answers calls).map .ok ∧
    ∀ steps : List ((Disk → Disk) × Call), steps.map Prod.snd = calls →
      (∀ step ∈ steps, FileStore.Spares path step.1) →
      (FileStore.native path).answersAmid disk steps = (BlobMap.empty.answers calls).map .ok := by
  have hshows := FileStore.shows_of_missing hsaves hmissing
  refine ⟨?_, ?_, ?_, ?_⟩
  · exact (MemoryStore.serves secure).answers ⟨rfl, fun _ => rfl⟩ calls
  · exact (Keyring.serves p).answers Keyring.shows_empty calls
  · exact (FileStore.serves path).answers hshows calls
  · rintro steps rfl hspares
    exact (FileStore.serves path).answersAmid hshows fun step hstep _ _ h =>
      h.spared (hspares step hstep)

theorem stores_agree_on_blank_disk :
    let key : NativeKey := ⟨"test", "Credential", "a:b", by decide, by decide⟩
    let calls := [.put key "\"", .get key, .delete key, .get key]
    let answers := [.ok .done, .ok (.found (some "\"")), .ok (.existed true), .ok (.found none)]
    let disk : Disk := ⟨[], [], [], 0⟩
    (disk.status "store.json" = .error .notFound ∧ FileStore.Saves "store.json" disk) ∧
      (MemoryStore.native true).answers .empty calls = answers ∧
      (Keyring.native .secretService).answers .empty calls = answers ∧
      (FileStore.native "store.json").answers disk calls = answers ∧
      (FileStore.native "store.json").answersAmid disk (calls.map fun call => (id, call)) =
        answers := by
  intro key calls answers disk
  have hmissing : disk.status "store.json" = .error .notFound :=
    (Disk.entryAt_of_name (by decide +kernel) (by decide +kernel) (by decide)
      (by decide +kernel)).status_missing rfl
  have hsaves := FileStore.ready_blank.saves
  -- The four answers are those of the map, computed here once for all stores.
  have hanswers : (BlobMap.empty.answers calls).map .ok = answers := by rfl
  obtain ⟨hmemory, hkeyring, hfile, hreopened⟩ :=
    stores_agree calls true .secretService hmissing hsaves
  rw [hanswers] at hmemory hkeyring hfile hreopened
  refine ⟨⟨hmissing, hsaves⟩, hmemory, hkeyring, hfile, hreopened _ rfl ?_⟩
  intro step hstep
  obtain ⟨call, -, rfl⟩ := List.mem_map.1 hstep
  exact FileStore.spares_id

end Strongbox.NativeStore
