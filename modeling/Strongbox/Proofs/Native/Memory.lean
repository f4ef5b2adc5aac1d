import Strongbox.Proofs.Association
import Strongbox.Proofs.Native.Map
import Strongbox.Native.Memory
/-! A store in memory keeps a map even while it is switched to failing, and serves it otherwise. -/
namespace Strongbox.MemoryStore

theorem lookup_bind (w : MemoryStore) (j key : NativeKey) (blob : String) :
    (w.bind key blob).lookup j = if j = key then some blob else w.lookup j :=
  Association.first?_rebind j key blob w.entries

theorem lookup_without (w : MemoryStore) (j key : NativeKey) :
    (w.without key).lookup j = if j = key then none else w.lookup j :=
  Association.first?_without j key w.entries

/-- The map that a store in memory holds, failing or not. -/
def Shows (w : MemoryStore) (m : BlobMap) : Prop := ∀ key, w.lookup key = m key

theorem Shows.bind {w : MemoryStore} {m : BlobMap} (h : w.Shows m) (key : NativeKey) (blob : String) :
    (w.bind key blob).Shows (Function.update m key (some blob)) := by
  intro j
  rw [lookup_bind, Function.update_apply, h j]

theorem Shows.without {w : MemoryStore} {m : BlobMap} (h : w.Shows m) (key : NativeKey) :
    (w.without key).Shows (Function.update m key none) := by
  intro j
  rw [lookup_without, Function.update_apply, h j]

theorem keeps (secure : Bool) : (native secure).Keeps Shows := by
  constructor
  · intro w m h key blob
    cases hf : w.failing with
    | true => simpa [native, guarded, hf] using h
    | false => simpa [native, guarded, hf] using h.bind key blob
  · intro w m h key
    cases hf : w.failing with
    | true => simpa [native, guarded, hf] using h
    | false => simpa [native, guarded, hf] using ⟨h key, h⟩
  · intro w m h key
    cases hf : w.failing with
    | true => simpa [native, guarded, hf] using h
    | false => simpa [native, guarded, hf, h key] using h.without key

theorem serves (secure : Bool) :
    (native secure).Serves fun w m => w.failing = false ∧ w.Shows m := by
  constructor
  rintro w m ⟨hf, h⟩ call
  cases call with
  | put key blob =>
      exact ⟨w.bind key blob, NativeStore.answer_put_of_ok (by simp [native, guarded, hf]), hf,
        h.bind key blob⟩
  | get key =>
      exact ⟨w, NativeStore.answer_get_of_ok (by simp [native, guarded, hf, h key]), hf, h⟩
  | delete key =>
      exact ⟨w.without key, NativeStore.answer_delete_of_ok (by simp [native, guarded, hf, h key]),
        hf, h.without key⟩

end Strongbox.MemoryStore
