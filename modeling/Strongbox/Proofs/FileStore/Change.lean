import Strongbox.Proofs.Native.File
/-! What a call that changes the store does between its reading and its writing. -/
namespace Strongbox.FileStore

/-- A change that callers ask for. -/
inductive Change where
  | put (key : NativeKey) (blob : String)
  | delete (key : NativeKey)

namespace Change

def key : Change → NativeKey
  | put key _ => key
  | delete key => key

/-- The call as it is made when nothing else runs. -/
def call (path : String) : Change → StoreCall Disk Unit
  | put key blob => FileStore.put path key blob
  | delete key => do let _ ← FileStore.delete path key

/-- What is written in place of the document that was read, if anything is. -/
def rewrite : Change → StoreDocument → Option StoreDocument
  | put key blob, d => some (({ d with version := StoreDocument.currentVersion } :
      StoreDocument).insert key.service key.key blob)
  | delete key, d =>
    if (d.get? key.service key.key).isSome then some (d.erase key.service key.key) else none

/-- The change shows in a document. -/
def Kept : Change → StoreDocument → Prop
  | put key blob, d => d.get? key.service key.key = some blob
  | delete key, d => d.get? key.service key.key = none

/-- A call is a read of the document and a replacement. -/
theorem call_eq (path : String) (c : Change) : c.call path = (do
    let d ← load path
    match c.rewrite d with
    | some d' => save path d'
    | none => pure ()) := by
  funext disk
  cases c with
  | put key blob => rfl
  | delete key =>
      simp only [call, FileStore.delete, rewrite, bind, EStateM.bind]
      cases load path disk with
      | error e disk₁ => rfl
      | ok d disk₁ =>
          dsimp only
          by_cases hentry : (d.get? key.service key.key).isSome = true
          · simp only [hentry, if_true, EStateM.bind]
            cases save path (d.erase key.service key.key) disk₁ <;> rfl
          · simp only [if_neg hentry]
            rfl

variable {c c' : Change} {d d' : StoreDocument}

theorem erased_of_rewrite {key : NativeKey} (h : (delete key).rewrite d = some d') :
    d' = d.erase key.service key.key := by
  simp only [rewrite] at h
  split at h
  · cases h
    rfl
  · cases h

theorem kept_of_rewrite (h : c.rewrite d = some d') : c.Kept d' := by
  cases c with
  | put key blob =>
      cases h
      exact (get?_insert_key _ key key blob).trans (if_pos rfl)
  | delete key =>
      obtain rfl := erased_of_rewrite h
      exact (get?_erase_key _ key key).trans (if_pos rfl)

/-- Only deletes of what is not there write nothing. -/
theorem kept_of_rewrite_none (h : c.rewrite d = none) : c.Kept d := by
  cases c with
  | put key blob => cases h
  | delete key =>
      simp only [rewrite] at h
      split at h
      · cases h
      · exact Option.not_isSome_iff_eq_none.1 ‹_›

/-- A change leaves the entries of other keys. -/
theorem get?_of_rewrite {key : NativeKey} (hkey : key ≠ c.key) (h : c.rewrite d = some d') :
    d'.get? key.service key.key = d.get? key.service key.key := by
  cases c with
  | put key' blob =>
      cases h
      exact (get?_insert_key _ key' key blob).trans (if_neg hkey)
  | delete key' =>
      obtain rfl := erased_of_rewrite h
      exact (get?_erase_key d key' key).trans (if_neg hkey)

theorem Kept.of_rewrite (hkept : c'.Kept d) (hkey : c'.key ≠ c.key) (h : c.rewrite d = some d') :
    c'.Kept d' := by
  have hother := get?_of_rewrite hkey h
  cases c' with
  | put key blob => exact hother.trans hkept
  | delete key => exact hother.trans hkept

theorem version_of_rewrite (hversion : d.version ≤ StoreDocument.currentVersion)
    (h : c.rewrite d = some d') : d'.version ≤ StoreDocument.currentVersion := by
  cases c with
  | put key blob =>
      cases h
      exact Nat.le_refl _
  | delete key =>
      obtain rfl := erased_of_rewrite h
      rwa [StoreDocument.version_erase]

end Change

end Strongbox.FileStore
