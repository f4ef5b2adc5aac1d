import Strongbox.Proofs.FileStore.Atomicity
import Strongbox.Proofs.FileStore.Change
import Strongbox.Proofs.FileStore.Frame
/-! The document that a call writes, next to the one that it read: one entry is changed, and the version
is the current one if the call is a put. A delete keeps the version that it read. -/
namespace Strongbox.FileStore

variable {path : String} {disk disk' : Disk} {c : Change} {d d' : StoreDocument}

namespace Change

def isPut : Change → Bool
  | put _ _ => true
  | delete _ => false

/-- What is found under the key once the change is made. -/
def blob? : Change → Option String
  | put _ blob => some blob
  | delete _ => none

/-- The call succeeded, and it had something to write. -/
def Wrote (path : String) (disk disk' : Disk) : Change → Prop
  | put key blob => FileStore.put path key blob disk = .ok () disk'
  | delete key => FileStore.delete path key disk = .ok true disk'

theorem rebound_of_rewrite (h : c.rewrite d = some d') :
    d.Rebound d' c.key.service c.key.key c.blob? := by
  cases c with
  | put key blob =>
      cases h
      -- The version says nothing about the entries.
      obtain ⟨hbindings, htouched, hothers⟩ := StoreDocument.rebound_insert
        { d with version := StoreDocument.currentVersion } key.service key.key blob
      exact ⟨hbindings, htouched, hothers⟩
  | delete key =>
      obtain rfl := erased_of_rewrite h
      exact StoreDocument.rebound_erase d key.service key.key

theorem current_iff_of_rewrite (h : c.rewrite d = some d') :
    d'.version = StoreDocument.currentVersion ↔
      c.isPut = true ∨ d.version = StoreDocument.currentVersion := by
  cases c with
  | put key blob =>
      cases h
      exact ⟨fun _ => .inl rfl, fun _ => rfl⟩
  | delete key =>
      obtain rfl := erased_of_rewrite h
      rw [StoreDocument.version_erase]
      exact ⟨.inr, fun h => h.resolve_left Bool.false_ne_true⟩

/-- A call that wrote has read a document and saved the one that it makes of it. -/
theorem Wrote.saved (h : c.Wrote path disk disk') : ∃ d d' disk₁, load path disk = .ok d disk₁ ∧
    c.rewrite d = some d' ∧ save path d' disk₁ = .ok () disk' := by
  cases c with
  | put key blob =>
      obtain ⟨d, disk₁, hload, hsave⟩ := Call.bind_eq_ok h
      exact ⟨d, _, disk₁, hload, rfl, hsave⟩
  | delete key =>
      obtain ⟨d, disk₁, hload, hrest⟩ := Call.bind_eq_ok h
      refine ⟨d, d.erase key.service key.key, disk₁, hload, ?_⟩
      split at hrest
      · obtain ⟨⟨⟩, disk₂, hsave, hanswer⟩ := Call.bind_eq_ok hrest
        cases hanswer
        exact ⟨if_pos ‹_›, hsave⟩
      · cases hrest

end Change

/-- A document that was saved is in the file. -/
theorem bytesAt?_of_save (hsound : disk.Sound) (h : save path d disk = .ok () disk') :
    disk'.bytesAt? path = some d.render.toUTF8 := by
  obtain ⟨disk₁, hprepare, hreplace⟩ := save_eq_ok h
  have hevolves := prepare_evolves path disk
  rw [hprepare, Call.after_ok] at hevolves
  have hreplaced := replace_cases (hevolves.sound hsound) path d.render.toUTF8
  rw [hreplace] at hreplaced
  exact hreplaced.file

/-- The document `d` was read, and the one that the change makes of it is in the file. -/
theorem Change.Wrote.rewritten (hsound : disk.Sound) (h : c.Wrote path disk disk') :
    ∃ d d', c.rewrite d = some d' ∧ Holds path disk d ∧
      disk'.bytesAt? path = some d'.render.toUTF8 ∧ Holds path disk' d' := by
  obtain ⟨d, d', disk₁, hload, hrewrite, hsave⟩ := h.saved
  have hread := load_cases path disk
  rw [hload] at hread
  obtain ⟨huntouched, hbefore⟩ := hread
  have hbytes := bytesAt?_of_save (hsound.untouched huntouched) hsave
  have hversion := version_of_rewrite hbefore.version_le hrewrite
  exact ⟨d, d', hrewrite, hbefore, hbytes, holds_of_bytesAt? hversion hbytes⟩

/-- A change has put the document `d'` in the file in place of `d`. -/
structure Rewritten (path : String) (c : Change) (disk disk' : Disk) (d d' : StoreDocument) : Prop where
  before : Holds path disk d
  bytes : disk'.bytesAt? path = some d'.render.toUTF8
  after : Holds path disk' d'
  rebound : d.Rebound d' c.key.service c.key.key c.blob?
  /-- Only a delete can write another version than the current one, and only one that it has read. -/
  current : d'.version = StoreDocument.currentVersion ↔
    c.isPut = true ∨ d.version = StoreDocument.currentVersion

theorem rewritten_of_wrote (hsound : disk.Sound) (h : c.Wrote path disk disk') :
    ∃ d d', Rewritten path c disk disk' d d' := by
  obtain ⟨d, d', hrewrite, hbefore, hbytes, hafter⟩ := h.rewritten hsound
  exact ⟨d, d', hbefore, hbytes, hafter, Change.rebound_of_rewrite hrewrite,
    Change.current_iff_of_rewrite hrewrite⟩

/-- A document of an older version, with a service that has no key. -/
def older : StoreDocument where
  version := 0
  entries := .ofList [("home:Login", .ofList [("a", "x"), ("b", "y")]), ("home:Note", .empty)]

def outdated : Disk := ⟨[(["store.json"], .file older.render.toUTF8 0o644 0)], [], [], 1⟩

theorem sound_outdated : outdated.Sound := Disk.sound_of_file ..

/-- A delete on a document of an older version. -/
def removal : Change := .delete ⟨"home", "Login", "a", by decide, by decide⟩

theorem removal_wrote : ∃ disk', removal.Wrote "store.json" outdated disk' := by
  have hanswer : Call.answer? (delete "store.json" removal.key outdated) = some true := by
    decide +kernel
  exact ⟨_, Call.eq_ok_of_answer? hanswer⟩

theorem rewritten_over_outdated : ∃ disk' d d', removal.Wrote "store.json" outdated disk' ∧
    Rewritten "store.json" removal outdated disk' d d' := by
  obtain ⟨disk', hwrote⟩ := removal_wrote
  obtain ⟨d, d', hwritten⟩ := rewritten_of_wrote sound_outdated hwrote
  exact ⟨disk', d, d', hwrote, hwritten⟩

theorem holds_outdated : Holds "store.json" outdated older :=
  holds_of_bytesAt? (by decide) (by decide +kernel)

/-- Every call that writes leaves a document of the current version. -/
def WritesCurrent (path : String) (disk : Disk) : Prop :=
  ∀ c disk', Change.Wrote path disk disk' c →
    ∃ d', Holds path disk' d' ∧ d'.version = StoreDocument.currentVersion

theorem not_writesCurrent : ¬ ∀ path disk, Disk.Sound disk → WritesCurrent path disk := by
  intro h
  obtain ⟨disk', hwrote⟩ := removal_wrote
  obtain ⟨d', hafter, hversion⟩ := h _ _ sound_outdated removal disk' hwrote
  obtain ⟨d, d₁, hrewrite, hbefore, -, hafter'⟩ := hwrote.rewritten sound_outdated
  obtain rfl := hbefore.unique holds_outdated
  obtain rfl := hafter.unique hafter'
  rcases (Change.current_iff_of_rewrite hrewrite).1 hversion with hput | hcurrent
  · cases hput
  · cases hcurrent

end Strongbox.FileStore
