import Strongbox.Proofs.FileStore.Atomicity
import Strongbox.Proofs.FileStore.Frame
/-! Who may read the store file after a write. The document is moved into place together with the
permission bits of the file that it was written to, and only a new file gets them from the store. -/
namespace Strongbox

namespace Disk

variable {d : Disk} {path : String} {names : List String}

theorem EntryAt.modeAt?_file (h : d.EntryAt path names) {bytes : ByteArray} {mode serial : Nat}
    (hfile : d.find? names = some (.file bytes mode serial)) : d.modeAt? path = some mode := by
  rw [modeAt?, h.status hfile]

theorem EntryAt.modeAt?_missing (h : d.EntryAt path names) (hfree : d.find? names = none) :
    d.modeAt? path = none := by
  rw [modeAt?, h.status_missing hfree]

theorem modeAt?_of_nodeAt? {d' : Disk} {path' : String} (h : d'.nodeAt? path' = d.nodeAt? path) :
    d'.modeAt? path' = d.modeAt? path := by
  unfold nodeAt? at h
  unfold modeAt?
  cases hstatus : d.status path with
  | error e =>
      cases hstatus' : d'.status path' with
      | error e' => rfl
      | ok found =>
          rw [hstatus, hstatus'] at h
          cases h
  | ok found =>
      obtain ⟨names, node⟩ := found
      cases hstatus' : d'.status path' with
      | error e' =>
          rw [hstatus, hstatus'] at h
          cases h
      | ok found' =>
          obtain ⟨names', node'⟩ := found'
          rw [hstatus, hstatus'] at h
          cases h
          cases node <;> rfl

end Disk

namespace FileStore

variable {path : String} {disk disk' : Disk} {bytes : ByteArray}

/-- Permission bits for the owner and no one else. -/
def ownerOnly : Nat := 0o600

/-- Mode of what is written at a path: a file that is there keeps its own. -/
def modeOfWrite (path : String) (disk : Disk) : Nat := (disk.modeAt? path).getD ownerOnly

theorem modeOfWrite_eq_iff : modeOfWrite path disk = ownerOnly ↔
    ∀ mode, disk.modeAt? path = some mode → mode = ownerOnly := by
  unfold modeOfWrite
  cases disk.modeAt? path <;> simp

/-- Opening empties a file that is there and leaves its mode alone. -/
theorem file_of_openEmpty {handle : Handle} (h : Disk.openEmpty path ownerOnly disk = .ok handle disk') :
    (handle = .void ∧ disk.Untouched disk') ∨ ∃ names serial, handle = .file serial ∧
      disk.EntryAt path names ∧ disk.KeepsDirectories disk' ∧
      disk'.find? names = some (.file .empty (modeOfWrite path disk) serial) := by
  obtain ⟨disk₀, names, huntouched, hentry, ⟨-, rfl, rfl⟩ | ⟨old, mode, serial, hfile, rfl, rfl⟩ |
    ⟨hfree, rfl, rfl⟩⟩ := Disk.openEmpty_eq_ok h
  · exact .inl ⟨rfl, huntouched⟩
  · have hmode : modeOfWrite path disk = mode := by
      rw [modeOfWrite, hentry.modeAt?_file hfile, Option.getD_some]
    have hthere : disk₀.find? names ≠ some .directory := by simp [huntouched.find?, hfile]
    refine .inr ⟨names, serial, rfl, hentry, ?_, ?_⟩
    · exact huntouched.keeps.trans (Disk.set_keeps _ hentry.ne_nil hthere)
    · rw [hmode, Disk.find?_set hentry.ne_nil, if_pos rfl]
  · have hmode : modeOfWrite path disk = ownerOnly := by
      rw [modeOfWrite, hentry.modeAt?_missing hfree, Option.getD_none]
    have hthere : disk₀.find? names ≠ some .directory := by simp [huntouched.find?, hfree]
    have hkeeps := Disk.set_keeps (.file .empty ownerOnly disk.serial) hentry.ne_nil hthere
    refine .inr ⟨names, disk.serial, rfl, hentry, ?_, ?_⟩
    · exact huntouched.keeps.trans ⟨hkeeps.here, hkeeps.directories⟩
    · rw [hmode]
      exact (Disk.find?_set hentry.ne_nil _ _ _).trans (if_pos rfl)

theorem file_of_writePrivate (h : writePrivate path bytes disk = .ok () disk') :
    ∃ names serial, disk.EntryAt path names ∧ disk.KeepsDirectories disk' ∧
      disk'.find? names = some (.file bytes (modeOfWrite path disk) serial) := by
  obtain ⟨handle, disk₁, hopen, hwrite⟩ := Call.bind_eq_ok h
  obtain ⟨⟨⟩, disk₂, happend, hsync⟩ := Call.bind_eq_ok hwrite
  obtain ⟨disk₃, huntouched, happend' | ⟨e, part, happend'⟩⟩ := Disk.append_cases handle bytes disk₁
  · rw [happend'] at happend
    cases happend
    rcases file_of_openEmpty hopen with ⟨rfl, -⟩ | ⟨names, serial, rfl, hentry, hkeeps, hempty⟩
    · -- A device takes what is written, but it is not known to be there.
      obtain ⟨e, disk₄, -, hvoid⟩ := Disk.sync_void (Disk.extend .void bytes disk₃)
      rw [hvoid] at hsync
      cases hsync
    · have hextended : (Disk.extend (.file serial) bytes disk₃).find? names =
          some (.file bytes (modeOfWrite path disk) serial) := by
        rw [Disk.find?_extend, huntouched.find?, hempty]
        simp only [Option.map_some, Disk.extended, if_true, ByteArray.empty_append]
      obtain ⟨disk₄, huntouched', hsync' | ⟨e, hsync'⟩⟩ :=
        Disk.sync_file_cases serial (Disk.extend (.file serial) bytes disk₃)
      · rw [hsync'] at hsync
        cases hsync
        refine ⟨names, serial, hentry, ?_, (huntouched'.find? names).trans hextended⟩
        exact ((hkeeps.trans huntouched.keeps).trans (Disk.extend_keeps serial bytes disk₃).1).trans
          huntouched'.keeps
      · rw [hsync'] at hsync
        cases hsync
  · rw [happend'] at happend
    cases happend

/-- What was moved into place has the mode of the file beside it. -/
theorem modeAt?_of_replace (h : replace path bytes disk = .ok () disk') :
    disk'.modeAt? path = some (modeOfWrite (temporary path) disk) := by
  obtain ⟨⟨⟩, disk₁, hwrite, hmove⟩ := Call.bind_eq_ok h
  obtain ⟨names, serial, hentry, hkeeps, hfile⟩ := file_of_writePrivate hwrite
  obtain ⟨disk₂, source, target, node, huntouched, hsource, htarget, hnode, hnodir, hthere, rfl⟩ :=
    Disk.rename_eq_ok hmove
  obtain rfl := (hkeeps.entryAt hentry).unique hsource
  rw [hfile] at hnode
  cases hnode
  have hmoved := huntouched.keeps.trans (Disk.move_keeps
    (.file bytes (modeOfWrite (temporary path) disk) serial) hsource.ne_nil htarget.ne_nil
    (by simp [huntouched.find?, hfile]) (by rwa [huntouched.find?]))
  have hinplace : ((disk₂.remove names).set target
      (.file bytes (modeOfWrite (temporary path) disk) serial)).find? target =
        some (.file bytes (modeOfWrite (temporary path) disk) serial) := by
    rw [Disk.find?_set htarget.ne_nil, if_pos rfl]
  exact (hmoved.entryAt htarget).modeAt?_file hinplace

/-! ### Whole calls -/

/-- The disk that a document is written to, once the old one was read and the directories were made. -/
def furnished (path : String) (disk : Disk) : Disk :=
  Call.after (prepare path (Call.after (load path disk)))

/-- A call by which the store file was written. -/
inductive Wrote (path : String) (disk disk' : Disk) : Prop
  | put (key : NativeKey) (blob : String) (h : FileStore.put path key blob disk = .ok () disk')
  | delete (key : NativeKey) (h : FileStore.delete path key disk = .ok true disk')

theorem Wrote.replaced (h : Wrote path disk disk') :
    ∃ bytes, replace path bytes (furnished path disk) = .ok () disk' := by
  have hsaved : ∀ {d d' : StoreDocument} {disk₁ : Disk}, load path disk = .ok d disk₁ →
      save path d' disk₁ = .ok () disk' →
      ∃ bytes, replace path bytes (furnished path disk) = .ok () disk' := by
    intro d d' disk₁ hload hsave
    obtain ⟨disk₂, hprepare, hreplace⟩ := save_eq_ok hsave
    refine ⟨d'.render.toUTF8, ?_⟩
    rw [furnished, hload, Call.after_ok, hprepare, Call.after_ok]
    exact hreplace
  cases h with
  | put key blob h =>
      obtain ⟨d, disk₁, hload, hsave⟩ := Call.bind_eq_ok h
      exact hsaved hload hsave
  | delete key h =>
      obtain ⟨d, disk₁, hload, hrest⟩ := Call.bind_eq_ok h
      by_cases hentry : (d.get? key.service key.key).isSome = true
      · rw [if_pos hentry] at hrest
        obtain ⟨⟨⟩, disk₂, hsave, hanswer⟩ := Call.bind_eq_ok hrest
        cases hanswer
        exact hsaved hload hsave
      · rw [if_neg hentry] at hrest
        cases hrest

theorem load_untouched (path : String) (disk : Disk) : disk.Untouched (Call.after (load path disk)) := by
  have hload := load_cases path disk
  cases hcall : load path disk with
  | ok d disk₁ =>
      rw [hcall] at hload
      exact hload.1
  | error e disk₁ =>
      rw [hcall] at hload
      exact hload.1

/-- Reading and making directories changes nothing beside the file. -/
theorem furnished_beside (hsound : disk.Sound) (hforward : Forward path disk) :
    (furnished path disk).modeAt? (temporary path) = disk.modeAt? (temporary path) := by
  have hload := load_untouched path disk
  have hbeside : (furnished path disk).nodeAt? (temporary path) =
      (Call.after (load path disk)).nodeAt? (temporary path) :=
    (prepared (hsound.untouched hload) (hforward.of_keeps hload.keeps) rfl).2.2
  exact Disk.modeAt?_of_nodeAt? (hbeside.trans (hload.nodeAt? _))

/-- A written store file is the owner's alone unless another file was left beside it, which keeps the
mode that it had. -/
theorem owner_only_iff (h : Wrote path disk disk') :
    (disk'.modeAt? path = some ownerOnly ↔
      ∀ mode, (furnished path disk).modeAt? (temporary path) = some mode → mode = ownerOnly) ∧
    (disk.Sound → Forward path disk →
      (furnished path disk).modeAt? (temporary path) = disk.modeAt? (temporary path)) := by
  obtain ⟨bytes, hreplace⟩ := h.replaced
  refine ⟨?_, furnished_beside⟩
  rw [modeAt?_of_replace hreplace, Option.some_inj, modeOfWrite_eq_iff]

/-- A store file that everyone may read, with nothing beside it. -/
def shared : Disk where
  nodes := [(["store.json"], .file "\x7b\"version\":1,\"entries\":\x7b\x7d\x7d".toUTF8 0o644 0)]
  here := []
  mishaps := []
  serial := 1

theorem sound_shared : shared.Sound := Disk.sound_of_file ..

theorem owner_only_over_shared : ∃ disk', Wrote "store.json" shared disk' ∧
    disk'.modeAt? "store.json" = some ownerOnly := by
  have hok : (match put "store.json" ⟨"app", "User", "name", by decide, by decide⟩ "blob" shared with
      | .ok _ _ => true
      | .error _ _ => false) = true := by
    decide +kernel
  have hforward : Forward "store.json" shared := forward_of_plain (by decide +kernel) shared
  split at hok
  · rename_i hput
    obtain ⟨honly, hbeside⟩ := owner_only_iff (.put _ _ hput)
    have hnone : shared.modeAt? (temporary "store.json") = none := by decide +kernel
    refine ⟨_, .put _ _ hput, honly.2 fun mode hmode => ?_⟩
    rw [hbeside sound_shared hforward, hnone] at hmode
    cases hmode
  · cases hok

/-- What is left of an earlier write, or of someone else's file, for everyone to read. -/
def littered : Disk where
  nodes := [(["store.json.tmp"], .file .empty 0o644 0)]
  here := []
  mishaps := []
  serial := 1

theorem sound_littered : littered.Sound := Disk.sound_of_file ..

/-- A file that was left beside the store file makes it readable for whoever may read that file. -/
theorem not_owner_only : ¬ ∀ path disk disk', Disk.Sound disk → Wrote path disk disk' →
    disk'.modeAt? path = some ownerOnly := by
  intro h
  have hmode : (match put "store.json" ⟨"app", "User", "name", by decide, by decide⟩ "blob" littered with
      | .ok _ disk' => disk'.modeAt? "store.json"
      | .error _ _ => none) = some 0o644 := by
    decide +kernel
  split at hmode
  · rename_i hput
    have howner := h _ _ _ sound_littered (.put _ _ hput)
    rw [hmode] at howner
    cases howner
  · cases hmode

end FileStore
end Strongbox
