import Strongbox.Proofs.Disk.Missing
import Strongbox.Proofs.FileStore.Elsewhere
/-! What is where after a document was saved: the document at its own name, nothing beside it, and
everything else where it was. -/
namespace Strongbox.FileStore

variable {path : String} {disk disk' disk₁ : Disk} {bytes : ByteArray} {beside target : List String}

/-- A file was replaced. -/
structure Moved (path : String) (bytes : ByteArray) (beside target : List String) (disk disk' : Disk) :
    Prop where
  besideAt : disk.EntryAt (temporary path) beside
  targetAt : disk.EntryAt path target
  evolves : disk.Evolves disk'
  back : disk'.KeepsDirectories disk
  file : ∃ mode serial, disk'.find? target = some (.file bytes mode serial)
  free : disk'.find? beside = none
  others : ∀ {other}, other ≠ beside → other ≠ target → disk'.find? other = disk.find? other

theorem target_ne_beside (hbeside : disk.EntryAt (temporary path) beside)
    (htarget : disk.EntryAt path target) : target ≠ beside :=
  (elsewhere_temporary path disk).ne htarget hbeside

theorem moved_of_replace (hsound : disk.Sound) (h : replace path bytes disk = .ok () disk') :
    ∃ beside target, Moved path bytes beside target disk disk' := by
  have hreplaced := replace_cases hsound path bytes
  rw [h] at hreplaced
  obtain ⟨⟨⟩, disk₁, hwrite, hmove⟩ := Call.bind_eq_ok h
  have hwritten := writePrivate_cases hsound (temporary path) bytes
  rw [hwrite] at hwritten
  obtain ⟨beside, mode, serial, hbeside, hchanged, hfile⟩ := hwritten
  obtain ⟨disk₂, source, target, node, huntouched, hsource, htarget, hnode, -, -, rfl⟩ :=
    Disk.rename_eq_ok hmove
  obtain rfl := (hchanged.evolves.keeps.entryAt hbeside).unique hsource
  rw [hfile] at hnode
  cases hnode
  have htargetAt := hchanged.back.entryAt htarget
  have hne := target_ne_beside hbeside htargetAt
  have hfind := Disk.find?_move (.file bytes mode serial) hbeside.ne_nil htarget.ne_nil disk₂
  have hothers : ∀ {other}, other ≠ beside → other ≠ target →
      ((disk₂.remove beside).set target (.file bytes mode serial)).find? other = disk.find? other := by
    intro other hbeside' htarget'
    rw [hfind, if_neg htarget', if_neg hbeside', huntouched.find?, hchanged.others hbeside']
  refine ⟨beside, target, hbeside, htargetAt, hreplaced.evolves, ?_, ⟨mode, serial, ?_⟩, ?_, hothers⟩
  · refine ⟨hreplaced.evolves.keeps.here.symm, fun other hother => ?_⟩
    by_cases htarget' : other = target
    · rw [hfind, if_pos htarget'] at hother
      cases hother
    · by_cases hbeside' : other = beside
      · rw [hfind, if_neg htarget', if_pos hbeside'] at hother
        cases hother
      · rwa [← hothers hbeside' htarget']
  · rw [hfind, if_pos rfl]
  · rw [hfind, if_neg hne.symm, if_pos rfl]

namespace Moved

/-- Of two documents that replaced the same, only the file tells the disks apart. -/
theorem changedAt {bytes' : ByteArray} {beside' target' : List String} {disk'' : Disk}
    (hsound : disk.Sound) (hquiet : disk.mishaps = []) (h : Moved path bytes beside target disk disk')
    (h' : Moved path bytes' beside' target' disk disk'') : Disk.ChangedAt target disk' disk'' := by
  obtain rfl := h.besideAt.unique h'.besideAt
  obtain rfl := h.targetAt.unique h'.targetAt
  obtain ⟨mode, serial, hfile⟩ := h.file
  obtain ⟨mode', serial', hfile'⟩ := h'.file
  have hmishaps := h'.evolves.mishaps
  rw [hquiet, List.suffix_nil] at hmishaps
  refine ⟨⟨h.back.trans h'.evolves.keeps, fun _ => h'.evolves.sound hsound, ?_⟩, ?_, ?_, ?_⟩
  · rw [hmishaps]
    exact List.nil_suffix
  · intro other hother
    by_cases hbeside : other = beside
    · rw [hbeside, h.free, h'.free]
    · rw [h.others hbeside hother, h'.others hbeside hother]
  · simp [hfile]
  · simp [hfile']

/-- Where nothing was beside the file, nothing changes but the file. -/
theorem changedAt_of_free (h : Moved path bytes beside target disk disk')
    (hfree : disk.find? beside = none) (htarget : disk.find? target ≠ some .directory) :
    Disk.ChangedAt target disk disk' := by
  obtain ⟨mode, serial, hfile⟩ := h.file
  refine ⟨h.evolves, ?_, htarget, by simp [hfile]⟩
  intro other hother
  by_cases hbeside : other = beside
  · rw [hbeside, h.free, hfree]
  · exact h.others hbeside hother

end Moved

/-- Saving makes the directories and replaces the file. -/
theorem save_eq_ok {d : StoreDocument} (h : save path d disk = .ok () disk') :
    ∃ disk₁, prepare path disk = .ok () disk₁ ∧
      replace path d.render.toUTF8 disk₁ = .ok () disk' := by
  rw [save_eq] at h
  cases hprepare : prepare path disk with
  | error e disk₁ =>
      rw [hprepare] at h
      cases h
  | ok _ disk₁ =>
      rw [hprepare] at h
      dsimp only at h
      cases hreplace : replace path d.render.toUTF8 disk₁ with
      | error e disk₂ =>
          rw [hreplace] at h
          cases h
      | ok _ disk₂ =>
          rw [hreplace] at h
          cases h
          exact ⟨disk₁, rfl, hreplace⟩

theorem prepare_sameFiles (path : String) (disk : Disk) :
    disk.SameFiles (Call.after (prepare path disk)) := by
  unfold prepare
  cases Path.parent? path with
  | none => exact (Disk.Untouched.refl disk).sameFiles
  | some above => exact Disk.makeDirectories_sameFiles above disk

/-- Another file stays where it was while a document is saved. -/
theorem find?_of_save {d : StoreDocument} {other : String} {names : List String} {node : Node}
    (hsound : disk.Sound) (h : save path d disk = .ok () disk') (hother : Other path other disk')
    (hentry : disk.EntryAt other names) (hfile : disk.find? names = some node)
    (hnode : node ≠ .directory) : disk'.find? names = some node := by
  obtain ⟨disk₁, hprepare, hreplace⟩ := save_eq_ok h
  have hevolves := prepare_evolves path disk
  have hsame := prepare_sameFiles path disk
  rw [hprepare] at hevolves hsame
  obtain ⟨beside, target, hmoved⟩ := moved_of_replace (hevolves.sound hsound) hreplace
  have hentry' := hmoved.evolves.keeps.entryAt (hevolves.keeps.entryAt hentry)
  have hbeside := hother.beside.ne hentry' (hmoved.evolves.keeps.entryAt hmoved.besideAt)
  have htarget := hother.file.ne hentry' (hmoved.evolves.keeps.entryAt hmoved.targetAt)
  rw [hmoved.others hbeside htarget]
  exact (hsame names node hnode).2 hfile

end Strongbox.FileStore
