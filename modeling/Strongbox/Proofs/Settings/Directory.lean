import Strongbox.Proofs.Disk.Calls
import Strongbox.Proofs.Disk.Growth
import Strongbox.Proofs.Settings.Document
import Strongbox.Settings.Directory
/-! What saving settings leaves behind. Saving that succeeds leaves a file that is loaded as what was
saved; saving that fails by what is there leaves every file as it was. -/
namespace Strongbox

namespace Disk

variable {d d' : Disk} {path : String}

theorem contentAt_of_file {names : List String} {bytes : ByteArray} {mode serial : Nat}
    (hentry : d.EntryAt path names) (hfile : d.find? names = some (.file bytes mode serial)) :
    d.contentAt path = .ok bytes :=
  contentAt_of_bytesAt? (hentry.bytesAt? hfile)

/-- What goes into a file that has just been emptied is all that it holds. -/
theorem contentAt_extend {names : List String} {mode serial : Nat} (bytes : ByteArray)
    (hentry : d.EntryAt path names) (hfile : d.find? names = some (.file .empty mode serial)) :
    (extend (.file serial) bytes d).contentAt path = .ok bytes := by
  have hthere : (extend (.file serial) bytes d).find? names = some (.file bytes mode serial) := by
    rw [find?_extend, hfile]
    simp [extended]
  exact contentAt_of_file ((extend_keeps serial bytes d).1.entryAt hentry) hthere

/-- What is written in place is found at the path, unless a device takes it. -/
theorem writeFile_eq_ok {bytes : ByteArray} (h : writeFile path bytes d = .ok () d') :
    d'.nodeAt? path = some .void ∨ d'.contentAt path = .ok bytes := by
  obtain ⟨handle, d₁, hopen, happend⟩ := Call.bind_eq_ok h
  have hleft : ∃ d₂, d₁.Untouched d₂ ∧ d' = extend handle bytes d₂ := by
    obtain ⟨d₂, huntouched, hcall | ⟨e, part, hcall⟩⟩ := append_cases handle bytes d₁
    · cases hcall.symm.trans happend
      exact ⟨d₂, huntouched, rfl⟩
    · cases hcall.symm.trans happend
  obtain ⟨d₂, huntouched₂, rfl⟩ := hleft
  obtain ⟨d₀, names, huntouched, hentry, hnode⟩ := openEmpty_eq_ok hopen
  rcases hnode with ⟨hvoid, rfl, rfl⟩ | ⟨old, mode, serial, hfile, rfl, rfl⟩ | ⟨hfree, rfl, rfl⟩
  · left
    have huntouched' := huntouched.trans huntouched₂
    exact (huntouched'.nodeAt? path).trans (hentry.nodeAt?.trans hvoid)
  · right
    have hthere := (find?_set hentry.ne_nil d₀ (.file .empty mode serial) names).trans (if_pos rfl)
    have hkeeps : d.KeepsDirectories (d₀.set names (.file .empty mode serial)) :=
      huntouched.keeps.trans
        (set_keeps _ hentry.ne_nil (by rw [huntouched.find?, hfile]; simp))
    exact contentAt_extend bytes (huntouched₂.keeps.entryAt (hkeeps.entryAt hentry))
      ((huntouched₂.find? names).trans hthere)
  · right
    have hthere := (find?_set hentry.ne_nil d₀ (.file .empty 0o644 d.serial) names).trans (if_pos rfl)
    have hkeeps := huntouched.keeps.trans
      (set_keeps (.file .empty 0o644 d.serial) hentry.ne_nil (by rw [huntouched.find?, hfree]; simp))
    have hentry₂ : d₂.EntryAt path names := by
      refine huntouched₂.keeps.entryAt (KeepsDirectories.entryAt ?_ hentry)
      exact ⟨hkeeps.here, hkeeps.directories⟩
    exact contentAt_extend bytes hentry₂ ((huntouched₂.find? names).trans hthere)

/-- What is written in place changes one name, to a file with just these bytes unless a device takes them. -/
theorem writeFile_leaves {bytes : ByteArray} (hsound : d.Sound) (h : writeFile path bytes d = .ok () d') :
    ∃ names node, d.EntryAt path names ∧ d.Evolves d' ∧
      (∀ other, other ≠ names → d'.find? other = d.find? other) ∧ d'.find? names = some node ∧
      (node = .void ∨ ∃ mode serial, node = .file bytes mode serial) := by
  obtain ⟨handle, d₁, hopen, happend⟩ := Call.bind_eq_ok h
  obtain ⟨d₂, huntouched, hcall | ⟨e, part, hcall⟩⟩ := append_cases handle bytes d₁
  · cases hcall.symm.trans happend
    rcases openEmpty_cases hsound hopen with ⟨rfl, hsame⟩ | ⟨names, mode, serial, rfl, hentry, hchanged, hfile⟩
    · obtain ⟨d₀, names, -, hentry, ⟨hvoid, -, -⟩ | ⟨_, _, _, -, hhandle, -⟩ | ⟨-, hhandle, -⟩⟩ :=
        openEmpty_eq_ok hopen
      · have huntouched' := hsame.trans huntouched
        exact ⟨names, .void, hentry, huntouched'.evolves, fun other _ => huntouched'.find? other,
          (huntouched'.find? names).trans hvoid, .inl rfl⟩
      · cases hhandle
      · cases hhandle
    · have hchanged₂ := hchanged.untouched huntouched
      obtain ⟨hextended, hthere⟩ := (hchanged₂.evolves.sound hsound).changedAt_extend
        ((huntouched.find? names).trans hfile) bytes
      rw [ByteArray.empty_append] at hthere
      have hall := hchanged₂.trans hextended
      exact ⟨names, _, hentry, hall.evolves, fun other hother => hall.others hother, hthere,
        .inr ⟨mode, serial, rfl⟩⟩
  · cases hcall.symm.trans happend

/-- If nothing strikes it, writing in place fails before anything is written. -/
theorem writeFile_eq_error {bytes : ByteArray} {e : IoError} (hquiet : d.mishaps = [])
    (h : writeFile path bytes d = .error e d') : d.Untouched d' := by
  cases hopen : openEmpty path 0o644 d with
  | error e' d₁ =>
      rw [writeFile, Call.bind_of_error hopen] at h
      cases h
      exact openEmpty_eq_error hopen
  | ok handle d₁ =>
      have hquiet₁ : d₁.mishaps = [] := by
        obtain ⟨d₀, names, huntouched, -, ⟨-, -, rfl⟩ | ⟨_, _, _, -, -, rfl⟩ | ⟨-, -, rfl⟩⟩ :=
          openEmpty_eq_ok hopen <;>
        exact List.suffix_nil.1 (hquiet ▸ huntouched.mishaps)
      rw [writeFile, Call.bind_of_ok hopen, append_of_quiet hquiet₁] at h
      cases h

end Disk

namespace SettingsDirectory

open Log

variable {d : SettingsDirectory} {s : Settings} {disk disk' : Disk}

theorem settingsOf_render (d : SettingsDirectory) (h : s.validate = .ok ()) :
    d.settingsOf s.render = .ok s := by
  unfold settingsOf
  rw [Settings.read?_render]
  dsimp only
  rw [h]

theorem validate_of_settingsOf {text : String} (h : d.settingsOf text = .ok s) :
    s.validate = .ok () := by
  unfold settingsOf at h
  split at h
  · cases h
  · split at h
    · cases h
      assumption
    · cases h

theorem validate_standard : Settings.standard.validate = .ok () := by
  decide

theorem validate_of_load (h : (d.load disk).1.value = .ok s) : s.validate = .ok () := by
  unfold load at h
  split at h
  · cases h
    exact validate_standard
  · cases h
  · exact validate_of_settingsOf h

theorem load_of_text {text : String} (h : Disk.readText d.file disk = .ok text disk') :
    d.load disk = (⟨d.settingsOf text, []⟩, disk') := by
  unfold load
  rw [h]

theorem load_of_error {e : IoError} (h : Disk.readText d.file disk = .error e disk')
    (hne : e ≠ .notFound) : d.load disk = (⟨.error (.io e.message), []⟩, disk') := by
  unfold load
  rw [h]
  split
  · rename_i heq
    cases heq
    exact absurd rfl hne
  · rename_i heq
    cases heq
    rfl
  · rename_i heq
    cases heq

/-- The written form of valid settings is loaded, whatever disk it is on. -/
theorem load_of_contentAt (hvalid : s.validate = .ok ())
    (h : disk.contentAt d.file = .ok s.render.toUTF8) :
    (d.load disk).1.value = .ok s ∨ disk.LastStruck (d.load disk).2 := by
  have hread := Disk.readText_cases d.file disk
  cases hcall : Disk.readText d.file disk with
  | ok text disk' =>
      rw [hcall] at hread
      have hbytes := Except.ok.inj (hread.2.symm.trans h)
      have htext : text = s.render := by
        have hback := Text.fromUTF8?_toUTF8 text
        rw [hbytes, Text.fromUTF8?_toUTF8] at hback
        exact (Option.some.inj hback).symm
      left
      rw [load_of_text hcall]
      dsimp only
      rw [htext, d.settingsOf_render hvalid]
  | error e disk' =>
      rw [hcall] at hread
      obtain ⟨-, hnone | ⟨hne, hstruck | ⟨bytes, hcontent, hnone⟩⟩⟩ := hread
      · rw [hnone] at h
        cases h
      · right
        rwa [load_of_error hcall hne]
      · rw [Except.ok.inj (hcontent.symm.trans h), Text.fromUTF8?_toUTF8] at hnone
        cases hnone

/-- Saving that succeeds has found the settings valid, made the directory and written the file. -/
theorem save_eq_ok {events : List Event} (h : d.save s disk = (⟨.ok (), events⟩, disk')) :
    s.validate = .ok () ∧ ∃ disk₁, Disk.makeDirectories d.path disk = .ok () disk₁ ∧
      Disk.writeFile d.file s.render.toUTF8 disk₁ = .ok () disk' := by
  unfold save at h
  split at h
  · cases h
  · split at h
    · cases h
    · split at h
      · cases h
      · cases h
        exact ⟨‹_›, _, ‹_›, ‹_›⟩

/-- Saving fails by the settings, by the directory or by the file, and reports nothing. -/
theorem save_eq_error {e : SettingsError} {events : List Event}
    (h : d.save s disk = (⟨.error e, events⟩, disk')) : events = [] ∧
    ((s.validate = .error e ∧ disk' = disk) ∨
    (∃ e', e = writeFailure d.path e' ∧ Disk.makeDirectories d.path disk = .error e' disk') ∨
    ∃ e' disk₁, e = writeFailure d.file e' ∧ Disk.makeDirectories d.path disk = .ok () disk₁ ∧
      Disk.writeFile d.file s.render.toUTF8 disk₁ = .error e' disk') := by
  unfold save at h
  split at h
  · cases h
    exact ⟨rfl, .inl ⟨‹_›, rfl⟩⟩
  · split at h
    · cases h
      exact ⟨rfl, .inr (.inl ⟨_, rfl, ‹_›⟩)⟩
    · split at h
      · cases h
        exact ⟨rfl, .inr (.inr ⟨_, _, rfl, ‹_›, ‹_›⟩)⟩
      · cases h

/-- Saving that fails by anything but writing has touched nothing. -/
theorem unchanged_of_refused {e : SettingsError} {events : List Event}
    (h : d.save s disk = (⟨.error e, events⟩, disk')) (he : ∀ reason, e ≠ .write reason) : disk' = disk := by
  rcases (save_eq_error h).2 with ⟨-, hsame⟩ | ⟨e', rfl, -⟩ | ⟨e', disk₁, rfl, -, -⟩
  · exact hsame
  · exact absurd rfl (he _)
  · exact absurd rfl (he _)

theorem sameFiles_of_error {e : SettingsError} {events : List Event}
    (h : d.save s disk = (⟨.error e, events⟩, disk')) (hquiet : disk.mishaps = []) :
    disk.SameFiles disk' := by
  have hdirs := Disk.makeDirectories_sameFiles d.path disk
  have hevolves := Disk.makeDirectories_evolves d.path disk
  rcases (save_eq_error h).2 with ⟨-, rfl⟩ | ⟨e', -, hmake⟩ | ⟨e', disk₁, -, hmake, hwrite⟩
  · exact (Disk.Untouched.refl disk').sameFiles
  · rwa [hmake] at hdirs
  · rw [hmake] at hdirs hevolves
    have hquiet₁ : disk₁.mishaps = [] := List.suffix_nil.1 (hquiet ▸ hevolves.mishaps)
    exact hdirs.trans (Disk.writeFile_eq_error hquiet₁ hwrite).sameFiles

end SettingsDirectory
end Strongbox
