import Strongbox.Proofs.FileStore.Alike
import Strongbox.Proofs.FileStore.Frame
import Strongbox.Proofs.Log.Opening
import Strongbox.Proofs.Native.File
import Strongbox.Proofs.SecretStore.Opened
import Strongbox.Proofs.Settings.Staying
import Strongbox.Provider
/-! The files of a program that keeps its secrets in a plain file: its settings, the file of its store
and the one beside it, and its log. What is written to one of them leaves what is read from another. -/
namespace Strongbox

open Log

/-- Valid settings, with the directory that they are in and the file that their secrets go to. -/
structure Workplace where
  directory : SettingsDirectory
  settings : Settings
  path : String
  valid : settings.validate = .ok ()

namespace Workplace

/-- Where a secret is kept. -/
def nativeKey (p : Workplace) (kind : SecretKind) (key : String) : NativeKey :=
  ⟨p.settings.space, kind.typeName, key, Settings.isComponent_of_validate p.valid,
    kind.isComponent_typeName⟩

theorem nativeKey_eq_iff (p : Workplace) (kind kind' : SecretKind) (key key' : String) :
    p.nativeKey kind key = p.nativeKey kind' key' ↔ kind = kind' ∧ key = key' := by
  constructor
  · intro h
    exact ⟨SecretKind.typeName_injective (congrArg NativeKey.typeName h), congrArg NativeKey.key h⟩
  · rintro ⟨rfl, rfl⟩
    rfl

/-- Where the log goes. -/
def output (p : Workplace) : Output := p.settings.logging.config.output

/-- The log is another file than those that are read. -/
structure Apart (p : Workplace) (disk : Disk) : Prop where
  store : ∀ file, p.output = .file file → FileStore.Other p.path file disk
  settings : ∀ file, p.output = .file file → disk.Elsewhere file p.directory.file

/-- A document is in the file of the store, and nothing is beside it. -/
structure Settled (p : Workplace) (disk : Disk) : Prop where
  sound : disk.Sound
  ready : FileStore.Ready p.path disk
  free : ∀ names, disk.EntryAt (FileStore.temporary p.path) names → disk.find? names = none
  document : ∃ d : StoreDocument, d.version ≤ StoreDocument.currentVersion ∧
    disk.contentAt p.path = .ok d.render.toUTF8
  loads : (p.directory.load disk).1.value = .ok p.settings
  apart : p.Apart disk

/-- Nothing was stored yet. Where something is to be stored, it can be. -/
structure Fresh (p : Workplace) (disk : Disk) : Prop where
  sound : disk.Sound
  quiet : disk.mishaps = []
  loads : (p.directory.load disk).1.value = .ok p.settings
  missing : disk.status p.path = .error .notFound
  opened : Journal.IsThere p.output disk
  first : ∃ disk', FileStore.save p.path .empty disk = .ok () disk' ∧ p.Settled disk'

variable {p : Workplace} {disk disk' : Disk} {names : List String} {file : String}

theorem not_standard (h : p.output = .file file) : p.settings ≠ .standard := by
  intro hstandard
  rw [output, hstandard] at h
  cases h

theorem Apart.back (h : p.Apart disk) (hkeeps : disk'.KeepsDirectories disk) : p.Apart disk' :=
  ⟨fun file hfile => ⟨hkeeps.elsewhere (h.store file hfile).file,
      hkeeps.elsewhere (h.store file hfile).beside⟩,
    fun file hfile => hkeeps.elsewhere (h.settings file hfile)⟩

theorem quiet_of_changedAt (hquiet : disk.mishaps = []) (h : Disk.ChangedAt names disk disk') :
    disk'.mishaps = [] := by
  have hmishaps := h.evolves.mishaps
  rwa [hquiet, List.suffix_nil] at hmishaps

/-! ### The log -/

namespace Settled

theorem status_log (h : p.Settled disk) (hfile : p.output = .file file)
    (hentry : disk.EntryAt file names) (hchanged : Disk.ChangedAt names disk disk') :
    disk'.status p.path = disk.status p.path := by
  obtain ⟨target, htarget, -⟩ := h.ready.target
  exact hchanged.status htarget ((h.apart.store file hfile).file.ne hentry htarget).symm

/-- A change that is not beside the file, and after which everything can still be read. -/
theorem changedAt (h : p.Settled disk) (hchanged : Disk.ChangedAt names disk disk')
    (hbeside : ∀ beside, disk.EntryAt (FileStore.temporary p.path) beside → beside ≠ names)
    {d : StoreDocument} (hversion : d.version ≤ StoreDocument.currentVersion)
    (hcontent : disk'.contentAt p.path = .ok d.render.toUTF8)
    (hloads : (p.directory.load disk').1.value = .ok p.settings) : p.Settled disk' := by
  have hkeeps := hchanged.evolves.keeps
  obtain ⟨beside, hentry, -⟩ := h.ready.beside
  obtain ⟨target, htarget, hplain⟩ := h.ready.target
  have hfree := (hchanged.others (hbeside beside hentry)).trans (h.free beside hentry)
  have hplain' : disk'.find? target ≠ some .directory := by
    by_cases heq : target = names
    · rw [heq]
      exact hchanged.after
    · rwa [hchanged.others heq]
  constructor
  · exact hchanged.evolves.sound h.sound
  · exact ⟨quiet_of_changedAt h.ready.quiet hchanged, h.ready.housed.of_keeps hkeeps,
      ⟨beside, hkeeps.entryAt hentry, by simp [hfree], by simp [hfree]⟩,
      target, hkeeps.entryAt htarget, hplain'⟩
  · intro names' hentry'
    rwa [hentry'.unique (hkeeps.entryAt hentry)]
  · exact ⟨d, hversion, hcontent⟩
  · exact hloads
  · exact h.apart.back hchanged.back

/-- The log may be changed. -/
theorem log (h : p.Settled disk) (hfile : p.output = .file file) (hentry : disk.EntryAt file names)
    (hchanged : Disk.ChangedAt names disk disk') : p.Settled disk' := by
  obtain ⟨d, hversion, hcontent⟩ := h.document
  have hsame : disk'.contentAt p.path = disk.contentAt p.path := by
    rw [Disk.contentAt, h.status_log hfile hentry hchanged, Disk.contentAt]
  refine h.changedAt hchanged ?_ hversion (hsame.trans hcontent) ?_
  · intro beside hbeside
    exact ((h.apart.store file hfile).beside.ne hentry hbeside).symm
  · refine SettingsDirectory.load_changedAt h.ready.quiet h.loads hchanged ?_ ?_
    · intro hsettings
      exact absurd rfl ((h.apart.settings file hfile).ne hentry hsettings)
    · intro _
      exact not_standard hfile

/-- Another document may take the place of the one in the file. -/
theorem rewrite (h : p.Settled disk) {target : List String} (htarget : disk.EntryAt p.path target)
    (hchanged : Disk.ChangedAt target disk disk') {d : StoreDocument}
    (hversion : d.version ≤ StoreDocument.currentVersion)
    (hcontent : disk'.contentAt p.path = .ok d.render.toUTF8) : p.Settled disk' := by
  obtain ⟨old, -, hold⟩ := h.document
  refine h.changedAt hchanged ?_ hversion hcontent ?_
  · intro beside hbeside
    exact (FileStore.target_ne_beside hbeside htarget).symm
  · refine SettingsDirectory.load_changedAt h.ready.quiet h.loads hchanged ?_ ?_
    · -- No settings are loaded from a document.
      intro hsettings
      have hsame : disk.contentAt p.directory.file = disk.contentAt p.path := by
        rw [Disk.contentAt, htarget.status_eq hsettings, Disk.contentAt]
      exact absurd h.loads (SettingsDirectory.not_load_document h.ready.quiet (hsame.trans hold))
    · intro hnone
      rw [Disk.contentAt, htarget.status_missing hnone] at hold
      cases hold

end Settled

/-- A handle on the log stays one while a document is saved. -/
theorem Apart.openAt (h : p.Apart disk') (hsound : disk.Sound) {d : StoreDocument}
    (hsave : FileStore.save p.path d disk = .ok () disk') {handle : Handle}
    (hopen : Journal.OpenAt p.output disk handle) : Journal.OpenAt p.output disk' handle := by
  intro serial hhandle
  obtain ⟨file, names, bytes, mode, hfile, hentry, hfind⟩ := hopen serial hhandle
  have hevolves := FileStore.save_evolves hsound p.path d
  rw [hsave] at hevolves
  exact ⟨file, names, bytes, mode, hfile, hevolves.keeps.entryAt hentry,
    FileStore.find?_of_save hsound hsave (h.store file hfile) hentry hfind (by simp)⟩

/-- What is left of a disk after the document of a map was saved. -/
structure Stores (p : Workplace) (before : Disk) (m : BlobMap) (disk : Disk) : Prop where
  settled : p.Settled disk
  stored : FileStore.Stored m (disk.contentAt p.path)
  opened : ∀ handle, Journal.OpenAt p.output before handle → Journal.OpenAt p.output disk handle

theorem Settled.saves (h : p.Settled disk) : FileStore.SavesAs (p.Stores disk) p.path disk := by
  intro d m hversion hget
  obtain ⟨disk', hsave, -, hbytes⟩ := h.ready.save d
  have hcontent := Disk.contentAt_of_bytesAt? hbytes
  obtain ⟨disk₁, hprepare, hreplace⟩ := FileStore.save_eq_ok hsave
  rw [FileStore.prepare_of_housed h.ready.quiet h.ready.housed] at hprepare
  cases hprepare
  obtain ⟨beside, target, hmoved⟩ := FileStore.moved_of_replace h.sound hreplace
  obtain ⟨target', htarget', hplain⟩ := h.ready.target
  obtain rfl := hmoved.targetAt.unique htarget'
  have hchanged := hmoved.changedAt_of_free (h.free beside hmoved.besideAt) hplain
  have hsettled := h.rewrite hmoved.targetAt hchanged hversion hcontent
  exact ⟨disk', hsave, hsettled, .inr ⟨d, hcontent, hversion, hget⟩,
    fun handle hopen => hsettled.apart.openAt h.sound hsave hopen⟩

namespace Fresh

theorem saves (h : p.Fresh disk) : FileStore.SavesAs (p.Stores disk) p.path disk := by
  intro d m hversion hget
  obtain ⟨first, hfirst, hsettled⟩ := h.first
  obtain ⟨disk₁, hprepare, hreplace⟩ := FileStore.save_eq_ok hfirst
  obtain ⟨hquiet, hhoused⟩ := FileStore.prepare_eq_ok h.quiet hprepare
  have hevolves := FileStore.prepare_evolves p.path disk
  rw [hprepare] at hevolves
  have hsound := hevolves.sound h.sound
  have hready := FileStore.ready_of_replace hquiet hhoused hreplace
  obtain ⟨disk', hreplace', -, hbytes⟩ := hready.replace d.render.toUTF8
  have hcontent := Disk.contentAt_of_bytesAt? hbytes
  have hsave : FileStore.save p.path d disk = .ok () disk' := by
    rw [FileStore.save_eq, hprepare]
    dsimp only
    rw [hreplace']
  obtain ⟨beside, target, hmoved⟩ := FileStore.moved_of_replace hsound hreplace
  obtain ⟨beside', target', hmoved'⟩ := FileStore.moved_of_replace hsound hreplace'
  have hchanged := hmoved.changedAt hsound hquiet hmoved'
  have hsettled' := hsettled.rewrite (hmoved.evolves.keeps.entryAt hmoved.targetAt) hchanged hversion
    hcontent
  exact ⟨disk', hsave, hsettled', .inr ⟨d, hcontent, hversion, hget⟩,
    fun handle hopen => hsettled'.apart.openAt h.sound hsave hopen⟩

theorem apart (h : p.Fresh disk) : p.Apart disk := by
  obtain ⟨first, hfirst, hsettled⟩ := h.first
  have hevolves := FileStore.save_evolves h.sound p.path .empty
  rw [hfirst] at hevolves
  exact hsettled.apart.back hevolves.keeps

/-- A line may be put into the log. -/
theorem line (h : p.Fresh disk) (hfile : p.output = .file file) (hentry : disk.EntryAt file names)
    {old : ByteArray} {mode serial : Nat} (hfind : disk.find? names = some (.file old mode serial))
    (bytes : ByteArray) : p.Fresh (Disk.extend (.file serial) bytes disk) := by
  obtain ⟨hchanged, hafter⟩ := h.sound.changedAt_extend hfind bytes
  have halike := Disk.alike_extend serial bytes disk
  obtain ⟨first, hfirst, hsettled⟩ := h.first
  have hfree : ∀ {other}, disk.find? other = none →
      (Disk.extend (.file serial) bytes disk).find? other = none := by
    intro other hnone
    rwa [hchanged.others]
    rintro rfl
    rw [hfind] at hnone
    cases hnone
  constructor
  · exact hchanged.evolves.sound h.sound
  · exact quiet_of_changedAt h.quiet hchanged
  · refine SettingsDirectory.load_changedAt h.quiet h.loads hchanged ?_ ?_
    · intro hsettings
      exact absurd rfl ((h.apart.settings file hfile).ne hentry hsettings)
    · intro _
      exact not_standard hfile
  · exact hchanged.evolves.keeps.status_missing hfree h.missing
  · intro file' names' hfile' hentry'
    by_cases heq : names' = names
    · rw [heq, hafter]
      simp
    · rw [hchanged.others heq]
      exact h.opened file' names' hfile' (hchanged.back.entryAt hentry')
  · -- The same is saved over the longer log, which stays where it is.
    have hwritten : FileStore.Written (fun own bytes bytes' => own = serial ∨ bytes' = bytes)
        StoreDocument.empty.render.toUTF8 StoreDocument.empty.render.toUTF8 :=
      ⟨fun _ => .inr rfl, fun _ => .inr rfl, fun _ _ => .inr rfl⟩
    have hsaved := FileStore.save_agree halike h.sound hwritten p.path
    rw [hfirst] at hsaved
    generalize hcall : FileStore.save p.path .empty (Disk.extend (.file serial) bytes disk) = result
      at hsaved
    cases hsaved with
    | @ok _ _ _ first' _ states =>
        have hevolves := FileStore.save_evolves h.sound p.path .empty
        rw [hfirst] at hevolves
        have hstays := FileStore.find?_of_save h.sound hfirst (hsettled.apart.store file hfile) hentry
          hfind (by simp)
        have hchanged' := states.changedAt hsettled.sound hstays
        exact ⟨first', rfl, hsettled.log hfile (hevolves.keeps.entryAt hentry) hchanged'⟩

end Fresh
/-! ### Before, during and after a run -/

/-- Something was stored, or nothing yet. -/
def Working (p : Workplace) (disk : Disk) : Prop := p.Settled disk ∨ p.Fresh disk

namespace Working

theorem sound (h : p.Working disk) : disk.Sound := h.elim Settled.sound Fresh.sound

theorem quiet (h : p.Working disk) : disk.mishaps = [] := h.elim (·.ready.quiet) Fresh.quiet

theorem loads (h : p.Working disk) : (p.directory.load disk).1.value = .ok p.settings :=
  h.elim Settled.loads Fresh.loads

theorem saves (h : p.Working disk) : FileStore.SavesAs (p.Stores disk) p.path disk := by
  rcases h with hsettled | hfresh
  · exact hsettled.saves
  · exact hfresh.saves

end Working

/-- A disk during a run: what is open is the log, and this is found in the file of the store. -/
structure During (p : Workplace) (handle : Option Handle)
    (found : Except IoError (List String × Node)) (disk : Disk) : Prop where
  working : p.Working disk
  opened : ∀ h, handle = some h → Journal.OpenAt p.output disk h
  found : disk.status p.path = found

namespace During

variable {found : Except IoError (List String × Node)}

theorem line {handle : Handle} (h : p.During (some handle) found disk) (bytes : ByteArray) :
    p.During (some handle) found (Disk.extend handle bytes disk) := by
  cases handle with
  | void => exact h
  | file serial =>
      obtain ⟨file, names, old, mode, hfile, hentry, hfind⟩ := h.opened _ rfl serial rfl
      obtain ⟨hchanged, hafter⟩ := h.working.sound.changedAt_extend hfind bytes
      refine ⟨?_, ?_, ?_⟩
      · rcases h.working with hsettled | hfresh
        · exact .inl (hsettled.log hfile hentry hchanged)
        · exact .inr (hfresh.line hfile hentry hfind bytes)
      · rintro _ ⟨⟩ _ ⟨⟩
        exact ⟨file, names, _, mode, hfile, hchanged.evolves.keeps.entryAt hentry, hafter⟩
      · rw [← h.found]
        rcases h.working with hsettled | hfresh
        · exact hsettled.status_log hfile hentry hchanged
        · rw [hfresh.missing, (hfresh.line hfile hentry hfind bytes).missing]

theorem take {j : Journal} (h : p.During j.handle? found disk) (events : List Event) :
    p.During (Journal.take events j disk).1.handle? found (Journal.take events j disk).2 := by
  rw [Journal.handle?_take]
  refine Journal.take_keeps ?_ events h
  intro handle hhandle text disk hduring
  rw [hhandle] at hduring ⊢
  exact hduring.line text.toUTF8

theorem contentAt {handle handle' : Option Handle} (h : p.During handle found disk)
    (h' : p.During handle' found disk') : disk.contentAt p.path = disk'.contentAt p.path := by
  rw [Disk.contentAt, h.found, ← h'.found, Disk.contentAt]

end During

/-- A disk on which a run may begin. -/
structure Awaits (p : Workplace) (disk : Disk) : Prop where
  quiet : disk.mishaps = []
  sound : disk.Sound
  loads : (p.directory.load disk).1.value = .ok p.settings
  working : p.Working (Journal.withOutput p.output disk)
  found : (Journal.withOutput p.output disk).status p.path = disk.status p.path

/-- After one run there may be another. -/
theorem Working.awaits (h : p.Working disk) : p.Awaits disk := by
  have hopened : p.Working (Journal.withOutput p.output disk) ∧
      (Journal.withOutput p.output disk).status p.path = disk.status p.path := by
    rcases h with hsettled | hfresh
    · rcases Journal.withOutput_cases hsettled.sound hsettled.ready.quiet p.output with hsame |
        ⟨file, names, hfile, hentry, -, hchanged, -⟩
      · rw [hsame]
        exact ⟨.inl hsettled, rfl⟩
      · exact ⟨.inl (hsettled.log hfile hentry hchanged), hsettled.status_log hfile hentry hchanged⟩
    · rw [Journal.withOutput_of_isThere hfresh.sound hfresh.quiet hfresh.opened]
      exact ⟨.inr hfresh, rfl⟩
  exact ⟨h.quiet, h.sound, h.loads, hopened.1, hopened.2⟩

/-- The disk before the first run. No file is there for the store; once the log is opened, a document can
be saved, and after that the settings are loaded as before and the log is another file. -/
structure Begins (p : Workplace) (disk : Disk) : Prop where
  sound : disk.Sound
  quiet : disk.mishaps = []
  loads : (p.directory.load disk).1.value = .ok p.settings
  missing : disk.status p.path = .error .notFound
  saves : FileStore.Saves p.path (Journal.withOutput p.output disk)
  kept : ∀ {disk'}, FileStore.save p.path .empty (Journal.withOutput p.output disk) = .ok () disk' →
    (p.directory.load disk').1.value = .ok p.settings ∧ p.Apart disk'

namespace Begins

theorem first (h : p.Begins disk) (hsound : (Journal.withOutput p.output disk).Sound) :
    ∃ disk', FileStore.save p.path .empty (Journal.withOutput p.output disk) = .ok () disk' ∧
      p.Settled disk' := by
  obtain ⟨disk₁, hprepare, hready⟩ := h.saves.prepare
  have hevolves := FileStore.prepare_evolves p.path (Journal.withOutput p.output disk)
  rw [hprepare] at hevolves
  obtain ⟨disk', hreplace, hready', hbytes⟩ := hready.replace StoreDocument.empty.render.toUTF8
  have hsave : FileStore.save p.path .empty (Journal.withOutput p.output disk) = .ok () disk' := by
    rw [FileStore.save_eq, hprepare]
    dsimp only
    rw [hreplace]
  obtain ⟨beside, target, hmoved⟩ := FileStore.moved_of_replace (hevolves.sound hsound) hreplace
  obtain ⟨hloads, hapart⟩ := h.kept hsave
  refine ⟨disk', hsave, hmoved.evolves.sound (hevolves.sound hsound), hready', ?_,
    ⟨.empty, Nat.le_refl _, Disk.contentAt_of_bytesAt? hbytes⟩, hloads, hapart⟩
  intro names hentry
  rw [hentry.unique (hmoved.evolves.keeps.entryAt hmoved.besideAt)]
  exact hmoved.free

/-- Opening the log does not make a file for the store. -/
theorem missing_opened (h : p.Begins disk) :
    (Journal.withOutput p.output disk).status p.path = .error .notFound := by
  rcases Journal.withOutput_cases h.sound h.quiet p.output with hsame |
    ⟨file, names, hfile, hentry, -, hchanged, mode, serial, hfind⟩
  · rw [hsame]
    exact h.missing
  · have hsound := hchanged.evolves.sound h.sound
    have hkeeps := hchanged.evolves.keeps
    obtain ⟨disk', hsave, hsettled⟩ := h.first hsound
    have hevolves := FileStore.save_evolves hsound p.path .empty
    rw [hsave] at hevolves
    have hother := hsettled.apart.store file hfile
    obtain ⟨target, htarget, -⟩ := hsettled.ready.target
    have hempty : p.path ≠ "" := by
      intro hempty
      obtain ⟨above, name, -, hspot, -⟩ := htarget
      rw [hempty] at hspot
      cases hspot
    obtain ⟨hole, hfree, hhole⟩ := Disk.status_missing h.missing hempty
    refine (hhole _ hkeeps).1 ?_
    have hstays := FileStore.find?_of_save hsound hsave hother (hkeeps.entryAt hentry) hfind (by simp)
    have hne : hole ≠ names := by
      rintro rfl
      have hsame := (hhole disk' (hkeeps.trans hevolves.keeps)).2 htarget (by simp [hstays])
      exact hother.file.ne (hevolves.keeps.entryAt (hkeeps.entryAt hentry)) htarget hsame.symm
    rw [hchanged.others hne]
    exact hfree

theorem fresh (h : p.Begins disk) : p.Fresh (Journal.withOutput p.output disk) := by
  have hopened : (Journal.withOutput p.output disk).Sound ∧
      (Journal.withOutput p.output disk).mishaps = [] ∧
        (p.directory.load (Journal.withOutput p.output disk)).1.value = .ok p.settings := by
    rcases Journal.withOutput_cases h.sound h.quiet p.output with hsame |
      ⟨file, names, hfile, hentry, hfree, hchanged, -⟩
    · rw [hsame]
      exact ⟨h.sound, h.quiet, h.loads⟩
    · refine ⟨hchanged.evolves.sound h.sound, quiet_of_changedAt h.quiet hchanged, ?_⟩
      exact SettingsDirectory.load_changedAt h.quiet h.loads hchanged (fun _ => hfree)
        fun _ => not_standard hfile
  obtain ⟨hsound, hquiet, hloads⟩ := hopened
  exact ⟨hsound, hquiet, hloads, h.missing_opened, Journal.isThere_withOutput h.sound h.quiet p.output,
    h.first hsound⟩

theorem awaits (h : p.Begins disk) : p.Awaits disk where
  quiet := h.quiet
  sound := h.sound
  loads := h.loads
  working := .inr h.fresh
  found := by rw [h.missing, h.missing_opened]

end Begins
end Workplace
end Strongbox
