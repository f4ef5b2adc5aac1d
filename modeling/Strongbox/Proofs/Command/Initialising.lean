import Strongbox.Proofs.Command.Contract
import Strongbox.Proofs.Settings.Survival
/-! Writing settings for a user who has none. The command is refused before it touches the disk, or it writes
just the settings that it was asked for; whatever comes of it, the log is the only other file that changes. -/
namespace Strongbox

open Log

namespace Log.Journal

/-- A path leads to a node, and the log is in another file. -/
structure Beside (j : Journal) (path : String) (node : Node) (disk : Disk) (names : List String) : Prop where
  sound : disk.Sound
  entry : disk.EntryAt path names
  found : disk.find? names = some node
  log : ∀ serial, j.handle? = some (.file serial) → ∃ names' bytes mode, names' ≠ names ∧
    disk.find? names' = some (.file bytes mode serial)

variable {j : Journal} {path : String} {node : Node} {disk : Disk} {names : List String}

theorem Beside.spared (h : j.Beside path node disk names) : ∀ serial ∈ node.serial?,
    j.handle? ≠ some (.file serial) := by
  intro serial hserial hhandle
  obtain ⟨names', bytes, mode, hne, hfile⟩ := h.log serial hhandle
  cases node with
  | file bytes' mode' own =>
      cases hserial
      exact hne (h.sound.single hfile h.found)
  | _ => cases hserial

end Log.Journal

namespace Command

variable {e : Environment} {i : Invocation} {b : Backends Unit} {w : Process} {d : SettingsDirectory}
variable {s : Settings} {space fallback : Option String} {force : Bool}

namespace Initiates

variable {result : EStateM.Result Failure Process Unit}

/-- What is refused ends the run before anything is touched. -/
theorem untouched (h : Initiates d s force w result)
    (hrefused : force = false ∧ w.backends.disk.existsAt d.file = true ∨ s.validate ≠ .ok ()) :
    status result = 1 ∧ (Call.after result).backends.disk = w.backends.disk := by
  have hinvalid : ∀ {answer disk}, (force = false → w.backends.disk.existsAt d.file = false) →
      d.save s w.backends.disk = (answer, disk) →
      ∃ failure, answer = ⟨.error failure, []⟩ ∧ disk = w.backends.disk := by
    intro answer disk hfree hsave
    have hvalid : s.validate ≠ .ok () := by
      refine hrefused.resolve_left ?_
      rintro ⟨hforce, hthere⟩
      cases hthere.symm.trans (hfree hforce)
    cases hcheck : s.validate with
    | ok u => exact absurd hcheck hvalid
    | error failure =>
        rw [SettingsDirectory.save, hcheck] at hsave
        cases hsave
        exact ⟨failure, rfl, rfl⟩
  cases h with
  | refused _ _ hstatus => exact ⟨hstatus, rfl⟩
  | failed hfree hsave hstatus =>
      obtain ⟨_, -, hsame⟩ := hinvalid hfree hsave
      exact ⟨hstatus, hsame⟩
  | saved hfree hsave _ =>
      obtain ⟨_, hanswer, -⟩ := hinvalid hfree hsave
      cases hanswer

/-- Where no call is struck, a run that fails leaves every file to itself. -/
theorem sameFiles (h : Initiates d s force w result) (hfails : status result ≠ 0)
    (hquiet : w.backends.disk.mishaps = []) :
    w.backends.disk.SameFiles (Call.after result).backends.disk := by
  cases h with
  | refused => exact (Disk.Untouched.refl w.backends.disk).sameFiles
  | failed _ hsave => exact SettingsDirectory.sameFiles_of_error hsave hquiet
  | saved => exact absurd rfl hfails

theorem saved_of_done (h : Initiates d s force w result) (hdone : status result = 0) :
    ∃ events disk, d.save s w.backends.disk = (⟨.ok (), events⟩, disk) ∧
      (Call.after result).backends.disk = (Journal.take events w.journal disk).2 := by
  cases h with
  | refused _ _ hstatus => cases hstatus.symm.trans hdone
  | failed _ _ hstatus => cases hstatus.symm.trans hdone
  | saved _ hsave hleft => exact ⟨_, _, hsave, hleft⟩

end Initiates

/-- Nothing has changed but the file of the log; there is no other directory, and the settings are as they
were. -/
structure LeftAlone (e : Environment) (i : Invocation) (d : SettingsDirectory) (before after : Disk) : Prop where
  others : OnlyLogChanged e i before after
  settings : after.nodeAt? d.file = before.nodeAt? d.file
  directories : ∀ names, after.find? names = some .directory ↔ before.find? names = some .directory

/-- A status of failure: an error that is told, or a crash. -/
def Outcome.Failed (o : Outcome) : Prop := o.exit = 1 ∨ o.exit = 101

/-- What becomes of the settings when a run is asked to write them. -/
structure Initialises (e : Environment) (i : Invocation) (d : SettingsDirectory) (s : Settings) (force : Bool)
    (disk : Disk) (o : Outcome) : Prop where
  kept : force = false → disk.existsAt d.file = true → o.Failed ∧ LeftAlone e i d disk o.backends.disk
  refused : s.validate ≠ .ok () → o.Failed ∧ LeftAlone e i d disk o.backends.disk
  failed : o.exit ≠ 0 → disk.mishaps = [] → ∀ names node, node ≠ .directory →
    (o.backends.disk.find? names = some node ↔ disk.find? names = some node) ∨
      ∃ path, logOutput e i disk = .file path ∧ disk.EntryAt path names
  written : o.exit = 0 → o.backends.disk.nodeAt? d.file ≠ some .void →
    (d.load o.backends.disk).1.value = .ok s ∨ o.backends.disk.LastStruck (d.load o.backends.disk).2

/-- A log that goes to a file was asked for by settings in a file. -/
theorem entryAt_of_logOutput {disk : Disk} {path : String} (hd : directoryOf e i = .ok d)
    (houtput : logOutput e i disk = .file path) :
    ∃ names node, disk.EntryAt d.file names ∧ disk.find? names = some node := by
  rw [logOutput, hd] at houtput
  dsimp only at houtput
  cases hload : (d.load disk).1.value with
  | error failure =>
      rw [hload] at houtput
      cases houtput
  | ok s =>
      rw [hload] at houtput
      rcases SettingsDirectory.status_of_load hload with ⟨names, node, hstatus, hnode⟩ | ⟨-, rfl⟩
      · exact ⟨names, node, Disk.entryAt_of_status hstatus hnode⟩
      · cases houtput

section

variable (hd : directoryOf e i = .ok d) (hsound : b.disk.Sound)
variable (helsewhere : ∀ path, logOutput e i b.disk = .file path → b.disk.Elsewhere d.file path)

include hsound helsewhere

theorem leftAlone_of_silent (hw : Silent (logOutput e i b.disk) b w) : LeftAlone e i d b.disk w.backends.disk := by
  have hlogged := hw.logged hsound
  exact ⟨hlogged.others, hlogged.nodeAt? helsewhere,
    fun names => ⟨hlogged.back.directories names, hlogged.evolves.keeps.directories names⟩⟩

include hd

/-- When the settings are saved the log is beside them. -/
theorem beside_of_save (hw : Silent (logOutput e i b.disk) b w) {events : List Event} {disk : Disk}
    (hsave : d.save s w.backends.disk = (⟨.ok (), events⟩, disk)) :
    ∃ names node, w.journal.Beside d.file node disk names ∧
      (node = .void ∨ ∃ mode serial, node = .file s.render.toUTF8 mode serial) := by
  have hlogged := hw.logged hsound
  obtain ⟨-, disk₁, hmake, hwrite⟩ := SettingsDirectory.save_eq_ok hsave
  have hevolves := Disk.makeDirectories_evolves d.path w.backends.disk
  have hsame := Disk.makeDirectories_sameFiles d.path w.backends.disk
  rw [hmake] at hevolves hsame
  have hmade := hlogged.evolves.trans hevolves
  obtain ⟨names, node, hentry, hwritten, hothers, hfind, hnode⟩ :=
    Disk.writeFile_leaves (hmade.sound hsound) hwrite
  refine ⟨names, node, ⟨(hmade.trans hwritten).sound hsound, hwritten.keeps.entryAt hentry, hfind, ?_⟩, hnode⟩
  intro serial hhandle
  obtain ⟨file, names', bytes, mode, houtput, hentry', hfile⟩ := hlogged.opened _ hhandle serial rfl
  have hne : names' ≠ names := by
    obtain ⟨names₀, -, hentry₀, -⟩ := entryAt_of_logOutput hd houtput
    obtain rfl := (hmade.keeps.entryAt hentry₀).unique hentry
    obtain ⟨above, name, rfl, hspot, -⟩ := hentry₀
    exact (helsewhere file houtput above name false names' hspot (hlogged.back.entryAt hentry')).symm
  refine ⟨names', bytes, mode, hne, ?_⟩
  rw [hothers names' hne]
  exact (hsame names' (.file bytes mode serial) (by simp)).2 hfile

end

/-- A user in the directory of the settings, with one node there. -/
def lone (name : String) (node : Node) : Backends Unit := ⟨⟨[([name], node)], [], [], 1⟩, .empty, ()⟩

def logging : Backends Unit :=
  lone "config.toml" (.file "[logging]\nfile = \"app.log\"\n".toUTF8 0o644 0)

def initialising (space : Option String) (force : Bool) : Invocation :=
  ⟨some ".", 0, false, none, .initSettings space none force⟩

/-- A device stands in for the settings. -/
def device : Backends Unit := lone "config.toml" .void

theorem sound_device : device.disk.Sound := by
  refine @Disk.Sound.bind _ [] "config.toml" (Disk.sound_blank []) .void 1 rfl ?_ (Nat.zero_le 1) ?_
  · rintro ⟨⟩
  · rintro _ _ _ ⟨⟩

theorem logging_elsewhere (i : Invocation) (hi : i.directory = some ".") (path : String)
    (h : logOutput alone i logging.disk = .file path) :
    logging.disk.Elsewhere (SettingsDirectory.mk ".").file path := by
  have houtput : logOutput alone i logging.disk = .file "app.log" := by
    rw [logOutput, directoryOf, hi]
    decide +kernel
  rw [houtput] at h
  cases h
  have hsettings : logging.disk.spot (SettingsDirectory.mk ".").file = .ok (.entry [] "config.toml" false) := by
    decide +kernel
  have hlog : logging.disk.spot "app.log" = .ok (.entry [] "app.log" false) := by
    decide +kernel
  rintro above name slash names hspot ⟨above', name', rfl, hspot', -⟩
  cases hsettings.symm.trans hspot
  cases hlog.symm.trans hspot'
  decide

end Command
end Strongbox
