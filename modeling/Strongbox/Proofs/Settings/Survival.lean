import Strongbox.Proofs.Disk.Missing
import Strongbox.Proofs.Log.Journal
import Strongbox.Proofs.Settings.Directory
/-! Settings that survive their file. Once they are written the log hears of it, so what is in the file
afterwards is what was saved only where the log goes elsewhere. -/
namespace Strongbox

open Log

/-- The number that a file keeps. -/
def Node.serial? : Node → Option Nat
  | .file _ _ serial => some serial
  | _ => none

namespace Log.Journal

/-- The log does not go into the file at a path. -/
def Spares (j : Journal) (path : String) (disk : Disk) : Prop :=
  ∀ serial ∈ (disk.nodeAt? path).bind Node.serial?, j.handle? ≠ some (.file serial)

instance (j : Journal) (path : String) (disk : Disk) : Decidable (j.Spares path disk) :=
  inferInstanceAs (Decidable (∀ serial ∈ (disk.nodeAt? path).bind Node.serial?, j.handle? ≠ some (.file serial)))

/-- What the log does not go into is there as it was, whatever the log hears. -/
theorem found_take {j : Journal} {disk : Disk} {path : String} {names : List String} {node : Node}
    (hentry : disk.EntryAt path names) (hfound : disk.find? names = some node)
    (hspared : ∀ serial ∈ node.serial?, j.handle? ≠ some (.file serial)) (events : List Event) :
    (take events j disk).2.EntryAt path names ∧ (take events j disk).2.find? names = some node := by
  refine take_keeps (P := fun disk => disk.EntryAt path names ∧ disk.find? names = some node) ?_ events
    ⟨hentry, hfound⟩
  rintro handle hhandle text disk ⟨hentry, hfound⟩
  cases handle with
  | void => exact ⟨hentry, hfound⟩
  | file other =>
      refine ⟨(Disk.extend_keeps other text.toUTF8 disk).1.entryAt hentry, ?_⟩
      rw [Disk.find?_extend, hfound, Option.map_some]
      cases node with
      | file bytes mode serial =>
          have hother : serial ≠ other := by
            rintro rfl
            exact hspared serial rfl hhandle
          rw [Disk.extended, if_neg hother]
      | _ => rfl

end Log.Journal

namespace SettingsDirectory

variable {d : SettingsDirectory} {s : Settings} {disk disk' : Disk} {j : Journal} {events : List Event}

theorem load_of_save (h : d.save s disk = (⟨.ok (), events⟩, disk'))
    (hdevice : disk'.nodeAt? d.file ≠ some .void) (hspared : j.Spares d.file disk') :
    (d.load (Journal.take events j disk').2).1.value = .ok s ∨
      (Journal.take events j disk').2.LastStruck (d.load (Journal.take events j disk').2).2 := by
  obtain ⟨hvalid, disk₁, -, hwrite⟩ := save_eq_ok h
  have hcontent := (Disk.writeFile_eq_ok hwrite).resolve_left hdevice
  obtain ⟨names, node, hstatus, hnode⟩ := Disk.status_of_contentAt hcontent
  obtain ⟨hentry, hfind⟩ := Disk.entryAt_of_status hstatus hnode
  cases node with
  | directory => exact absurd rfl hnode
  | void => exact absurd (hentry.nodeAt?.trans hfind) hdevice
  | file bytes mode serial =>
      rw [Journal.Spares, hentry.nodeAt?, hfind, Option.bind_some] at hspared
      obtain ⟨hentry', hfind'⟩ := Journal.found_take hentry hfind hspared events
      have hbefore := Disk.contentAt_of_file hentry hfind
      have hafter := Disk.contentAt_of_file hentry' hfind'
      exact load_of_contentAt hvalid (hafter.trans (hbefore.symm.trans hcontent))

/-- Saving that fails tells the log nothing. -/
theorem take_of_error {e : SettingsError} (h : d.save s disk = (⟨.error e, events⟩, disk')) (j : Journal) :
    (Journal.take events j disk').2 = disk' := by
  rw [(save_eq_error h).1]
  rfl

/-- Settings survive the file. Saving that succeeds is loaded as what was saved, unless a device stands in
for the file, the log goes into it or the reading itself is struck; settings that are refused leave the disk
alone; and only valid settings are loaded. Where no call is struck, saving that fails changes no file at
all, so no file comes about that is refused later. -/
theorem saved_settings_survive (d : SettingsDirectory) (s : Settings) (j : Journal) (disk : Disk) :
    (∀ events disk', d.save s disk = (⟨.ok (), events⟩, disk') →
      disk'.nodeAt? d.file ≠ some .void → j.Spares d.file disk' →
      (d.load (Journal.take events j disk').2).1.value = .ok s ∨
        (Journal.take events j disk').2.LastStruck (d.load (Journal.take events j disk').2).2) ∧
    (∀ e events disk', d.save s disk = (⟨.error e, events⟩, disk') → (∀ reason, e ≠ .write reason) →
      (Journal.take events j disk').2 = disk) ∧
    (∀ disk' s', (d.load disk').1.value = .ok s' → s'.validate = .ok ()) ∧
    ∀ e events disk', d.save s disk = (⟨.error e, events⟩, disk') → disk.mishaps = [] →
      disk.SameFiles (Journal.take events j disk').2 := by
  refine ⟨?_, ?_, ?_, ?_⟩
  · intro events disk' hsave hdevice hspared
    exact load_of_save hsave hdevice hspared
  · intro e events disk' hsave he
    rw [take_of_error hsave]
    exact unchanged_of_refused hsave he
  · intro disk' s' hload
    exact validate_of_load hload
  · intro e events disk' hsave hquiet
    rw [take_of_error hsave]
    exact sameFiles_of_error hsave hquiet

/-- Every field is set, one of them to a text that needs several lines. -/
def full : Settings :=
  ⟨"app", .must, some "a\n\"b\".json", ⟨.info, some "credstore=debug", some "app.log"⟩⟩

theorem save_of_value (h : (d.save s disk).1.value = .ok ()) :
    d.save s disk = (⟨.ok (), (d.save s disk).1.events⟩, (d.save s disk).2) := by
  rw [← h]

def blank : Disk := ⟨[], [], [], 0⟩

/-- A log that has been opened at a path. -/
def logInto (path : String) (disk : Disk) : Journal × Disk :=
  (Journal.start ⟨.debug, .file path, none⟩ .empty disk).2

def cfg : SettingsDirectory := ⟨"cfg"⟩

/-- What saving comes to beside a log in another file. -/
def besideLog : Logged (Except SettingsError Unit) × Disk := cfg.save full (logInto "app.log" blank).2

/-- Every field comes back, and settings without a name space leave nothing. -/
theorem full_survives : besideLog.1.value = .ok () ∧ (logInto "app.log" blank).1.Spares cfg.file besideLog.2 ∧
    (cfg.load (Journal.take besideLog.1.events (logInto "app.log" blank).1 besideLog.2).2).1.value = .ok full ∧
    (cfg.save { full with space := "" } blank).2 = blank := by
  have hok : besideLog.1.value = .ok () := by decide +kernel
  have hdevice : besideLog.2.nodeAt? cfg.file ≠ some .void := by decide +kernel
  have hspared : (logInto "app.log" blank).1.Spares cfg.file besideLog.2 := by decide +kernel
  have hquiet : (Journal.take besideLog.1.events (logInto "app.log" blank).1 besideLog.2).2.mishaps = [] := by
    decide +kernel
  have hsave : cfg.save full (logInto "app.log" blank).2 = (⟨.ok (), besideLog.1.events⟩, besideLog.2) :=
    save_of_value hok
  obtain ⟨hsaved, -, -, -⟩ := saved_settings_survive cfg full (logInto "app.log" blank).1
    (logInto "app.log" blank).2
  obtain ⟨-, hrefused, -, -⟩ := saved_settings_survive cfg { full with space := "" } .empty blank
  refine ⟨hok, hspared, (hsaved _ _ hsave hdevice hspared).resolve_right ?_, hrefused _ _ _ rfl ?_⟩
  · rintro ⟨m, hstruck⟩
    rw [hquiet, List.suffix_nil] at hstruck
    cases hstruck
  · rintro reason ⟨⟩

/-- What a device takes is not loaded again, nor what the log has written behind. -/
theorem not_survives :
    (¬ ∀ (d : SettingsDirectory) (s : Settings) (disk : Disk) (events : List Event) (disk' : Disk),
      d.save s disk = (⟨.ok (), events⟩, disk') → disk'.mishaps = [] → (d.load disk').1.value = .ok s) ∧
    ¬ ∀ (d : SettingsDirectory) (s : Settings) (j : Journal) (disk : Disk) (events : List Event)
      (disk' : Disk), d.save s disk = (⟨.ok (), events⟩, disk') → disk'.nodeAt? d.file ≠ some .void →
      disk'.mishaps = [] → (d.load (Journal.take events j disk').2).1.value = .ok s := by
  constructor
  · intro h
    have hok : ((SettingsDirectory.mk ".").save full ⟨[(["config.toml"], .void)], [], [], 0⟩).1.value = .ok () := by
      decide +kernel
    have hloaded := h _ _ _ _ _ (save_of_value hok) (by decide +kernel)
    revert hloaded
    decide +kernel
  · intro h
    have hok : ((SettingsDirectory.mk ".").save Settings.standard (logInto "config.toml" blank).2).1.value = .ok () := by
      decide +kernel
    have hloaded := h _ _ (logInto "config.toml" blank).1 _ _ _ (save_of_value hok) (by decide +kernel)
      (by decide +kernel)
    revert hloaded
    decide +kernel

end SettingsDirectory
end Strongbox
