import Strongbox.Proofs.Disk.Calls
import Strongbox.Proofs.Log.Journal
/-! Opening the file of a log on a disk whose calls go well. A file that is missing is made if it can be;
after that, opening it once more changes nothing. -/
namespace Strongbox

namespace Disk

variable {d : Disk} {path : String} {names : List String}

theorem openAppend_of_missing (h : d.mishaps = []) (hentry : d.EntryAt path names)
    (hfree : d.find? names = none) :
    ∃ handle d', openAppend path d = .ok handle d' ∧ d'.find? names ≠ none := by
  obtain ⟨above, name, rfl, hspot, hfits⟩ := hentry
  have hin := inside_of_fits hfits d above
  rw [hfree] at hin
  refine ⟨.file d.serial, { d.set (above ++ [name]) (.file .empty 0o644 d.serial) with
    serial := d.serial + 1 }, ?_, ?_⟩
  · rw [openAppend, openFile, attempt_of_quiet _ h, ask_bind_of_ok hspot]
    simp only [Bool.false_eq_true, if_false, bind, EStateM.bind, ask, hin]
    rfl
  · have hthere := (find?_set (show above ++ [name] ≠ [] by simp) d
      (.file .empty 0o644 d.serial) (above ++ [name])).trans (if_pos rfl)
    intro hnone
    cases hnone.symm.trans hthere

end Disk

namespace Log.Journal

variable {disk : Disk} {output : Output}

/-- The disk after the output was opened, if it could be. -/
def withOutput (output : Output) (disk : Disk) : Disk := (openOutput output disk).2

/-- The file of an output is there, or nothing can be made of its path. -/
def IsThere (output : Output) (disk : Disk) : Prop :=
  ∀ file names, output = .file file → disk.EntryAt file names → disk.find? names ≠ none

/-- What is open is the file of an output. -/
def OpenAt (output : Output) (disk : Disk) (handle : Handle) : Prop :=
  ∀ serial, handle = .file serial → ∃ file names bytes mode, output = .file file ∧
    disk.EntryAt file names ∧ disk.find? names = some (.file bytes mode serial)

/-- Opening changes nothing, or it makes the file that was missing. -/
theorem withOutput_cases (hsound : disk.Sound) (hquiet : disk.mishaps = []) (output : Output) :
    withOutput output disk = disk ∨ ∃ file names, output = .file file ∧ disk.EntryAt file names ∧
      disk.find? names = none ∧ Disk.ChangedAt names disk (withOutput output disk) ∧
        ∃ mode serial, (withOutput output disk).find? names = some (.file .empty mode serial) := by
  cases output with
  | standardError => exact .inl rfl
  | file path =>
      rw [withOutput, openOutput]
      cases hopen : Disk.openAppend path disk with
      | error e disk' => exact .inl ((Disk.openFile_eq_error hopen).eq_of_quiet hquiet)
      | ok handle disk' =>
          rcases Disk.openAppend_cases hsound hopen with ⟨-, huntouched⟩ |
            ⟨names, mode, serial, -, hentry, ⟨-, huntouched⟩ | ⟨hfree, hchanged, hfile⟩⟩
          · exact .inl (huntouched.eq_of_quiet hquiet)
          · exact .inl (huntouched.eq_of_quiet hquiet)
          · exact .inr ⟨path, names, rfl, hentry, hfree, hchanged, mode, serial, hfile⟩

theorem openAt_of_openOutput (hsound : disk.Sound) {handle : Handle}
    (h : (openOutput output disk).1 = .ok (some handle)) :
    OpenAt output (withOutput output disk) handle := by
  rintro serial rfl
  cases output with
  | standardError => cases h
  | file path =>
      rw [withOutput, openOutput]
      rw [openOutput] at h
      cases hopen : Disk.openAppend path disk with
      | error e disk' =>
          rw [hopen] at h
          cases h
      | ok handle disk' =>
          rw [hopen] at h
          cases h
          rcases Disk.openAppend_cases hsound hopen with ⟨hvoid, -⟩ |
            ⟨names, mode, serial', hhandle, hentry, ⟨⟨bytes, hfile⟩, huntouched⟩ | ⟨-, hchanged, hfile⟩⟩
          · cases hvoid
          · cases hhandle
            exact ⟨path, names, bytes, mode, rfl, huntouched.keeps.entryAt hentry,
              (huntouched.find? names).trans hfile⟩
          · cases hhandle
            exact ⟨path, names, .empty, mode, rfl, hchanged.evolves.keeps.entryAt hentry, hfile⟩

/-- What has been opened is there. -/
theorem isThere_withOutput (hsound : disk.Sound) (hquiet : disk.mishaps = []) (output : Output) :
    IsThere output (withOutput output disk) := by
  rintro path names rfl hentry
  rcases withOutput_cases hsound hquiet (.file path) with hsame |
    ⟨file, names', houtput, hentry', -, hchanged, mode, serial, hfile⟩
  · rw [hsame] at hentry ⊢
    intro hfree
    obtain ⟨handle, disk', hopen, hthere⟩ := Disk.openAppend_of_missing hquiet hentry hfree
    have hleft : withOutput (.file path) disk = disk' := by
      rw [withOutput, openOutput, hopen]
    rw [← hleft, hsame] at hthere
    exact hthere hfree
  · cases houtput
    rw [(hchanged.evolves.keeps.entryAt hentry').unique hentry] at hfile
    simp [hfile]

/-- What is there is not made again. -/
theorem withOutput_of_isThere (hsound : disk.Sound) (hquiet : disk.mishaps = []) (h : IsThere output disk) :
    withOutput output disk = disk := by
  rcases withOutput_cases hsound hquiet output with hsame | ⟨file, names, houtput, hentry, hfree, -⟩
  · exact hsame
  · exact absurd hfree (h file names houtput hentry)

end Log.Journal
end Strongbox
