import Strongbox.Proofs.Disk.Mishaps
/-! What calls do on a disk whose calls go as its nodes have it. A call that succeeds says what was
there; none of them takes a directory away. -/
namespace Strongbox.Disk

variable {d d' : Disk} {path : String} {names : List String}

theorem attempt_of_quiet {α : Type} (call : DiskCall α) (h : d.mishaps = []) :
    attempt call d = call d := by
  unfold attempt
  rw [h]

/-! ### Reading -/

theorem readBytes_of_quiet (h : d.mishaps = []) (path : String) :
    readBytes path d = match d.contentAt path with
      | .ok bytes => .ok bytes d
      | .error e => .error e d := by
  rw [readBytes_eq, attempt_of_quiet _ h]
  exact readFound_eq path d

/-! ### Writing -/

/-- A file that is opened is there, empty; the directories are as they were. -/
theorem openEmpty_of_entry (mode : Nat) (h : d.mishaps = []) (hentry : d.EntryAt path names)
    (hdir : d.find? names ≠ some .directory) (hvoid : d.find? names ≠ some .void) :
    ∃ serial d', openEmpty path mode d = .ok (.file serial) d' ∧ d'.mishaps = [] ∧
      d.KeepsDirectories d' ∧ d'.KeepsDirectories d ∧
      ∃ mode', d'.find? names = some (.file .empty mode' serial) := by
  have hne := hentry.ne_nil
  have hset : ∀ mode serial, (d.set names (.file .empty mode serial)).find? names =
      some (.file .empty mode serial) := by
    intro mode serial
    rw [find?_set hne, if_pos rfl]
  have hkeeps : ∀ mode serial, d.KeepsDirectories (d.set names (.file .empty mode serial)) :=
    fun mode serial => set_keeps _ hne hdir
  have hback : ∀ mode serial, (d.set names (.file .empty mode serial)).KeepsDirectories d :=
    fun mode serial => set_keeps_back hne (by simp)
  obtain ⟨above, name, rfl, hspot, hfits⟩ := hentry
  have hin := inside_of_fits hfits d above
  rw [openEmpty, openFile, attempt_of_quiet _ h, ask_bind_of_ok hspot]
  dsimp only
  match hfound : d.find? (above ++ [name]) with
  | some .directory => exact absurd hfound hdir
  | some .void => exact absurd hfound hvoid
  | some (.file bytes mode' serial) =>
      rw [hfound] at hin
      refine ⟨serial, d.set (above ++ [name]) (.file .empty mode' serial), ?_, h, hkeeps _ _,
        hback _ _, mode', hset _ _⟩
      simp only [Bool.false_eq_true, if_false, bind, EStateM.bind, ask, hin]
      rfl
  | none =>
      rw [hfound] at hin
      obtain ⟨hhere, hdirs⟩ := hkeeps mode d.serial
      obtain ⟨hhere', hdirs'⟩ := hback mode d.serial
      refine ⟨d.serial, { d.set (above ++ [name]) (.file .empty mode d.serial) with
        serial := d.serial + 1 }, ?_, h, ⟨hhere, hdirs⟩, ⟨hhere', hdirs'⟩, mode, hset _ _⟩
      simp only [Bool.false_eq_true, if_false, bind, EStateM.bind, ask, hin]
      rfl

theorem append_of_quiet (h : d.mishaps = []) (handle : Handle) (bytes : ByteArray) :
    append handle bytes d = .ok () (extend handle bytes d) := by
  unfold append
  rw [h]

theorem sync_of_quiet (h : d.mishaps = []) (serial : Nat) : sync (.file serial) d = .ok () d :=
  attempt_of_quiet _ h

/-! ### Moving -/

theorem rename_of_entries {source target : String} {names' : List String} {node : Node}
    (h : d.mishaps = []) (hsource : d.EntryAt source names) (htarget : d.EntryAt target names')
    (hnode : d.find? names = some node) (hfile : node ≠ .directory)
    (hthere : d.find? names' ≠ some .directory) :
    rename source target d = .ok () ((d.remove names).set names' node) := by
  obtain ⟨above, name, rfl, hspot, hfits⟩ := hsource
  obtain ⟨above', name', rfl, hspot', hfits'⟩ := htarget
  rw [rename, attempt_of_quiet _ h, ask_bind_of_ok hspot,
    ask_bind_of_ok hspot']
  dsimp only
  rw [ask_bind_of_ok (inside_of_fits hfits d above),
    ask_bind_of_ok (inside_of_fits hfits' d above'), hnode]
  cases node with
  | directory => exact absurd rfl hfile
  | file bytes mode serial =>
      simp only [Bool.or_self, Bool.false_eq_true, if_false, if_neg hthere]
      rfl
  | void =>
      simp only [Bool.or_self, Bool.false_eq_true, if_false, if_neg hthere]
      rfl

end Strongbox.Disk
