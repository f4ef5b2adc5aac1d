import Strongbox.Proofs.Disk.Calls
import Strongbox.Proofs.Disk.Growth
import Strongbox.Native.File
/-! When a document can be saved. One that was saved is enough to know that every later one can be,
since saving changes no directory and leaves only a file behind. -/
namespace Strongbox.FileStore

variable {path : String} {disk disk' : Disk}

/-- The directory that a store file belongs in is there. -/
def Housed (path : String) (disk : Disk) : Prop :=
  ∀ above, Path.parent? path = some above → above = "" ∨ disk.isDirectoryAt above = true

theorem prepare_eq_ok (h : disk.mishaps = []) (hprepare : prepare path disk = .ok () disk') :
    disk'.mishaps = [] ∧ Housed path disk' := by
  unfold prepare at hprepare
  cases hparent : Path.parent? path with
  | none =>
      rw [hparent] at hprepare
      cases hprepare
      refine ⟨h, fun above habove => ?_⟩
      rw [hparent] at habove
      cases habove
  | some above =>
      rw [hparent] at hprepare
      obtain ⟨hevolves, hdir⟩ := Disk.makeDirectories_eq_ok hprepare
      have hmishaps := hevolves.mishaps
      rw [h, List.suffix_nil] at hmishaps
      refine ⟨hmishaps, fun above' habove => ?_⟩
      rw [hparent] at habove
      cases habove
      exact hdir

theorem prepare_untouched (hhoused : Housed path disk) :
    ∃ disk', prepare path disk = .ok () disk' ∧ disk.Untouched disk' := by
  unfold prepare
  cases hparent : Path.parent? path with
  | none => exact ⟨disk, rfl, .refl disk⟩
  | some above => exact Disk.makeDirectories_of_directory (hhoused above hparent)

theorem prepare_of_housed (h : disk.mishaps = []) (hhoused : Housed path disk) :
    prepare path disk = .ok () disk := by
  obtain ⟨disk', hprepare, huntouched⟩ := prepare_untouched hhoused
  rwa [huntouched.eq_of_quiet h] at hprepare

theorem Housed.of_keeps (h : Housed path disk) (hkeeps : disk.KeepsDirectories disk') :
    Housed path disk' := fun above habove =>
  (h above habove).imp_right hkeeps.isDirectoryAt

/-- A document can be put in the file: neither it nor the temporary file is a directory, and the
temporary file keeps what is written to it. -/
structure Ready (path : String) (disk : Disk) : Prop where
  quiet : disk.mishaps = []
  housed : Housed path disk
  beside : ∃ names, disk.EntryAt (temporary path) names ∧
    disk.find? names ≠ some .directory ∧ disk.find? names ≠ some .void
  target : ∃ names, disk.EntryAt path names ∧ disk.find? names ≠ some .directory

theorem writePrivate_of_entry {names : List String} (bytes : ByteArray) (h : disk.mishaps = [])
    (hentry : disk.EntryAt path names) (hdir : disk.find? names ≠ some .directory)
    (hvoid : disk.find? names ≠ some .void) :
    ∃ disk', writePrivate path bytes disk = .ok () disk' ∧ disk'.mishaps = [] ∧
      disk.KeepsDirectories disk' ∧ disk'.KeepsDirectories disk ∧
      ∃ mode serial, disk'.find? names = some (.file bytes mode serial) := by
  obtain ⟨serial, disk₁, hopen, hquiet, hkeeps, hback, mode, hempty⟩ :=
    Disk.openEmpty_of_entry 0o600 h hentry hdir hvoid
  obtain ⟨hextend, hextendBack⟩ := Disk.extend_keeps serial bytes disk₁
  have hafter : (Disk.extend (.file serial) bytes disk₁).mishaps = [] := hquiet
  refine ⟨Disk.extend (.file serial) bytes disk₁, ?_, hafter, hkeeps.trans hextend,
    hextendBack.trans hback, mode, serial, ?_⟩
  · rw [writePrivate, Call.bind_of_ok hopen, Call.bind_of_ok (Disk.append_of_quiet hquiet _ _)]
    exact Disk.sync_of_quiet hafter _
  · rw [Disk.find?_extend, hempty]
    simp only [Option.map_some, Disk.extended, if_true, ByteArray.empty_append]

theorem Ready.replace (h : Ready path disk) (bytes : ByteArray) :
    ∃ disk', replace path bytes disk = .ok () disk' ∧ Ready path disk' ∧
      disk'.bytesAt? path = some bytes := by
  obtain ⟨names, hentry, hdir, hvoid⟩ := h.beside
  obtain ⟨names', hentry', hdir'⟩ := h.target
  obtain ⟨disk₁, hwrite, hquiet, hkeeps, hback, mode, serial, hfile⟩ :=
    writePrivate_of_entry bytes h.quiet hentry hdir hvoid
  -- Writing beside the file made no directory, so there is none at the file either.
  have hthere : disk₁.find? names' ≠ some .directory :=
    fun hfound => hdir' (hback.directories _ hfound)
  have hmove := Disk.rename_of_entries hquiet (hkeeps.entryAt hentry) (hkeeps.entryAt hentry') hfile
    (by simp) hthere
  have hfinal := Disk.find?_move (.file bytes mode serial) hentry.ne_nil hentry'.ne_nil disk₁
  have hkeep := hkeeps.trans (Disk.move_keeps (.file bytes mode serial) hentry.ne_nil
    hentry'.ne_nil (by simp [hfile]) hthere)
  have hfound := (hfinal names').trans (if_pos rfl)
  refine ⟨(disk₁.remove names).set names' (.file bytes mode serial), ?_,
    ⟨hquiet, h.housed.of_keeps hkeep, ⟨names, hkeep.entryAt hentry, ?_, ?_⟩,
      names', hkeep.entryAt hentry', ?_⟩, (hkeep.entryAt hentry').bytesAt? hfound⟩
  · rw [FileStore.replace, Call.bind_of_ok hwrite]
    exact hmove
  · rw [hfinal]
    by_cases heq : names = names' <;> simp [heq]
  · rw [hfinal]
    by_cases heq : names = names' <;> simp [heq]
  · simp [hfound]

/-- What putting a document in a file needs, seen from a time when it worked. -/
theorem ready_of_replace {bytes : ByteArray} (h : disk.mishaps = []) (hhoused : Housed path disk)
    (hreplace : replace path bytes disk = .ok () disk') : Ready path disk := by
  obtain ⟨⟨⟩, disk₁, hwrite, hmove⟩ := Call.bind_eq_ok hreplace
  obtain ⟨handle, disk₂, hopen, hwritten⟩ := Call.bind_eq_ok hwrite
  have hready : ∀ names, disk.EntryAt (temporary path) names → disk.find? names ≠ some .directory →
      disk.find? names ≠ some .void → Ready path disk := by
    intro names hentry hdir hvoid
    obtain ⟨disk₃, hwrite', hquiet, hkeeps, hback, -⟩ :=
      writePrivate_of_entry bytes h hentry hdir hvoid
    rw [hwrite] at hwrite'
    cases hwrite'
    obtain ⟨disk₄, source, names', node, -, -, htarget, -, -, hthere, -⟩ := Disk.rename_eq_ok hmove
    exact ⟨h, hhoused, ⟨names, hentry, hdir, hvoid⟩, names', hback.entryAt htarget,
      fun hfound => hthere (hkeeps.directories _ hfound)⟩
  obtain ⟨disk₃, names, huntouched, hentry, ⟨hvoid, rfl, rfl⟩ | ⟨old, mode, serial, hfile, -, -⟩ |
    ⟨hfree, -, -⟩⟩ := Disk.openEmpty_eq_ok hopen
  · -- A device takes what is written, but it is not known to be there.
    rw [huntouched.eq_of_quiet h, Call.bind_of_ok (Disk.append_of_quiet h _ _)] at hwritten
    obtain ⟨e, disk₄, -, hsync⟩ := Disk.sync_void (Disk.extend .void bytes disk)
    rw [hsync] at hwritten
    cases hwritten
  · exact hready names hentry (by simp [hfile]) (by simp [hfile])
  · exact hready names hentry (by simp [hfree]) (by simp [hfree])

/-- Calls on the disk go well: nothing strikes them, and a document that is saved is in the file. -/
def Saves (path : String) (disk : Disk) : Prop :=
  disk.mishaps = [] ∧ ∃ d disk', save path d disk = .ok () disk' ∧
    disk'.bytesAt? path = some d.render.toUTF8

theorem Ready.save (h : Ready path disk) (d : StoreDocument) :
    ∃ disk', save path d disk = .ok () disk' ∧ Ready path disk' ∧
      disk'.bytesAt? path = some d.render.toUTF8 := by
  obtain ⟨disk', hreplace, hready, hbytes⟩ := h.replace d.render.toUTF8
  refine ⟨disk', ?_, hready, hbytes⟩
  unfold FileStore.save
  rw [prepare_of_housed h.quiet h.housed]
  dsimp only
  rw [hreplace]

theorem Ready.saves (h : Ready path disk) : Saves path disk := by
  obtain ⟨disk', hsave, -, hbytes⟩ := h.save .empty
  exact ⟨h.quiet, .empty, disk', hsave, hbytes⟩

/-- Once the directory is made, a disk on which something was saved is ready. -/
theorem Saves.prepare (h : Saves path disk) :
    ∃ disk', prepare path disk = .ok () disk' ∧ Ready path disk' := by
  obtain ⟨hquiet, d, after, hsave, -⟩ := h
  unfold save at hsave
  cases hprepare : FileStore.prepare path disk with
  | error e disk₁ =>
      rw [hprepare] at hsave
      cases hsave
  | ok _ disk₁ =>
      rw [hprepare] at hsave
      dsimp only at hsave
      obtain ⟨hquiet', hhoused⟩ := prepare_eq_ok hquiet hprepare
      refine ⟨disk₁, rfl, ?_⟩
      cases hreplace : replace path d.render.toUTF8 disk₁ with
      | ok _ disk₂ =>
          rw [hreplace] at hsave
          cases hsave
          exact ready_of_replace hquiet' hhoused hreplace
      | error e disk₂ =>
          rw [hreplace] at hsave
          dsimp only at hsave
          cases hremove : Disk.removeFile (temporary path) disk₂ <;>
            rw [hremove] at hsave <;> cases hsave

/-- Every document can be saved where one could be, and then the next one. -/
theorem Saves.save (h : Saves path disk) (d : StoreDocument) :
    ∃ disk', save path d disk = .ok () disk' ∧ Saves path disk' ∧
      disk'.bytesAt? path = some d.render.toUTF8 := by
  obtain ⟨disk₁, hprepare, hready⟩ := h.prepare
  obtain ⟨disk', hsave, hready', hbytes⟩ := hready.save d
  refine ⟨disk', ?_, hready'.saves, hbytes⟩
  rw [← hsave]
  unfold FileStore.save
  rw [hprepare, prepare_of_housed hready.quiet hready.housed]

/-- A new file in the working directory of a disk with nothing on it. -/
theorem ready_blank : Ready "store.json" ⟨[], [], [], 0⟩ where
  quiet := rfl
  housed := by
    intro above habove
    have hparent : Path.parent? "store.json" = some "" := by decide +kernel
    exact .inl (Option.some.inj (habove.symm.trans hparent))
  beside := ⟨_, Disk.entryAt_of_name (by decide +kernel) (by decide +kernel) (by decide)
    (by decide +kernel), by decide, by decide⟩
  target := ⟨_, Disk.entryAt_of_name (by decide +kernel) (by decide +kernel) (by decide)
    (by decide +kernel), by decide⟩

end Strongbox.FileStore
