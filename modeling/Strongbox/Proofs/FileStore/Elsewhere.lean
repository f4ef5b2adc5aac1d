import Strongbox.Proofs.FileStore.Atomicity
import Strongbox.Proofs.FileStore.Saving
/-! A store changes its own file and the temporary file beside it, and no other file, whichever calls on
the disk fail. -/
namespace Strongbox.FileStore

variable {path other : String} {disk disk' : Disk}

/-- Another file than that of a store, and than the one beside it. -/
structure Other (path other : String) (disk : Disk) : Prop where
  file : disk.Elsewhere other path
  beside : disk.Elsewhere other (temporary path)

/-- The name of a file in the working directory. -/
structure IsName (name : String) : Prop where
  route : Path.route name = ⟨false, [name], false⟩
  parent : Path.parent? name = some ""
  chars : name.toList.contains (Char.ofNat 0) = false
  dots : ¬ (name = "." ∨ name = "..")
  fits : name.utf8ByteSize ≤ Disk.nameLimit

instance (name : String) : Decidable (IsName name) :=
  decidable_of_iff (Path.route name = ⟨false, [name], false⟩ ∧ Path.parent? name = some "" ∧
      name.toList.contains (Char.ofNat 0) = false ∧ ¬ (name = "." ∨ name = "..") ∧
      name.utf8ByteSize ≤ Disk.nameLimit)
    ⟨fun ⟨route, parent, chars, dots, fits⟩ => ⟨route, parent, chars, dots, fits⟩,
      fun ⟨route, parent, chars, dots, fits⟩ => ⟨route, parent, chars, dots, fits⟩⟩

theorem IsName.entryAt {name : String} (h : IsName name) (disk : Disk) :
    disk.EntryAt name (disk.here ++ [name]) :=
  Disk.entryAt_of_name h.route h.chars h.dots h.fits

theorem IsName.housed (h : IsName path) (disk : Disk) : Housed path disk := by
  intro above habove
  exact .inl (Option.some.inj (habove.symm.trans h.parent))

theorem IsName.ready (h : IsName path) (hbeside : IsName (temporary path)) (hquiet : disk.mishaps = [])
    (htarget : disk.find? (disk.here ++ [path]) ≠ some .directory)
    (hdir : disk.find? (disk.here ++ [temporary path]) ≠ some .directory)
    (hvoid : disk.find? (disk.here ++ [temporary path]) ≠ some .void) : Ready path disk where
  quiet := hquiet
  housed := h.housed disk
  beside := ⟨_, hbeside.entryAt disk, hdir, hvoid⟩
  target := ⟨_, h.entryAt disk, htarget⟩

theorem IsName.elsewhere (h : IsName path) (hother : IsName other) (hne : other ≠ path) (disk : Disk) :
    disk.Elsewhere other path := by
  intro above name slash names hspot hentry
  obtain ⟨above', name', hnames', hspot', -⟩ := hother.entryAt disk
  rw [hspot] at hspot'
  cases hspot'
  rw [← hnames', hentry.unique (h.entryAt disk)]
  intro heq
  exact hne (List.cons.inj (List.append_cancel_left heq)).1

theorem Other.untouched (h : Other path other disk) (huntouched : disk.Untouched disk') :
    Other path other disk' :=
  ⟨huntouched.elsewhere h.file, huntouched.elsewhere h.beside⟩

theorem removal_elsewhere (hbeside : disk.Elsewhere other (temporary path)) :
    (Call.after (Disk.removeFile (temporary path) disk)).nodeAt? other = disk.nodeAt? other := by
  cases hremove : Disk.removeFile (temporary path) disk with
  | ok _ disk' =>
      obtain ⟨disk₁, names, huntouched, hentry, -, hdir, rfl⟩ := Disk.removeFile_eq_ok hremove
      rw [← huntouched.find?] at hdir
      have hentry₁ := huntouched.keeps.entryAt hentry
      have hremoved := Disk.removed_changedAt hentry₁ hdir
      calc (disk₁.remove names).nodeAt? other
          = disk₁.nodeAt? other := hremoved.nodeAt? hentry₁ (huntouched.elsewhere hbeside)
        _ = disk.nodeAt? other := huntouched.nodeAt? other
  | error e disk' => exact (Disk.removeFile_eq_error hremove).1.nodeAt? other

theorem replace_elsewhere (hsound : disk.Sound) (h : Other path other disk) (bytes : ByteArray) :
    match replace path bytes disk with
    | .ok () disk' => disk'.nodeAt? other = disk.nodeAt? other
    | .error _ disk' => disk'.nodeAt? other = disk.nodeAt? other ∧
        disk'.Elsewhere other (temporary path) := by
  have hcases := replace_cases hsound path bytes
  cases hcall : replace path bytes disk with
  | ok _ disk' =>
      rw [hcall] at hcases
      exact hcases.others other h.file h.beside
  | error e disk' =>
      rw [hcall] at hcases
      rcases hcases with huntouched | ⟨names, hentry, hchanged, -⟩
      · exact ⟨huntouched.nodeAt? other, huntouched.elsewhere h.beside⟩
      · exact ⟨hchanged.nodeAt? hentry h.beside, hchanged.back.elsewhere h.beside⟩

theorem save_elsewhere (hsound : disk.Sound) (hhoused : Housed path disk) (h : Other path other disk)
    (d : StoreDocument) : (Call.after (save path d disk)).nodeAt? other = disk.nodeAt? other := by
  obtain ⟨disk₁, hprepare, huntouched⟩ := prepare_untouched hhoused
  have hreplaced := replace_elsewhere (hsound.untouched huntouched) (h.untouched huntouched)
    d.render.toUTF8
  rw [save_eq, hprepare]
  dsimp only
  cases hreplace : replace path d.render.toUTF8 disk₁ with
  | ok _ disk₂ =>
      rw [hreplace] at hreplaced
      exact hreplaced.trans (huntouched.nodeAt? other)
  | error e disk₂ =>
      rw [hreplace] at hreplaced
      exact (removal_elsewhere hreplaced.2).trans (hreplaced.1.trans (huntouched.nodeAt? other))

theorem put_elsewhere (hsound : disk.Sound) (hhoused : Housed path disk) (h : Other path other disk)
    (key : NativeKey) (blob : String) :
    (Call.after (put path key blob disk)).nodeAt? other = disk.nodeAt? other := by
  rw [put]
  refine after_load_bind (fun _ huntouched => huntouched.nodeAt? other) fun d disk' huntouched => ?_
  have hsaved := save_elsewhere (hsound.untouched huntouched) (hhoused.of_keeps huntouched.keeps)
    (h.untouched huntouched) (({ d with version := StoreDocument.currentVersion } :
      StoreDocument).insert key.service key.key blob)
  exact hsaved.trans (huntouched.nodeAt? other)

theorem delete_elsewhere (hsound : disk.Sound) (hhoused : Housed path disk) (h : Other path other disk)
    (key : NativeKey) : (Call.after (delete path key disk)).nodeAt? other = disk.nodeAt? other := by
  rw [delete]
  refine after_load_bind (fun _ huntouched => huntouched.nodeAt? other) fun d disk' huntouched => ?_
  by_cases hentry : (d.get? key.service key.key).isSome = true
  · rw [if_pos hentry]
    have hsaved := save_elsewhere (hsound.untouched huntouched) (hhoused.of_keeps huntouched.keeps)
      (h.untouched huntouched) (d.erase key.service key.key)
    cases hsave : save path (d.erase key.service key.key) disk' with
    | ok _ disk'' =>
        rw [hsave] at hsaved
        rw [Call.bind_of_ok hsave]
        exact hsaved.trans (huntouched.nodeAt? other)
    | error e disk'' =>
        rw [hsave] at hsaved
        rw [Call.bind_of_error hsave]
        exact hsaved.trans (huntouched.nodeAt? other)
  · rw [if_neg hentry]
    exact huntouched.nodeAt? other

end Strongbox.FileStore
