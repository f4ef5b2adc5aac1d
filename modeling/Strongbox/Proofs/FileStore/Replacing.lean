import Strongbox.Proofs.Disk.Growth
import Strongbox.Native.File
/-! How a document gets into its file, call by call, whichever of the calls fail: the directories above
are made, the document is written beside the file and moved into its place, or what was written is
removed. -/
namespace Strongbox.FileStore

variable {path : String} {disk disk' disk₁ : Disk} {bytes : ByteArray}

/-! ### Beside the file -/

theorem temporary_ne (name : String) : name ++ ".tmp" ≠ name := by
  intro h
  have hlength := congrArg String.length h
  rw [String.length_append] at hlength
  have htmp : ".tmp".length = 4 := rfl
  omega

theorem tmp_ne_of_length {name : String} (h : name.length < 4) (other : String) : other ++ ".tmp" ≠ name := by
  intro heq
  have hlength := congrArg String.length heq
  rw [String.length_append] at hlength
  have htmp : ".tmp".length = 4 := rfl
  omega

theorem start_temporary (disk : Disk) (path : String) : disk.start (temporary path) = disk.start path := by
  have habsolute : Path.isAbsolute (temporary path) = Path.isAbsolute path := by
    by_cases hempty : path = ""
    · subst hempty
      decide +kernel
    · exact Path.isAbsolute_append hempty ".tmp"
  unfold Disk.start Path.route
  rw [habsolute]

/-- The name beside the file, after the names that lead to both. -/
theorem route_temporary (path : String) : ∃ before last,
    (Path.route (temporary path)).names = before ++ [last ++ ".tmp"] ∧
      (Path.route path).names = before ++ if last = "" then [] else [last] :=
  Path.route_append (by decide) (by decide) path

/-- What is written beside a file is not written to it. -/
theorem elsewhere_temporary (path : String) (disk : Disk) : disk.Elsewhere path (temporary path) := by
  intro above name slash names hspot hentry
  obtain ⟨before, last, htemporary, hnames⟩ := route_temporary path
  obtain ⟨above', name', rfl, hspot', -⟩ := hentry
  obtain ⟨before', hbefore', hwalk', hdot', hup'⟩ := Disk.spot_eq_entry hspot'
  obtain ⟨before'', hbefore'', hwalk'', hdot'', hup''⟩ := Disk.spot_eq_entry hspot
  rw [htemporary] at hbefore'
  obtain ⟨rfl, hname'⟩ := List.append_inj' hbefore' rfl
  cases hname'
  rw [start_temporary] at hwalk'
  rw [hbefore''] at hnames
  by_cases hlast : last = ""
  · -- The file is named before a slash, so what is beside it is inside a directory of its name.
    rw [if_pos hlast, List.append_nil] at hnames
    subst hnames
    obtain ⟨next, hnext, hstep⟩ := Disk.walk_append_eq_ok hwalk'
    rw [hwalk''] at hnext
    cases hnext
    rw [Disk.walk] at hstep
    cases henter : disk.enter above name with
    | error e =>
        rw [henter] at hstep
        cases hstep
    | ok next =>
        rw [henter] at hstep
        cases hstep
        obtain ⟨rfl, -⟩ := Disk.enter_name hdot'' hup'' henter
        intro heq
        have hlength := congrArg List.length heq
        simp at hlength
  · rw [if_neg hlast] at hnames
    obtain ⟨rfl, hname⟩ := List.append_inj' hnames rfl
    cases hname
    rw [hwalk''] at hwalk'
    cases hwalk'
    intro heq
    have hsame := (List.append_inj' heq rfl).2
    exact temporary_ne name (List.cons.inj hsame).1.symm

/-! ### Writing -/

/-- The bytes are in the file, alone; if they could not be written, no other file has changed. -/
theorem writePrivate_cases (hsound : disk.Sound) (path : String) (bytes : ByteArray) :
    match writePrivate path bytes disk with
    | .ok () disk' => ∃ names mode serial, disk.EntryAt path names ∧ Disk.ChangedAt names disk disk' ∧
        disk'.find? names = some (.file bytes mode serial)
    | .error _ disk' => disk.Untouched disk' ∨ ∃ names, disk.EntryAt path names ∧
        Disk.ChangedAt names disk disk' ∧ disk'.find? names ≠ none := by
  rw [writePrivate]
  cases hopen : Disk.openEmpty path 0o600 disk with
  | error e disk₁ =>
      rw [Call.bind_of_error hopen]
      exact .inl (Disk.openEmpty_eq_error hopen)
  | ok handle disk₁ =>
      rw [Call.bind_of_ok hopen]
      obtain ⟨disk₂, huntouched₂, happend⟩ := Disk.append_cases handle bytes disk₁
      rcases Disk.openEmpty_cases hsound hopen with ⟨rfl, huntouched⟩ |
        ⟨names, mode, serial, rfl, hentry, hchanged, hfile⟩
      · -- A device takes the bytes, but it does not keep them.
        have hleft := huntouched.trans huntouched₂
        rcases happend with happend | ⟨e, part, happend⟩
        · obtain ⟨e, disk₃, huntouched₃, hsync⟩ := Disk.sync_void (Disk.extend .void bytes disk₂)
          rw [Call.bind_of_ok happend, hsync]
          exact .inl (hleft.trans huntouched₃)
        · rw [Call.bind_of_error happend]
          exact .inl hleft
      · have hchanged₂ := hchanged.untouched huntouched₂
        have hextend := (hchanged₂.evolves.sound hsound).changedAt_extend
          ((huntouched₂.find? names).trans hfile)
        rcases happend with happend | ⟨e, part, happend⟩
        · obtain ⟨hextend, hthere⟩ := hextend bytes
          rw [ByteArray.empty_append] at hthere
          rw [Call.bind_of_ok happend]
          obtain ⟨disk₃, huntouched₃, hsync | ⟨e, hsync⟩⟩ :=
            Disk.sync_file_cases serial (Disk.extend (.file serial) bytes disk₂)
          · rw [hsync]
            exact ⟨names, mode, serial, hentry, (hchanged₂.trans hextend).untouched huntouched₃,
              (huntouched₃.find? names).trans hthere⟩
          · rw [hsync]
            refine .inr ⟨names, hentry, (hchanged₂.trans hextend).untouched huntouched₃, ?_⟩
            rw [huntouched₃.find? names, hthere]
            simp
        · obtain ⟨hextend, hthere⟩ := hextend part
          rw [Call.bind_of_error happend]
          refine .inr ⟨names, hentry, hchanged₂.trans hextend, ?_⟩
          rw [hthere]
          simp

/-- Nothing has come of a change at the file, and nothing of it is left beside the file unless the
last call, which was to remove it, was struck. -/
structure Spared (path : String) (disk disk' : Disk) : Prop where
  evolves : disk.Evolves disk'
  file : disk'.nodeAt? path = disk.nodeAt? path
  beside : disk'.nodeAt? (temporary path) = disk.nodeAt? (temporary path) ∨
    disk'.nodeAt? (temporary path) = none ∨ disk.LastStruck disk'

theorem Spared.ofUntouched (h : disk.Untouched disk') : Spared path disk disk' :=
  ⟨h.evolves, h.nodeAt? path, .inl (h.nodeAt? (temporary path))⟩

/-- What came before has changed neither the file nor what is beside it. -/
theorem Spared.after (h' : Spared path disk₁ disk') (hevolves : disk.Evolves disk₁)
    (hfile : disk₁.nodeAt? path = disk.nodeAt? path)
    (hbeside : disk₁.nodeAt? (temporary path) = disk.nodeAt? (temporary path)) :
    Spared path disk disk' := by
  refine ⟨hevolves.trans h'.evolves, h'.file.trans hfile, ?_⟩
  rcases h'.beside with hsame | hnone | hlast
  · exact .inl (hsame.trans hbeside)
  · exact .inr (.inl hnone)
  · exact .inr (.inr (hlast.of_suffix hevolves.mishaps))

theorem Spared.after_untouched (h' : Spared path disk₁ disk') (h : disk.Untouched disk₁) :
    Spared path disk disk' :=
  h'.after h.evolves (h.nodeAt? path) (h.nodeAt? (temporary path))

/-- The file holds the bytes, and nothing has changed but what is at the file and beside it. -/
structure Replaced (path : String) (bytes : ByteArray) (disk disk' : Disk) : Prop where
  evolves : disk.Evolves disk'
  file : disk'.bytesAt? path = some bytes
  others : ∀ other, disk.Elsewhere other path → disk.Elsewhere other (temporary path) →
    disk'.nodeAt? other = disk.nodeAt? other

theorem Replaced.after_beside (h' : Replaced path bytes disk₁ disk') {names : List String}
    (hentry : disk.EntryAt (temporary path) names) (h : Disk.ChangedAt names disk disk₁) :
    Replaced path bytes disk disk' := by
  refine ⟨h.evolves.trans h'.evolves, h'.file, fun other hfile hbeside => ?_⟩
  have hsame := h'.others other (h.back.elsewhere hfile) (h.back.elsewhere hbeside)
  exact hsame.trans (h.nodeAt? hentry hbeside)

theorem renamed (hsound : disk.Sound) {names : List String} {mode serial : Nat}
    (hentry : disk.EntryAt (temporary path) names)
    (hfile : disk.find? names = some (.file bytes mode serial))
    (hmove : Disk.rename (temporary path) path disk = .ok () disk') :
    Replaced path bytes disk disk' := by
  obtain ⟨disk₁, source, target, node, huntouched, hsource, htarget, hnode, hplain, hthere, rfl⟩ :=
    Disk.rename_eq_ok hmove
  obtain rfl := hentry.unique hsource
  rw [hfile] at hnode
  cases hnode
  have hsource₁ := huntouched.keeps.entryAt hsource
  have htarget₁ := huntouched.keeps.entryAt htarget
  rw [← huntouched.find?] at hfile hthere
  have hremoved := Disk.removed_changedAt hsource₁ (by simp [hfile])
  have htarget₂ := hremoved.evolves.keeps.entryAt htarget₁
  have hne := hsource₁.ne_nil
  have hfree : ∀ names' bytes' mode', (disk₁.remove names).find? names' =
      some (.file bytes' mode' serial) → names' = target := by
    intro names' bytes' mode' hsame
    rw [Disk.find?_remove hne] at hsame
    by_cases heq : names' = names
    · rw [if_pos heq] at hsame
      cases hsame
    · rw [if_neg heq] at hsame
      exact absurd ((hsound.untouched huntouched).single hsame hfile) heq
  have hset : Disk.ChangedAt target (disk₁.remove names)
      ((disk₁.remove names).set target (.file bytes mode serial)) := by
    refine Disk.changedAt_set htarget₂ ?_ (Nat.le_refl _) ((hsound.untouched huntouched).fresh hfile)
      hfree
    rw [Disk.find?_remove hne]
    split
    · simp
    · exact hthere
  have hmoved : Replaced path bytes (disk₁.remove names)
      ((disk₁.remove names).set target (.file bytes mode serial)) := by
    refine ⟨hset.evolves, ?_, fun other hfile _ => hset.nodeAt? htarget₂ hfile⟩
    exact (hset.evolves.keeps.entryAt htarget₂).bytesAt?
      ((Disk.find?_set htarget.ne_nil _ _ _).trans (if_pos rfl))
  exact hmoved.after_beside hsource (.ofUntouched huntouched hremoved)

/-- Nothing has changed but what is beside the file, where something is left. -/
def LeftBeside (path : String) (disk disk' : Disk) : Prop :=
  ∃ names, disk.EntryAt (temporary path) names ∧ Disk.ChangedAt names disk disk' ∧
    disk'.find? names ≠ none

theorem replace_cases (hsound : disk.Sound) (path : String) (bytes : ByteArray) :
    match replace path bytes disk with
    | .ok () disk' => Replaced path bytes disk disk'
    | .error _ disk' => disk.Untouched disk' ∨ LeftBeside path disk disk' := by
  have hwrite := writePrivate_cases hsound (temporary path) bytes
  rw [FileStore.replace]
  cases hcall : writePrivate (temporary path) bytes disk with
  | error e disk₁ =>
      rw [hcall] at hwrite
      rw [Call.bind_of_error hcall]
      exact hwrite
  | ok _ disk₁ =>
      rw [hcall] at hwrite
      obtain ⟨names, mode, serial, hentry, hchanged, hfile⟩ := hwrite
      rw [Call.bind_of_ok hcall]
      cases hmove : Disk.rename (temporary path) path disk₁ with
      | ok _ disk₂ =>
          have hmoved := renamed (hchanged.evolves.sound hsound)
            (hchanged.evolves.keeps.entryAt hentry) hfile hmove
          exact hmoved.after_beside hentry hchanged
      | error e disk₂ =>
          have huntouched := Disk.rename_eq_error hmove
          refine .inr ⟨names, hentry, hchanged.untouched huntouched, ?_⟩
          rw [huntouched.find? names, hfile]
          simp

/-- What is left of a failed write is removed, or the removal fails. -/
theorem spared_of_removal (hleft : disk.Untouched disk₁ ∨ LeftBeside path disk disk₁) :
    Spared path disk (Call.after (Disk.removeFile (temporary path) disk₁)) := by
  cases hremove : Disk.removeFile (temporary path) disk₁ with
  | ok _ disk' =>
      obtain ⟨disk₂, names, huntouched, hentry, -, hdir, rfl⟩ := Disk.removeFile_eq_ok hremove
      rw [← huntouched.find?] at hdir
      have hremoved := Disk.ChangedAt.ofUntouched huntouched
        (Disk.removed_changedAt (huntouched.keeps.entryAt hentry) hdir)
      have hnone : (disk₂.remove names).nodeAt? (temporary path) = none := by
        rw [(hremoved.evolves.keeps.entryAt hentry).nodeAt?, Disk.find?_remove hentry.ne_nil, if_pos rfl]
      rcases hleft with hsame | ⟨names', hentry', hchanged, -⟩
      · exact ⟨hsame.evolves.trans hremoved.evolves,
          (hremoved.nodeAt? hentry (elsewhere_temporary path disk₁)).trans (hsame.nodeAt? path),
          .inr (.inl hnone)⟩
      · exact ⟨hchanged.evolves.trans hremoved.evolves,
          (hremoved.nodeAt? hentry (elsewhere_temporary path disk₁)).trans
            (hchanged.nodeAt? hentry' (elsewhere_temporary path disk)),
          .inr (.inl hnone)⟩
  | error e disk' =>
      obtain ⟨huntouched, hreason⟩ := Disk.removeFile_eq_error hremove
      rcases hleft with hsame | ⟨names, hentry, hchanged, hthere⟩
      · exact .ofUntouched (hsame.trans huntouched)
      · refine ⟨hchanged.evolves.trans huntouched.evolves,
          (huntouched.nodeAt? path).trans (hchanged.nodeAt? hentry (elsewhere_temporary path disk)),
          .inr (.inr ?_)⟩
        rcases hreason names (hchanged.evolves.keeps.entryAt hentry) with hnone | hdir | hlast
        · exact absurd hnone hthere
        · exact absurd hdir hchanged.after
        · exact hlast.of_suffix hchanged.evolves.mishaps

/-! ### Saving -/

/-- The path of a file steps back only out of directories that are there. -/
def Forward (path : String) (disk : Disk) : Prop :=
  ∃ before after place, disk.Onward path before after place

theorem forward_of_plain (h : ".." ∉ (Path.route path).names) (disk : Disk) : Forward path disk :=
  ⟨[], (Path.route path).names, disk.start path, rfl, rfl, h⟩

theorem Forward.of_keeps (h : Forward path disk) (hkeeps : disk.KeepsDirectories disk') :
    Forward path disk' := by
  obtain ⟨before, after, place, honward⟩ := h
  exact ⟨before, after, place, honward.of_keeps hkeeps⟩

/-- A path that leads somewhere has stepped back out of nothing that is missing. -/
theorem forward_of_spot {s : Disk.Spot} (h : disk.spot path = .ok s) : Forward path disk := by
  rcases Disk.spot_eq_ok h with ⟨hnil, -⟩ | ⟨before, last, above, hnames, hwalk, -⟩
  · exact ⟨[], [], _, hnil, rfl, List.not_mem_nil⟩
  · by_cases hup : last = ".."
    · refine ⟨before ++ [last], [], above.dropLast, by simp [hnames], ?_, List.not_mem_nil⟩
      rw [Disk.walk_append, hwalk, hup]
      rfl
    · exact ⟨before, [last], above, hnames, hwalk, by simpa using Ne.symm hup⟩

theorem onward_temporary {before after place : List String} (h : disk.Onward path before after place) :
    ∃ before' after' place', disk.Onward (temporary path) before' after' place' ∧
      (place ++ Disk.plain after).length ≤ (place' ++ Disk.plain after').length := by
  obtain ⟨init, last, htemporary, hnames⟩ := route_temporary path
  have hup : last ++ ".tmp" ≠ ".." := tmp_ne_of_length (by decide) last
  have hdot : last ++ ".tmp" ≠ "." := tmp_ne_of_length (by decide) last
  have hlead : ∀ {later : List String}, ".." ∉ later → ".." ∉ later ++ [last ++ ".tmp"] := by
    intro later hlater hmem
    rcases List.mem_append.1 hmem with hmem | hmem
    · exact hlater hmem
    · exact hup (List.mem_singleton.1 hmem).symm
  rw [h.names] at hnames
  by_cases hlast : last = ""
  · rw [if_pos hlast, List.append_nil] at hnames
    refine ⟨before, after ++ [last ++ ".tmp"], place, ⟨?_, ?_, hlead h.onward⟩, ?_⟩
    · rw [htemporary, ← hnames, List.append_assoc]
    · rw [start_temporary]
      exact h.walked
    · rw [Disk.plain_append, List.length_append, List.length_append, List.length_append]
      omega
  · rw [if_neg hlast] at hnames
    rcases List.eq_nil_or_concat after with rfl | ⟨later, last', rfl⟩
    · rw [List.append_nil] at hnames
      obtain ⟨above, hwalk, henter⟩ := h.last_walked hnames
      have hlength := Disk.length_enter henter
      refine ⟨init, [last ++ ".tmp"], above, ⟨htemporary, ?_, hlead List.not_mem_nil⟩, ?_⟩
      · rw [start_temporary]
        exact hwalk
      · rw [Disk.plain_cons hdot]
        simpa [Disk.plain] using hlength
    · rw [List.concat_eq_append] at h hnames ⊢
      rw [← List.append_assoc] at hnames
      obtain ⟨rfl, hsame⟩ := List.append_inj' hnames rfl
      cases hsame
      refine ⟨before, later ++ [last ++ ".tmp"], place, ⟨?_, ?_, hlead fun hmem => ?_⟩, ?_⟩
      · rw [htemporary, List.append_assoc]
      · rw [start_temporary]
        exact h.walked
      · exact h.onward (List.mem_append_left _ hmem)
      · have hone : (Disk.plain [last]).length ≤ 1 := List.length_filter_le ..
        rw [Disk.plain_concat hdot, Disk.plain_append]
        simp only [List.length_append, List.length_singleton]
        omega

theorem prepare_grown {before after place : List String} (h : disk.Onward path before after place) :
    Disk.Grown (place ++ Disk.plain after).length disk (Call.after (prepare path disk)) := by
  unfold prepare
  cases hparent : Path.parent? path with
  | none => exact (Disk.Untouched.refl disk).grown
  | some above =>
      rcases Path.above_of_parent? hparent with rfl | habove
      · exact (Disk.Untouched.refl disk).grown
      · obtain ⟨before', after', place', honward, hdepth⟩ := h.parent habove
        exact Disk.makeDirectories_grown ⟨before', after', place', honward, hdepth.imp_right And.right⟩

/-- The directories that are made lie above the file and what is beside it. -/
theorem prepared (hsound : disk.Sound) (hforward : Forward path disk)
    (h : Call.after (prepare path disk) = disk₁) : disk.Evolves disk₁ ∧
      disk₁.nodeAt? path = disk.nodeAt? path ∧
      disk₁.nodeAt? (temporary path) = disk.nodeAt? (temporary path) := by
  subst h
  obtain ⟨before, after, place, honward⟩ := hforward
  obtain ⟨before', after', place', honward', hdepth⟩ := onward_temporary honward
  have hgrown := prepare_grown honward
  exact ⟨hgrown.evolves, hgrown.nodeAt? hsound honward (Nat.le_refl _),
    hgrown.nodeAt? hsound honward' hdepth⟩

theorem save_eq (path : String) (d : StoreDocument) (disk : Disk) : save path d disk =
    match prepare path disk with
    | .error e disk => .error (ioFailure path "create directory for" e) disk
    | .ok () disk => match replace path d.render.toUTF8 disk with
      | .ok () disk => .ok () disk
      | .error e disk =>
        .error (ioFailure path "write" e) (Call.after (Disk.removeFile (temporary path) disk)) := by
  unfold save
  cases prepare path disk with
  | error e disk₁ => rfl
  | ok _ disk₁ =>
      dsimp only
      cases replace path d.render.toUTF8 disk₁ with
      | ok _ disk₂ => rfl
      | error e disk₂ =>
          dsimp only
          cases Disk.removeFile (temporary path) disk₂ <;> rfl

theorem prepare_evolves (path : String) (disk : Disk) :
    disk.Evolves (Call.after (prepare path disk)) := by
  unfold prepare
  cases Path.parent? path with
  | none => exact (Disk.Untouched.refl disk).evolves
  | some above => exact Disk.makeDirectories_evolves above disk

theorem save_evolves (hsound : disk.Sound) (path : String) (d : StoreDocument) :
    disk.Evolves (Call.after (save path d disk)) := by
  have hprepare := prepare_evolves path disk
  rw [save_eq]
  cases hcall : prepare path disk with
  | error e disk₁ =>
      rw [hcall] at hprepare
      exact hprepare
  | ok _ disk₁ =>
      rw [hcall, Call.after_ok] at hprepare
      have hreplaced := replace_cases (hprepare.sound hsound) path d.render.toUTF8
      dsimp only
      cases hreplace : replace path d.render.toUTF8 disk₁ with
      | ok _ disk₂ =>
          rw [hreplace] at hreplaced
          exact hprepare.trans hreplaced.evolves
      | error e disk₂ =>
          rw [hreplace] at hreplaced
          exact hprepare.trans (spared_of_removal hreplaced).evolves

/-- A document is saved, or the file is as it was. -/
theorem save_cases (hsound : disk.Sound) (hforward : Forward path disk) (d : StoreDocument) :
    match save path d disk with
    | .ok () disk' => disk.Evolves disk' ∧ disk'.bytesAt? path = some d.render.toUTF8
    | .error e disk' => (∃ text, e = .failed text) ∧ Spared path disk disk' := by
  rw [save_eq]
  cases hprepare : prepare path disk with
  | error e disk₁ =>
      obtain ⟨hevolves, hfile, hbeside⟩ := prepared hsound hforward (congrArg Call.after hprepare)
      exact ⟨⟨_, rfl⟩, hevolves, hfile, .inl hbeside⟩
  | ok _ disk₁ =>
      obtain ⟨hevolves, hfile, hbeside⟩ := prepared hsound hforward (congrArg Call.after hprepare)
      rw [Call.after_ok] at hevolves hfile hbeside
      have hreplaced := replace_cases (hevolves.sound hsound) path d.render.toUTF8
      dsimp only
      cases hreplace : replace path d.render.toUTF8 disk₁ with
      | ok _ disk₂ =>
          rw [hreplace] at hreplaced
          exact ⟨hevolves.trans hreplaced.evolves, hreplaced.file⟩
      | error e disk₂ =>
          rw [hreplace] at hreplaced
          exact ⟨⟨_, rfl⟩, (spared_of_removal hreplaced).after hevolves hfile hbeside⟩

end Strongbox.FileStore
