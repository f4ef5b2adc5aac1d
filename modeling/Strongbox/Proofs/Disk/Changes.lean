import Strongbox.Proofs.Disk.Sound
/-! What becomes of a path while calls change a disk: what any call keeps, and what a change at one
name leaves as it was everywhere else. -/
namespace Strongbox.Disk

variable {d d' d₁ : Disk} {path : String} {names : List String}

/-- What is there at a path, if anything is. -/
def nodeAt? (d : Disk) (path : String) : Option Node := (d.status path).toOption.map (·.2)

/-- A slash after a name asks for a directory. -/
def shown (slash : Bool) : Except IoError (Option Node) → Option Node
  | .ok (some node) => if slash = true ∧ node ≠ .directory then none else some node
  | _ => none

theorem nodeAt?_of_error {e : IoError} (h : d.spot path = .error e) : d.nodeAt? path = none := by
  unfold nodeAt? status
  rw [h]
  rfl

theorem nodeAt?_of_place {place : List String} (h : d.spot path = .ok (.place place)) :
    d.nodeAt? path = some .directory := by
  unfold nodeAt? status
  rw [h]
  rfl

theorem nodeAt?_of_entry {above : List String} {name : String} {slash : Bool}
    (h : d.spot path = .ok (.entry above name slash)) :
    d.nodeAt? path = shown slash (d.inside above name) := by
  unfold nodeAt? status
  rw [h]
  simp only [bind, Except.bind]
  match d.inside above name with
  | .error _ => rfl
  | .ok none => rfl
  | .ok (some .directory) => cases slash <;> rfl
  | .ok (some (.file _ _ _)) => cases slash <;> rfl
  | .ok (some .void) => cases slash <;> rfl

theorem existsAt_eq (d : Disk) (path : String) : d.existsAt path = (d.nodeAt? path).isSome := by
  rw [existsAt, nodeAt?, Option.isSome_map]

theorem Untouched.nodeAt? (h : d.Untouched d') (path : String) : d'.nodeAt? path = d.nodeAt? path := by
  rw [Disk.nodeAt?, h.status, Disk.nodeAt?]

theorem EntryAt.nodeAt? (h : d.EntryAt path names) : d.nodeAt? path = d.find? names := by
  rw [Disk.nodeAt?]
  cases hfind : d.find? names with
  | none =>
      rw [h.status_missing hfind]
      rfl
  | some node =>
      rw [h.status hfind]
      rfl

/-- Where the directories are the same, a path finds the same if its last name stands for the same. -/
theorem nodeAt?_of_same (hkeeps : d.KeepsDirectories d') (hback : d'.KeepsDirectories d)
    (h : ∀ above name slash, d.spot path = .ok (.entry above name slash) →
      d'.find? (above ++ [name]) = d.find? (above ++ [name])) : d'.nodeAt? path = d.nodeAt? path := by
  cases hspot : d.spot path with
  | error e =>
      rw [nodeAt?_of_error hspot]
      cases hspot' : d'.spot path with
      | error e' => exact nodeAt?_of_error hspot'
      | ok s => cases hspot.symm.trans (hback.spot hspot')
  | ok s =>
      have hspot' := hkeeps.spot hspot
      cases s with
      | place place => rw [nodeAt?_of_place hspot, nodeAt?_of_place hspot']
      | entry above name slash =>
          rw [nodeAt?_of_entry hspot, nodeAt?_of_entry hspot', inside, inside, h above name slash hspot]

/-- Whatever calls do, they take no directory away, and no link comes about. -/
structure Evolves (d d' : Disk) : Prop where
  keeps : d.KeepsDirectories d'
  sound : d.Sound → d'.Sound
  mishaps : d'.mishaps <:+ d.mishaps

theorem Evolves.trans (h : d.Evolves d₁) (h' : d₁.Evolves d') : d.Evolves d' :=
  ⟨h.keeps.trans h'.keeps, h'.sound ∘ h.sound, h'.mishaps.trans h.mishaps⟩

theorem Untouched.evolves (h : d.Untouched d') : d.Evolves d' :=
  ⟨h.keeps, fun hsound => hsound.untouched h, h.mishaps⟩

/-- Two paths do not lead to one name. -/
def Elsewhere (d : Disk) (other path : String) : Prop :=
  ∀ above name slash names, d.spot other = .ok (.entry above name slash) → d.EntryAt path names →
    above ++ [name] ≠ names

theorem KeepsDirectories.elsewhere (h : d'.KeepsDirectories d) {other : String}
    (helsewhere : d.Elsewhere other path) : d'.Elsewhere other path :=
  fun above name slash names hspot hentry =>
    helsewhere above name slash names (h.spot hspot) (h.entryAt hentry)

theorem Untouched.elsewhere (h : d.Untouched d') {other : String} (helsewhere : d.Elsewhere other path) :
    d'.Elsewhere other path := by
  intro above name slash names hspot hentry
  rw [h.spot] at hspot
  obtain ⟨above', name', hnames, hspot', hfits⟩ := hentry
  rw [h.spot] at hspot'
  exact helsewhere above name slash names hspot ⟨above', name', hnames, hspot', hfits⟩

/-- Nothing has changed but what is bound to one name, and that is no directory. -/
structure ChangedAt (names : List String) (d d' : Disk) : Prop where
  evolves : d.Evolves d'
  others : ∀ {other}, other ≠ names → d'.find? other = d.find? other
  before : d.find? names ≠ some .directory
  after : d'.find? names ≠ some .directory

namespace ChangedAt

theorem trans (h : ChangedAt names d d₁) (h' : ChangedAt names d₁ d') : ChangedAt names d d' :=
  ⟨h.evolves.trans h'.evolves, fun hne => (h'.others hne).trans (h.others hne), h.before, h'.after⟩

theorem untouched (h : ChangedAt names d d₁) (h' : d₁.Untouched d') : ChangedAt names d d' :=
  ⟨h.evolves.trans h'.evolves, fun hne => (h'.find? _).trans (h.others hne), h.before,
    (h'.find? names) ▸ h.after⟩

theorem ofUntouched (h : d.Untouched d₁) (h' : ChangedAt names d₁ d') : ChangedAt names d d' :=
  ⟨h.evolves.trans h'.evolves, fun hne => (h'.others hne).trans (h.find? _),
    (h.find? names) ▸ h'.before, h'.after⟩

theorem back (h : ChangedAt names d d') : d'.KeepsDirectories d := by
  refine ⟨h.evolves.keeps.here.symm, fun other hother => ?_⟩
  by_cases heq : other = names
  · exact absurd (heq ▸ hother) h.after
  · rwa [← h.others heq]

/-- A path that leads elsewhere finds what it found. -/
theorem nodeAt? (h : ChangedAt names d d') {other : String} (hentry : d.EntryAt path names)
    (helsewhere : d.Elsewhere other path) : d'.nodeAt? other = d.nodeAt? other :=
  nodeAt?_of_same h.evolves.keeps h.back fun above name slash hspot =>
    h.others (helsewhere above name slash names hspot hentry)

end ChangedAt

/-- A name is bound to a file. -/
theorem changedAt_set {bytes : ByteArray} {mode own serial : Nat} (hentry : d.EntryAt path names)
    (hdir : d.find? names ≠ some .directory) (hserial : d.serial ≤ serial) (hown : own < serial)
    (hsingle : ∀ names' bytes' mode', d.find? names' = some (.file bytes' mode' own) → names' = names) :
    ChangedAt names d { d.set names (.file bytes mode own) with serial := serial } := by
  have hne := hentry.ne_nil
  have hkeeps := set_keeps (.file bytes mode own) hne hdir
  have hfind := find?_set hne d (.file bytes mode own)
  refine ⟨⟨⟨hkeeps.here, hkeeps.directories⟩, fun hsound => ?_, List.suffix_rfl⟩,
    fun hother => (hfind _).trans (if_neg hother), hdir, ?_⟩
  · obtain ⟨above, name, rfl, hspot, -⟩ := hentry
    refine hsound.bind (hsound.directory_of_spot hspot) hdir hserial ?_
    rintro bytes' mode' own' ⟨⟩
    exact ⟨hown, hsingle⟩
  · have hthere := (hfind names).trans (if_pos rfl)
    exact fun h => by cases hthere.symm.trans h

/-- A name that was free is bound to a new file. -/
theorem Sound.changedAt_create (h : d.Sound) (hentry : d.EntryAt path names)
    (hfree : d.find? names = none) (mode : Nat) :
    ChangedAt names d { d.set names (.file .empty mode d.serial) with serial := d.serial + 1 } := by
  refine changedAt_set hentry (by simp [hfree]) (Nat.le_succ _) (Nat.lt_succ_self _) ?_
  intro names' bytes' mode' hfile'
  exact absurd (h.fresh hfile') (Nat.lt_irrefl _)

/-- A file that is opened for writing is there, empty. -/
theorem openEmpty_cases {mode : Nat} {handle : Handle} (hsound : d.Sound)
    (h : openEmpty path mode d = .ok handle d') :
    (handle = .void ∧ d.Untouched d') ∨ ∃ names mode' serial, handle = .file serial ∧
      d.EntryAt path names ∧ ChangedAt names d d' ∧
      d'.find? names = some (.file .empty mode' serial) := by
  obtain ⟨d₀, names, huntouched, hentry, ⟨-, rfl, rfl⟩ | ⟨bytes, mode', serial, hfile, rfl, rfl⟩ |
    ⟨hfree, rfl, rfl⟩⟩ := openEmpty_eq_ok h
  · exact .inl ⟨rfl, huntouched⟩
  · have hentry₀ := huntouched.keeps.entryAt hentry
    have hfile₀ := (huntouched.find? names).trans hfile
    have hsound₀ := hsound.untouched huntouched
    refine .inr ⟨names, mode', serial, rfl, hentry, .ofUntouched huntouched ?_, ?_⟩
    · exact changedAt_set hentry₀ (by simp [hfile₀]) (Nat.le_refl _) (hsound₀.fresh hfile₀)
        fun names' bytes' mode'' hfile' => hsound₀.single hfile' hfile₀
    · exact (find?_set hentry.ne_nil _ _ _).trans (if_pos rfl)
  · have hentry₀ := huntouched.keeps.entryAt hentry
    have hfree₀ := (huntouched.find? names).trans hfree
    have hsound₀ := hsound.untouched huntouched
    refine .inr ⟨names, mode, d.serial, rfl, hentry, .ofUntouched huntouched ?_, ?_⟩
    · rw [← huntouched.serial]
      exact hsound₀.changedAt_create hentry₀ hfree₀ mode
    · exact (find?_set hentry.ne_nil _ _ _).trans (if_pos rfl)

/-- A file that is opened for appending keeps what it holds; one that was missing is there, empty. -/
theorem openAppend_cases {handle : Handle} (hsound : d.Sound) (h : openAppend path d = .ok handle d') :
    (handle = .void ∧ d.Untouched d') ∨ ∃ names mode serial, handle = .file serial ∧
      d.EntryAt path names ∧
        (((∃ bytes, d.find? names = some (.file bytes mode serial)) ∧ d.Untouched d') ∨
          (d.find? names = none ∧ ChangedAt names d d' ∧
            d'.find? names = some (.file .empty mode serial))) := by
  obtain ⟨d₀, names, huntouched, hentry, ⟨-, rfl, rfl⟩ | ⟨bytes, mode, serial, hfile, rfl, rfl⟩ |
    ⟨hfree, rfl, rfl⟩⟩ := openFile_eq_ok h
  · exact .inl ⟨rfl, huntouched⟩
  · exact .inr ⟨names, mode, serial, rfl, hentry, .inl ⟨⟨bytes, hfile⟩, huntouched⟩⟩
  · have hentry₀ := huntouched.keeps.entryAt hentry
    have hfree₀ := (huntouched.find? names).trans hfree
    have hcreated := (hsound.untouched huntouched).changedAt_create hentry₀ hfree₀ 0o644
    rw [huntouched.serial] at hcreated
    refine .inr ⟨names, 0o644, d.serial, rfl, hentry, .inr ⟨hfree, .ofUntouched huntouched hcreated, ?_⟩⟩
    exact (find?_set hentry.ne_nil _ _ _).trans (if_pos rfl)

theorem openAppend_evolves (hsound : d.Sound) (path : String) :
    d.Evolves (Call.after (openAppend path d)) := by
  cases hopen : openAppend path d with
  | error e d' => exact (openFile_eq_error hopen).evolves
  | ok handle d' =>
      rcases openAppend_cases hsound hopen with ⟨-, huntouched⟩ |
        ⟨names, mode, serial, -, -, ⟨-, huntouched⟩ | ⟨-, hchanged, -⟩⟩
      · exact huntouched.evolves
      · exact huntouched.evolves
      · exact hchanged.evolves

/-- What is written to a file shows at its name alone. -/
theorem Sound.changedAt_extend (h : d.Sound) {old : ByteArray} {mode serial : Nat}
    (hfile : d.find? names = some (.file old mode serial)) (bytes : ByteArray) :
    ChangedAt names d (Disk.extend (.file serial) bytes d) ∧
      (Disk.extend (.file serial) bytes d).find? names = some (.file (old ++ bytes) mode serial) := by
  have hthere : (Disk.extend (.file serial) bytes d).find? names =
      some (.file (old ++ bytes) mode serial) := by
    rw [find?_extend, hfile]
    simp [extended]
  refine ⟨⟨⟨(extend_keeps serial bytes d).1, fun h => h.extend _ bytes, List.suffix_rfl⟩,
    fun {other} hother => ?_, by simp [hfile], by simp [hthere]⟩, hthere⟩
  rw [find?_extend]
  cases hfound : d.find? other with
  | none => rfl
  | some node =>
      cases node with
      | void => rfl
      | directory => rfl
      | file bytes' mode' own =>
          have hown : own ≠ serial := by
            rintro rfl
            exact hother (h.single hfound hfile)
          simp [extended, hown]

theorem removed_changedAt (hentry : d.EntryAt path names) (hdir : d.find? names ≠ some .directory) :
    ChangedAt names d (d.remove names) := by
  have hne := hentry.ne_nil
  refine ⟨⟨remove_keeps hne hdir, fun h => h.remove hne hdir, List.suffix_rfl⟩,
    fun hother => (find?_remove hne d _).trans (if_neg hother), hdir, ?_⟩
  rw [find?_remove hne, if_pos rfl]
  simp

end Strongbox.Disk
