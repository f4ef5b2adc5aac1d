import Strongbox.Proofs.Disk.Mishaps
/-! Disks as a system without links keeps them: whatever is there lies in directories up to the root,
and what is written to a file shows at no other name. Every change that a call makes keeps a disk so. -/
namespace Strongbox.Disk

structure Sound (d : Disk) : Prop where
  homed : d.find? d.here = some .directory
  rooted : ∀ {above name node}, d.find? (above ++ [name]) = some node → d.find? above = some .directory
  single : ∀ {names names' bytes bytes' mode mode' serial},
    d.find? names = some (.file bytes mode serial) →
      d.find? names' = some (.file bytes' mode' serial) → names = names'
  fresh : ∀ {names bytes mode serial}, d.find? names = some (.file bytes mode serial) →
    serial < d.serial

variable {d d' : Disk} {path : String} {names above above' : List String} {name : String}

theorem Sound.untouched (h : d.Sound) (huntouched : d.Untouched d') : d'.Sound := by
  obtain ⟨later, -, rfl⟩ := huntouched
  exact ⟨h.homed, h.rooted, h.single, h.fresh⟩

theorem sound_blank (mishaps : List (Option Mishap)) : Sound ⟨[], [], mishaps, 0⟩ := by
  have hnone : ∀ {names node}, (⟨[], [], mishaps, 0⟩ : Disk).find? names = some node →
      names = [] ∧ node = .directory := by
    intro names node h
    cases names with
    | nil =>
        cases h
        exact ⟨rfl, rfl⟩
    | cons name later => cases h
  refine ⟨rfl, fun h => ?_, fun h => ?_, fun h => ?_⟩
  · exact absurd (hnone h).1 (by simp)
  · cases (hnone h).2
  · cases (hnone h).2

/-! ### Where paths lead -/

theorem Sound.directory_of_append (h : d.Sound) {later : List String} {node : Node} (hne : later ≠ [])
    (hfind : d.find? (names ++ later) = some node) : d.find? names = some .directory := by
  induction later generalizing names with
  | nil => exact absurd rfl hne
  | cons name later ih =>
      by_cases hlater : later = []
      · subst hlater
        exact h.rooted hfind
      · exact h.rooted (ih hlater (by rwa [List.append_assoc]))

theorem Sound.enter (h : d.Sound) (habove : d.find? above = some .directory)
    (henter : d.enter above name = .ok above') : d.find? above' = some .directory := by
  unfold Disk.enter at henter
  by_cases hdot : name = "."
  · rw [if_pos hdot] at henter
    cases henter
    exact habove
  · by_cases hup : name = ".."
    · rw [if_neg hdot, if_pos hup] at henter
      cases henter
      by_cases hroot : above = []
      · rw [hroot]
        rfl
      · rw [← List.dropLast_concat_getLast hroot] at habove
        exact h.rooted habove
    · rw [if_neg hdot, if_neg hup] at henter
      cases hin : d.inside above name with
      | error e =>
          rw [hin] at henter
          cases henter
      | ok found =>
          rw [hin] at henter
          match found with
          | none => cases henter
          | some (.file _ _ _) => cases henter
          | some .void => cases henter
          | some .directory =>
              cases henter
              exact (inside_eq_ok hin).2

theorem Sound.walk (h : d.Sound) (habove : d.find? above = some .directory)
    (hwalk : d.walk above names = .ok above') : d.find? above' = some .directory := by
  induction names generalizing above with
  | nil =>
      cases hwalk
      exact habove
  | cons name later ih =>
      rw [Disk.walk] at hwalk
      cases henter : d.enter above name with
      | error e =>
          rw [henter] at hwalk
          cases hwalk
      | ok next =>
          rw [henter] at hwalk
          exact ih (h.enter habove henter) hwalk

theorem Sound.start (h : d.Sound) (path : String) : d.find? (d.start path) = some .directory := by
  unfold Disk.start
  split
  · rfl
  · exact h.homed

/-- A path that leads somewhere is walked up to its last name; dots are followed, other names are not
yet looked up. -/
theorem spot_eq_ok {s : Spot} (h : d.spot path = .ok s) :
    ((Path.route path).names = [] ∧ s = .place (d.start path)) ∨
      ∃ before last above, (Path.route path).names = before ++ [last] ∧
        d.walk (d.start path) before = .ok above ∧
        (((last = "." ∨ last = "..") ∧ ∃ place, s = .place place) ∨
          (last ≠ "." ∧ last ≠ "..") ∧ s = .entry above last (Path.route path).slash) := by
  unfold spot at h
  split at h
  · cases h
  split at h
  · cases h
  split at h
  · cases h
  unfold spotOn at h
  simp only [bind, Except.bind] at h
  cases hlast : (Path.route path).names.getLast? with
  | none =>
      rw [hlast] at h
      cases h
      exact .inl ⟨List.getLast?_eq_none_iff.1 hlast, rfl⟩
  | some last =>
      rw [hlast] at h
      dsimp only at h
      obtain ⟨before, hnames⟩ := List.getLast?_eq_some_iff.1 hlast
      rw [← Disk.start, hnames, List.dropLast_concat] at h
      cases hwalk : d.walk (d.start path) before with
      | error e =>
          rw [hwalk] at h
          cases h
      | ok above =>
          rw [hwalk] at h
          dsimp only at h
          refine .inr ⟨before, last, above, hnames, hwalk, ?_⟩
          by_cases hdots : last = "." ∨ last = ".."
          · rw [if_pos hdots] at h
            cases henter : d.enter above last with
            | error e =>
                rw [henter] at h
                cases h
            | ok place =>
                rw [henter] at h
                cases h
                exact .inl ⟨hdots, place, rfl⟩
          · rw [if_neg hdots] at h
            cases h
            exact .inr ⟨not_or.1 hdots, rfl⟩

theorem spot_eq_entry {slash : Bool} (h : d.spot path = .ok (.entry above name slash)) :
    ∃ before, (Path.route path).names = before ++ [name] ∧
      d.walk (d.start path) before = .ok above ∧ name ≠ "." ∧ name ≠ ".." := by
  rcases spot_eq_ok h with ⟨-, hplace⟩ | ⟨before, last, next, hnames, hwalk, ⟨-, place, hplace⟩ |
    ⟨hdots, hentry⟩⟩
  · cases hplace
  · cases hplace
  · cases hentry
    exact ⟨before, hnames, hwalk, hdots⟩

theorem Sound.directory_of_spot (h : d.Sound) {slash : Bool} (hspot : d.spot path = .ok (.entry above name slash)) :
    d.find? above = some .directory := by
  obtain ⟨before, -, hwalk, -⟩ := spot_eq_entry hspot
  exact h.walk (h.start path) hwalk

/-! ### Changes -/

/-- A name in a directory is bound to a file that has no other name, or to a directory where there
was nothing. -/
theorem Sound.bind (h : d.Sound) {node : Node} {serial : Nat} (habove : d.find? above = some .directory)
    (hdir : d.find? (above ++ [name]) ≠ some .directory)
    (hserial : d.serial ≤ serial)
    (hfile : ∀ bytes mode own, node = .file bytes mode own → own < serial ∧
      ∀ names bytes' mode', d.find? names = some (.file bytes' mode' own) → names = above ++ [name]) :
    ({ d.set (above ++ [name]) node with serial := serial } : Disk).Sound := by
  have hne : above ++ [name] ≠ [] := by simp
  have hfind : ∀ other, ({ d.set (above ++ [name]) node with serial := serial } : Disk).find? other =
      if other = above ++ [name] then some node else d.find? other := find?_set hne d node
  refine ⟨?_, ?_, ?_, ?_⟩
  · rw [hfind, if_neg]
    · exact h.homed
    · intro hhere
      exact hdir (hhere ▸ h.homed)
  · intro above' name' node' hnode'
    rw [hfind] at hnode' ⊢
    have hthere : d.find? above' = some .directory := by
      by_cases heq : above' ++ [name'] = above ++ [name]
      · rwa [(List.append_inj' heq rfl).1]
      · rw [if_neg heq] at hnode'
        exact h.rooted hnode'
    rw [if_neg]
    · exact hthere
    · rintro rfl
      exact hdir hthere
  · intro names names' bytes bytes' mode mode' own hnames hnames'
    rw [hfind] at hnames hnames'
    by_cases heq : names = above ++ [name]
    · by_cases heq' : names' = above ++ [name]
      · rw [heq, heq']
      · rw [if_pos heq] at hnames
        rw [if_neg heq'] at hnames'
        exact absurd ((hfile _ _ _ (Option.some.inj hnames)).2 _ _ _ hnames') heq'
    · rw [if_neg heq] at hnames
      by_cases heq' : names' = above ++ [name]
      · rw [if_pos heq'] at hnames'
        exact absurd ((hfile _ _ _ (Option.some.inj hnames')).2 _ _ _ hnames) heq
      · rw [if_neg heq'] at hnames'
        exact h.single hnames hnames'
  · intro names bytes mode own hnames
    rw [hfind] at hnames
    by_cases heq : names = above ++ [name]
    · rw [if_pos heq] at hnames
      exact (hfile _ _ _ (Option.some.inj hnames)).1
    · rw [if_neg heq] at hnames
      exact Nat.lt_of_lt_of_le (h.fresh hnames) hserial

/-- A disk with one file and nothing else. -/
theorem sound_of_file (name : String) (bytes : ByteArray) (mode : Nat) :
    Sound ⟨[([name], .file bytes mode 0)], [], [], 1⟩ := by
  refine @Sound.bind _ [] name (sound_blank []) (.file bytes mode 0) 1 rfl ?_ (Nat.zero_le 1) ?_
  · intro hthere
    cases hthere
  · rintro _ _ own ⟨⟩
    exact ⟨Nat.one_pos, fun _ _ _ hother => absurd ((sound_blank []).fresh hother) (Nat.not_lt_zero _)⟩

theorem Sound.remove (h : d.Sound) (hne : names ≠ []) (hdir : d.find? names ≠ some .directory) :
    (d.remove names).Sound := by
  have hkeep : ∀ {other node}, (d.remove names).find? other = some node → d.find? other = some node := by
    intro other node hother
    rw [find?_remove hne] at hother
    split at hother
    · cases hother
    · exact hother
  have hdirs : ∀ {other}, d.find? other = some .directory →
      (d.remove names).find? other = some .directory := (remove_keeps hne hdir).directories _
  exact ⟨hdirs h.homed, fun hnode => hdirs (h.rooted (hkeep hnode)),
    fun hfile hfile' => h.single (hkeep hfile) (hkeep hfile'), fun hfile => h.fresh (hkeep hfile)⟩

/-- What was there is there after bytes were put at the end of a file. -/
theorem find?_of_extend_file {serial own mode : Nat} {bytes bytes' : ByteArray}
    (h : (extend (.file serial) bytes d).find? names = some (.file bytes' mode own)) :
    ∃ old, d.find? names = some (.file old mode own) := by
  rw [find?_extend] at h
  obtain ⟨node, hnode, hext⟩ := Option.map_eq_some_iff.1 h
  cases node with
  | file old mode' own' =>
      simp only [extended, Node.file.injEq] at hext
      exact ⟨old, by rw [hnode, hext.2.1, hext.2.2]⟩
  | void => cases hext
  | directory => cases hext

theorem Sound.extend (h : d.Sound) (handle : Handle) (bytes : ByteArray) :
    (extend handle bytes d).Sound := by
  cases handle with
  | void => exact h
  | file serial =>
      have hkeeps := (extend_keeps serial bytes d).1
      refine ⟨hkeeps.directories _ h.homed, fun hnode => ?_, fun hfile hfile' => ?_, fun hfile => ?_⟩
      · rw [find?_extend] at hnode
        obtain ⟨node, hnode, -⟩ := Option.map_eq_some_iff.1 hnode
        exact hkeeps.directories _ (h.rooted hnode)
      · obtain ⟨old, hold⟩ := find?_of_extend_file hfile
        obtain ⟨old', hold'⟩ := find?_of_extend_file hfile'
        exact h.single hold hold'
      · obtain ⟨old, hold⟩ := find?_of_extend_file hfile
        exact h.fresh hold

end Strongbox.Disk
