import Strongbox.Proofs.Association
import Strongbox.Disk
/-! What paths lead to depends on the directories of a disk alone, so a disk that keeps them leads
every path to where it led before. -/
namespace Strongbox.Disk

theorem find?_of_ne {names : List String} (h : names ≠ []) (d : Disk) :
    d.find? names = Association.first? names d.nodes := by
  rw [find?, if_neg (by simpa using h)]
  rfl

theorem find?_set {names : List String} (h : names ≠ []) (d : Disk) (node : Node)
    (other : List String) :
    (d.set names node).find? other = if other = names then some node else d.find? other := by
  by_cases ho : other = []
  · subst ho
    rw [if_neg h.symm]
    rfl
  · rw [find?_of_ne ho, find?_of_ne ho]
    exact Association.first?_rebind other names node d.nodes

theorem find?_remove {names : List String} (h : names ≠ []) (d : Disk) (other : List String) :
    (d.remove names).find? other = if other = names then none else d.find? other := by
  by_cases ho : other = []
  · subst ho
    rw [if_neg h.symm]
    rfl
  · rw [find?_of_ne ho, find?_of_ne ho]
    exact Association.first?_without other names d.nodes

/-- A disk has the directories of another, and paths start at the same place on both. -/
structure KeepsDirectories (d d' : Disk) : Prop where
  here : d'.here = d.here
  directories : ∀ names, d.find? names = some .directory → d'.find? names = some .directory

theorem KeepsDirectories.trans {a b c : Disk} (hab : a.KeepsDirectories b)
    (hbc : b.KeepsDirectories c) : a.KeepsDirectories c :=
  ⟨hbc.here.trans hab.here, fun names h => hbc.directories names (hab.directories names h)⟩

variable {d d' : Disk}

theorem inside_of_fits {name : String} (h : ¬ nameLimit < name.utf8ByteSize) (d : Disk)
    (above : List String) : d.inside above name = .ok (d.find? (above ++ [name])) := by
  rw [inside, if_neg h]

theorem inside_eq_ok {above : List String} {name : String} {found : Option Node}
    (h : d.inside above name = .ok found) :
    ¬ nameLimit < name.utf8ByteSize ∧ d.find? (above ++ [name]) = found := by
  unfold inside at h
  by_cases hn : nameLimit < name.utf8ByteSize
  · rw [if_pos hn] at h
    cases h
  · rw [if_neg hn] at h
    cases h
    exact ⟨hn, rfl⟩

namespace KeepsDirectories

theorem enter (h : d.KeepsDirectories d') {above above' : List String} {name : String}
    (henter : d.enter above name = .ok above') : d'.enter above name = .ok above' := by
  unfold Disk.enter at henter ⊢
  by_cases hdot : name = "."
  · rwa [if_pos hdot] at henter ⊢
  · by_cases hup : name = ".."
    · rwa [if_neg hdot, if_pos hup] at henter ⊢
    · rw [if_neg hdot, if_neg hup] at henter ⊢
      cases hin : d.inside above name with
      | error e =>
          rw [hin] at henter
          cases henter
      | ok found =>
          rw [hin] at henter
          obtain ⟨hfits, hfound⟩ := inside_eq_ok hin
          match found with
          | none => cases henter
          | some (.file _ _ _) => cases henter
          | some .void => cases henter
          | some .directory =>
              rw [inside_of_fits hfits, h.directories _ hfound]
              exact henter

theorem walk (h : d.KeepsDirectories d') {names above above' : List String}
    (hwalk : d.walk above names = .ok above') : d'.walk above names = .ok above' := by
  induction names generalizing above with
  | nil => exact hwalk
  | cons name later ih =>
      unfold Disk.walk at hwalk ⊢
      cases henter : d.enter above name with
      | error e =>
          rw [henter] at hwalk
          cases hwalk
      | ok next =>
          rw [henter] at hwalk
          rw [h.enter henter]
          exact ih hwalk

end KeepsDirectories

/-- Where a path starts. -/
def start (d : Disk) (path : String) : List String :=
  if (Path.route path).fromRoot then [] else d.here

/-- Where a path leads depends on the walk to its last name. -/
theorem spot_of_walk {path : String} {s : Spot} (hhere : d'.here = d.here)
    (hwalk : ∀ above, d.walk (d.start path) (Path.route path).names.dropLast = .ok above →
      d'.walk (d.start path) (Path.route path).names.dropLast = .ok above)
    (hspot : d.spot path = .ok s) : d'.spot path = .ok s := by
  unfold spot at hspot ⊢
  by_cases hnul : path.toList.contains (Char.ofNat 0) = true
  · rwa [if_pos hnul] at hspot ⊢
  · by_cases hempty : path = ""
    · rwa [if_neg hnul, if_pos hempty] at hspot ⊢
    · by_cases hlong : pathLimit < path.utf8ByteSize
      · rwa [if_neg hnul, if_neg hempty, if_pos hlong] at hspot ⊢
      · rw [if_neg hnul, if_neg hempty, if_neg hlong] at hspot ⊢
        unfold spotOn at hspot ⊢
        rw [hhere]
        cases hlast : (Path.route path).names.getLast? with
        | none =>
            rw [hlast] at hspot
            exact hspot
        | some name =>
            rw [hlast] at hspot
            dsimp only at hspot ⊢
            rw [← Disk.start] at hspot ⊢
            cases hsteps : d.walk (d.start path) (Path.route path).names.dropLast with
            | error e =>
                rw [hsteps] at hspot
                cases hspot
            | ok above =>
                rw [hsteps] at hspot
                rw [hwalk above hsteps]
                simp only [bind, Except.bind] at hspot ⊢
                by_cases hdots : name = "." ∨ name = ".."
                · -- Dots are followed without a look at what is there.
                  have henter : d'.enter above name = d.enter above name := by
                    rcases hdots with rfl | rfl <;> rfl
                  rw [if_pos hdots] at hspot ⊢
                  rwa [henter]
                · rwa [if_neg hdots] at hspot ⊢

theorem KeepsDirectories.spot (h : d.KeepsDirectories d') {path : String} {s : Spot}
    (hspot : d.spot path = .ok s) : d'.spot path = .ok s :=
  spot_of_walk h.here (fun _ hwalk => h.walk hwalk) hspot

/-- A path leads to a name in a directory that can be looked up: the last of `names`. -/
def EntryAt (d : Disk) (path : String) (names : List String) : Prop :=
  ∃ above name, names = above ++ [name] ∧ d.spot path = .ok (.entry above name false) ∧
    ¬ nameLimit < name.utf8ByteSize

theorem EntryAt.ne_nil {path : String} {names : List String} (h : d.EntryAt path names) :
    names ≠ [] := by
  obtain ⟨above, name, rfl, -, -⟩ := h
  simp

theorem EntryAt.unique {path : String} {names names' : List String} (h : d.EntryAt path names)
    (h' : d.EntryAt path names') : names = names' := by
  obtain ⟨above, name, rfl, hspot, -⟩ := h
  obtain ⟨above', name', rfl, hspot', -⟩ := h'
  rw [hspot] at hspot'
  cases hspot'
  rfl

theorem KeepsDirectories.entryAt (h : d.KeepsDirectories d') {path : String} {names : List String}
    (hentry : d.EntryAt path names) : d'.EntryAt path names := by
  obtain ⟨above, name, hnames, hspot, hfits⟩ := hentry
  exact ⟨above, name, hnames, h.spot hspot, hfits⟩

/-- A plain name stands for an entry of the working directory. -/
theorem entryAt_of_name {name : String} (hroute : Path.route name = ⟨false, [name], false⟩)
    (hchars : name.toList.contains (Char.ofNat 0) = false) (hdots : ¬ (name = "." ∨ name = ".."))
    (hfits : name.utf8ByteSize ≤ nameLimit) : d.EntryAt name (d.here ++ [name]) := by
  have hempty : name ≠ "" := by
    rintro rfl
    exact absurd hroute (by decide +kernel)
  have hshort : ¬ pathLimit < name.utf8ByteSize := by
    unfold nameLimit at hfits
    unfold pathLimit
    omega
  refine ⟨d.here, name, rfl, ?_, Nat.not_lt.2 hfits⟩
  rw [spot, if_neg (by simpa using hchars), if_neg hempty, if_neg hshort, hroute]
  simp only [spotOn, List.getLast?_singleton, Bool.false_eq_true, if_false, bind, Except.bind,
    List.dropLast_singleton, walk, if_neg hdots, pure, Except.pure]

theorem EntryAt.status {path : String} {names : List String} {node : Node}
    (h : d.EntryAt path names) (hfind : d.find? names = some node) :
    d.status path = .ok (names, node) := by
  obtain ⟨above, name, rfl, hspot, hfits⟩ := h
  unfold Disk.status
  rw [hspot]
  simp only [bind, Except.bind, inside_of_fits hfits, hfind]
  cases node with
  | file _ _ _ => rfl
  | void => rfl
  | directory => rfl

theorem EntryAt.status_missing {path : String} {names : List String}
    (h : d.EntryAt path names) (hfind : d.find? names = none) : d.status path = .error .notFound := by
  obtain ⟨above, name, rfl, hspot, hfits⟩ := h
  unfold Disk.status
  rw [hspot]
  simp only [bind, Except.bind, inside_of_fits hfits, hfind]
  rfl

theorem isDirectoryAt_place {path : String} {names : List String}
    (h : d.spot path = .ok (.place names)) : d.isDirectoryAt path = true := by
  unfold isDirectoryAt Disk.status
  rw [h]
  rfl

theorem isDirectoryAt_entry {path name : String} {above : List String} {slash : Bool}
    (h : d.spot path = .ok (.entry above name slash))
    (hin : d.inside above name = .ok (some .directory)) : d.isDirectoryAt path = true := by
  unfold isDirectoryAt Disk.status
  rw [h]
  simp only [bind, Except.bind, hin]
  rfl

/-- What is a directory is one by its path alone or by the node at its name. -/
theorem spot_of_isDirectoryAt {path : String} (h : d.isDirectoryAt path = true) :
    (∃ names, d.spot path = .ok (.place names)) ∨
      ∃ above name slash, d.spot path = .ok (.entry above name slash) ∧
        d.inside above name = .ok (some .directory) := by
  unfold isDirectoryAt Disk.status at h
  cases hspot : d.spot path with
  | error e =>
      rw [hspot] at h
      cases h
  | ok spot =>
      rw [hspot] at h
      cases spot with
      | place names => exact .inl ⟨names, rfl⟩
      | entry above name slash =>
          refine .inr ⟨above, name, slash, rfl, ?_⟩
          simp only [bind, Except.bind] at h
          cases hin : d.inside above name with
          | error e =>
              rw [hin] at h
              cases h
          | ok found =>
              rw [hin] at h
              match found with
              | none => cases h
              | some .directory => rfl
              | some (.file _ _ _) => cases slash <;> cases h
              | some .void => cases slash <;> cases h

theorem KeepsDirectories.isDirectoryAt (h : d.KeepsDirectories d') {path : String}
    (hdir : d.isDirectoryAt path = true) : d'.isDirectoryAt path = true := by
  rcases spot_of_isDirectoryAt hdir with ⟨names, hplace⟩ | ⟨above, name, slash, hspot, hin⟩
  · exact isDirectoryAt_place (h.spot hplace)
  · obtain ⟨hfits, hfound⟩ := inside_eq_ok hin
    refine isDirectoryAt_entry (h.spot hspot) ?_
    rw [inside_of_fits hfits, h.directories _ hfound]

/-! ### What a change keeps -/

variable {names : List String}

theorem set_keeps (node : Node) (h : names ≠ []) (hnode : d.find? names ≠ some .directory) :
    d.KeepsDirectories (d.set names node) := by
  refine ⟨rfl, fun other hother => ?_⟩
  have hne : other ≠ names := fun heq => hnode (heq ▸ hother)
  rw [find?_set h, if_neg hne]
  exact hother

theorem set_keeps_back {node : Node} (h : names ≠ []) (hnode : node ≠ .directory) :
    (d.set names node).KeepsDirectories d := by
  refine ⟨rfl, fun other hother => ?_⟩
  rw [find?_set h] at hother
  by_cases heq : other = names
  · rw [if_pos heq] at hother
    exact absurd (Option.some.inj hother) hnode
  · rwa [if_neg heq] at hother

theorem remove_keeps (h : names ≠ []) (hnode : d.find? names ≠ some .directory) :
    d.KeepsDirectories (d.remove names) := by
  refine ⟨rfl, fun other hother => ?_⟩
  have hne : other ≠ names := fun heq => hnode (heq ▸ hother)
  rw [find?_remove h, if_neg hne]
  exact hother

theorem extended_eq_directory {serial : Nat} {bytes : ByteArray} {node : Node} :
    extended serial bytes node = .directory ↔ node = .directory := by
  cases node with
  | file old mode own => simp [extended]
  | void => simp [extended]
  | directory => simp [extended]

theorem find?_extend (serial : Nat) (bytes : ByteArray) (d : Disk) (names : List String) :
    (extend (.file serial) bytes d).find? names = (d.find? names).map (extended serial bytes) := by
  by_cases hroot : names = []
  · subst hroot
    rfl
  · rw [find?_of_ne hroot, find?_of_ne hroot]
    simp only [extend, Association.first?, List.find?_map, Option.map_map]
    rfl

theorem extend_keeps (serial : Nat) (bytes : ByteArray) (d : Disk) :
    d.KeepsDirectories (extend (.file serial) bytes d) ∧
      (extend (.file serial) bytes d).KeepsDirectories d := by
  refine ⟨⟨rfl, fun names h => ?_⟩, ⟨rfl, fun names h => ?_⟩⟩
  · rw [find?_extend, h]
    rfl
  · rw [find?_extend] at h
    obtain ⟨node, hnode, hext⟩ := Option.map_eq_some_iff.1 h
    rw [hnode, extended_eq_directory.1 hext]

theorem find?_move {names' : List String} (node : Node) (h : names ≠ []) (h' : names' ≠ [])
    (d : Disk) (other : List String) :
    ((d.remove names).set names' node).find? other =
      if other = names' then some node else if other = names then none else d.find? other := by
  rw [find?_set h', find?_remove h]

theorem move_keeps {names' : List String} (node : Node) (h : names ≠ []) (h' : names' ≠ [])
    (hsource : d.find? names ≠ some .directory) (htarget : d.find? names' ≠ some .directory) :
    d.KeepsDirectories ((d.remove names).set names' node) := by
  refine (remove_keeps h hsource).trans (set_keeps node h' ?_)
  rw [find?_remove h]
  by_cases heq : names' = names
  · simp [heq]
  · rwa [if_neg heq]

end Strongbox.Disk
