import Strongbox.Proofs.Disk.Growth
/-! What has to come about for a path to lead to something where it led to nothing, and what has to stay
for it to lead where it led. -/
namespace Strongbox.Disk

variable {d d' : Disk} {path : String} {names above : List String} {name : String}

theorem inside_eq_error {e : IoError} (h : d.inside above name = .error e) : e = .nameTooLong := by
  unfold inside at h
  split at h
  · cases h
    rfl
  · cases h

/-- A step that finds nothing finds no directory. -/
theorem enter_missing (h : d.enter above name = .error .notFound) :
    d.find? (above ++ [name]) = none ∧ ∀ d' : Disk,
      (d'.find? (above ++ [name]) = none → d'.enter above name = .error .notFound) ∧
        ∀ place, d'.enter above name = .ok place → d'.find? (above ++ [name]) = some .directory := by
  unfold enter at h
  by_cases hdot : name = "."
  · rw [if_pos hdot] at h
    cases h
  · by_cases hup : name = ".."
    · rw [if_neg hdot, if_pos hup] at h
      cases h
    · rw [if_neg hdot, if_neg hup] at h
      cases hin : d.inside above name with
      | error e =>
          rw [hin] at h
          cases h
          cases inside_eq_error hin
      | ok found =>
          rw [hin] at h
          obtain ⟨hfits, hfound⟩ := inside_eq_ok hin
          match found with
          | some (.file _ _ _) => cases h
          | some .void => cases h
          | some .directory => cases h
          | none =>
              refine ⟨hfound, fun d' => ⟨fun hfree => ?_, fun place henter => ?_⟩⟩
              · rw [enter, if_neg hdot, if_neg hup, inside_of_fits hfits, hfree]
              · exact (inside_eq_ok (enter_name hdot hup henter).2).2

/-- Where a walk finds nothing there is a hole. -/
theorem walk_missing (h : d.walk above names = .error .notFound) :
    ∃ hole, d.find? hole = none ∧ ∀ d', d.KeepsDirectories d' →
      (d'.find? hole = none → d'.walk above names = .error .notFound) ∧
        ∀ place, d'.walk above names = .ok place → d'.find? hole = some .directory := by
  induction names generalizing above with
  | nil => cases h
  | cons name later ih =>
      rw [walk] at h
      cases henter : d.enter above name with
      | ok next =>
          rw [henter] at h
          obtain ⟨hole, hfree, hhole⟩ := ih h
          refine ⟨hole, hfree, fun d' hkeeps => ?_⟩
          rw [walk, hkeeps.enter henter]
          exact hhole d' hkeeps
      | error e =>
          rw [henter] at h
          cases h
          obtain ⟨hfree, hhole⟩ := enter_missing henter
          refine ⟨above ++ [name], hfree, fun d' _ => ?_⟩
          obtain ⟨hstays, hmade⟩ := hhole d'
          rw [walk]
          constructor
          · intro hnone
            rw [hstays hnone]
          · intro place hwalk
            cases henter' : d'.enter above name with
            | ok next => exact hmade next henter'
            | error e =>
                rw [henter'] at hwalk
                cases hwalk

theorem spot_missing (h : d.spot path = .error .notFound) (hne : path ≠ "") :
    ∃ hole, d.find? hole = none ∧ ∀ d', d.KeepsDirectories d' →
      (d'.find? hole = none → d'.spot path = .error .notFound) ∧
        ∀ s, d'.spot path = .ok s → d'.find? hole = some .directory := by
  unfold spot at h ⊢
  by_cases hnul : path.toList.contains (Char.ofNat 0) = true
  · rw [if_pos hnul] at h
    cases h
  rw [if_neg hnul, if_neg hne] at h
  by_cases hlong : pathLimit < path.utf8ByteSize
  · rw [if_pos hlong] at h
    cases h
  rw [if_neg hlong] at h
  simp only [if_neg hnul, if_neg hne, if_neg hlong]
  unfold spotOn at h ⊢
  cases hlast : (Path.route path).names.getLast? with
  | none =>
      rw [hlast] at h
      cases h
  | some name =>
      rw [hlast] at h
      dsimp only at h ⊢
      cases hwalk : d.walk (if (Path.route path).fromRoot then [] else d.here)
          (Path.route path).names.dropLast with
      | ok above =>
          rw [hwalk] at h
          simp only [bind, Except.bind] at h
          split at h
          · rename_i hdots
            rcases hdots with rfl | rfl <;> cases h
          · cases h
      | error e =>
          rw [hwalk] at h
          cases h
          obtain ⟨hole, hfree, hhole⟩ := walk_missing hwalk
          refine ⟨hole, hfree, fun d' hkeeps => ?_⟩
          rw [hkeeps.here]
          obtain ⟨hstays, hmade⟩ := hhole d' hkeeps
          constructor
          · intro hnone
            rw [hstays hnone]
            rfl
          · intro s hspot
            cases hwalk' : d'.walk (if (Path.route path).fromRoot then [] else d.here)
                (Path.route path).names.dropLast with
            | ok place => exact hmade place hwalk'
            | error e =>
                rw [hwalk'] at hspot
                cases hspot

theorem status_of_entry {slash : Bool} (h : d.spot path = .ok (.entry above name slash))
    (hfits : ¬ nameLimit < name.utf8ByteSize) (hfree : d.find? (above ++ [name]) = none) :
    d.status path = .error .notFound := by
  unfold status
  rw [h]
  simp only [bind, Except.bind, inside_of_fits hfits, hfree]
  rfl

theorem status_of_spot_error {e : IoError} (h : d.spot path = .error e) : d.status path = .error e := by
  unfold status
  rw [h]
  rfl

/-- Where a path finds nothing there is a hole, at its end or on the way. What comes about in it is what
the path leads to, or it is in the way unless it is a directory. -/
theorem status_missing (h : d.status path = .error .notFound) (hne : path ≠ "") :
    ∃ hole, d.find? hole = none ∧ ∀ d', d.KeepsDirectories d' →
      (d'.find? hole = none → d'.status path = .error .notFound) ∧
        ∀ {names}, d'.EntryAt path names → d'.find? hole ≠ some .directory → names = hole := by
  unfold status at h
  cases hspot : d.spot path with
  | error e =>
      rw [hspot] at h
      cases h
      obtain ⟨hole, hfree, hhole⟩ := spot_missing hspot hne
      refine ⟨hole, hfree, fun d' hkeeps => ?_⟩
      obtain ⟨hstays, hmade⟩ := hhole d' hkeeps
      constructor
      · intro hnone
        exact status_of_spot_error (hstays hnone)
      · rintro names ⟨above, name, -, hspot', -⟩ hdir
        exact absurd (hmade _ hspot') hdir
  | ok s =>
      rw [hspot] at h
      cases s with
      | place place => cases h
      | entry above name slash =>
          simp only [bind, Except.bind] at h
          cases hin : d.inside above name with
          | error e =>
              rw [hin] at h
              cases h
              cases inside_eq_error hin
          | ok found =>
              rw [hin] at h
              obtain ⟨hfits, hfound⟩ := inside_eq_ok hin
              match found with
              | some (.file _ _ _) => cases slash <;> cases h
              | some .void => cases slash <;> cases h
              | some .directory => cases h
              | none =>
                  refine ⟨above ++ [name], hfound, fun d' hkeeps => ?_⟩
                  have hspot' := hkeeps.spot hspot
                  constructor
                  · intro hnone
                    exact status_of_entry hspot' hfits hnone
                  · rintro names ⟨above', name', rfl, hentry, -⟩ -
                    rw [hspot'] at hentry
                    cases hentry
                    rfl

theorem status_empty (d : Disk) : d.status "" = .error .notFound := rfl

/-- Nothing is found where nothing was, unless something has come about. -/
theorem KeepsDirectories.status_missing (h : d.KeepsDirectories d')
    (hfree : ∀ {names}, d.find? names = none → d'.find? names = none)
    (hmissing : d.status path = .error .notFound) : d'.status path = .error .notFound := by
  by_cases hempty : path = ""
  · rw [hempty, status_empty]
  · obtain ⟨hole, hhole, hstays⟩ := Disk.status_missing hmissing hempty
    exact (hstays d' h).1 (hfree hhole)

/-- What is found and is no directory has a name that the path leads to. -/
theorem entryAt_of_status {node : Node} (h : d.status path = .ok (names, node))
    (hnode : node ≠ .directory) : d.EntryAt path names ∧ d.find? names = some node := by
  unfold status at h
  cases hspot : d.spot path with
  | error e =>
      rw [hspot] at h
      cases h
  | ok s =>
      rw [hspot] at h
      cases s with
      | place place =>
          cases h
          exact absurd rfl hnode
      | entry above name slash =>
          simp only [bind, Except.bind] at h
          cases hin : d.inside above name with
          | error e =>
              rw [hin] at h
              cases h
          | ok found =>
              rw [hin] at h
              obtain ⟨hfits, hfound⟩ := inside_eq_ok hin
              match found with
              | none => cases h
              | some .directory =>
                  cases h
                  exact absurd rfl hnode
              | some (.file _ _ _) =>
                  cases slash with
                  | true => cases h
                  | false =>
                      cases h
                      exact ⟨⟨above, name, rfl, hspot, hfits⟩, hfound⟩
              | some .void =>
                  cases slash with
                  | true => cases h
                  | false =>
                      cases h
                      exact ⟨⟨above, name, rfl, hspot, hfits⟩, hfound⟩

/-- Two paths that lead to names lead to different ones. -/
theorem Elsewhere.ne {other : String} {names' : List String} (h : d.Elsewhere other path)
    (hother : d.EntryAt other names') (hentry : d.EntryAt path names) : names' ≠ names := by
  obtain ⟨above, name, rfl, hspot, -⟩ := hother
  exact h above name false names hspot hentry

theorem EntryAt.elsewhere {other : String} {names' : List String} (h : d.EntryAt path names)
    (hother : d.EntryAt other names') (hne : names' ≠ names) : d.Elsewhere other path := by
  intro above name slash found hspot hentry
  obtain ⟨above', name', rfl, hspot', -⟩ := hother
  rw [hspot] at hspot'
  cases hspot'
  rwa [hentry.unique h]

/-- Two paths to one name find the same. -/
theorem EntryAt.status_eq {other : String} (h : d.EntryAt path names) (h' : d.EntryAt other names) :
    d.status other = d.status path := by
  cases hfind : d.find? names with
  | none => rw [h.status_missing hfind, h'.status_missing hfind]
  | some node => rw [h.status hfind, h'.status hfind]

/-- A path to another name finds what it found. -/
theorem ChangedAt.status (h : ChangedAt names d d') {other : String} {names' : List String}
    (hentry : d.EntryAt other names') (hne : names' ≠ names) : d'.status other = d.status other := by
  have hentry' := h.evolves.keeps.entryAt hentry
  have hsame := h.others hne
  cases hfind : d.find? names' with
  | none =>
      rw [hentry.status_missing hfind, hentry'.status_missing (hsame.trans hfind)]
  | some node =>
      rw [hentry.status hfind, hentry'.status (hsame.trans hfind)]

end Strongbox.Disk
