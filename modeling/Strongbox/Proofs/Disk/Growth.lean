import Strongbox.Proofs.Disk.Changes
import Strongbox.Proofs.Path
/-! Making the directories above a file. They are made one by one from the outermost that is missing,
each with a name less than the file's, so that nothing comes about at the file itself or beside it. -/
namespace Strongbox.Disk

variable {d d' d₁ : Disk} {path above : String} {names place before after : List String} {depth : Nat}

/-! ### Walks without steps back -/

/-- Names that lead on from where they stand. -/
def plain (names : List String) : List String := names.filter (· != ".")

theorem plain_append (names later : List String) : plain (names ++ later) = plain names ++ plain later :=
  List.filter_append ..

theorem plain_cons_dot (names : List String) : plain ("." :: names) = plain names := rfl

theorem plain_cons {name : String} (h : name ≠ ".") (names : List String) :
    plain (name :: names) = name :: plain names := by
  rw [plain, List.filter_cons, if_pos (by simpa using h), plain]

theorem plain_concat_dot (names : List String) : plain (names ++ ["."]) = plain names := by
  rw [plain_append, plain_cons_dot]
  exact List.append_nil _

theorem plain_concat {name : String} (h : name ≠ ".") (names : List String) :
    plain (names ++ [name]) = plain names ++ [name] := by
  rw [plain_append, plain_cons h]
  rfl

theorem walk_append (d : Disk) (start names later : List String) :
    d.walk start (names ++ later) = match d.walk start names with
      | .ok next => d.walk next later
      | .error e => .error e := by
  induction names generalizing start with
  | nil => rfl
  | cons name names ih =>
      rw [List.cons_append, walk, walk]
      cases d.enter start name with
      | ok next => exact ih next
      | error e => rfl

theorem walk_append_eq_ok {start later : List String} (h : d.walk start (names ++ later) = .ok place) :
    ∃ next, d.walk start names = .ok next ∧ d.walk next later = .ok place := by
  rw [walk_append] at h
  cases hwalk : d.walk start names with
  | error e =>
      rw [hwalk] at h
      cases h
  | ok next =>
      rw [hwalk] at h
      exact ⟨next, rfl, h⟩

theorem enter_name {start : List String} {name : String} (hdot : name ≠ ".") (hup : name ≠ "..")
    (h : d.enter start name = .ok place) :
    place = start ++ [name] ∧ d.inside start name = .ok (some .directory) := by
  unfold enter at h
  rw [if_neg hdot, if_neg hup] at h
  cases hin : d.inside start name with
  | error e =>
      rw [hin] at h
      cases h
  | ok found =>
      rw [hin] at h
      match found with
      | none => cases h
      | some (.file _ _ _) => cases h
      | some .void => cases h
      | some .directory =>
          cases h
          exact ⟨rfl, rfl⟩

theorem length_enter {start : List String} {name : String} (h : d.enter start name = .ok place) :
    place.length ≤ start.length + 1 := by
  by_cases hdot : name = "."
  · subst hdot
    cases h
    omega
  · by_cases hup : name = ".."
    · subst hup
      cases h
      rw [List.length_dropLast]
      omega
    · rw [(enter_name hdot hup h).1, List.length_append]
      exact Nat.le_refl _

theorem walk_of_plain {start : List String} (hup : ".." ∉ names) (h : d.walk start names = .ok place) :
    place = start ++ plain names := by
  induction names generalizing start with
  | nil =>
      cases h
      exact (List.append_nil _).symm
  | cons name later ih =>
      obtain ⟨hname, hlater⟩ := not_or.1 (mt List.mem_cons.2 hup)
      rw [walk] at h
      cases henter : d.enter start name with
      | error e =>
          rw [henter] at h
          cases h
      | ok next =>
          rw [henter] at h
          by_cases hdot : name = "."
          · subst hdot
            cases henter
            exact ih hlater h
          · obtain ⟨rfl, -⟩ := enter_name hdot (Ne.symm hname) henter
            rw [ih hlater h, plain_cons hdot, List.append_assoc]
            rfl

/-- Who can be walked to on one disk and is there on the other can be walked to there. -/
theorem Sound.walk_of_walk (h : d.Sound) {start : List String} (hup : ".." ∉ names)
    (hfind : d.find? (start ++ plain names) = some .directory)
    (hwalk : d'.walk start names = .ok place) : d.walk start names = .ok place := by
  induction names generalizing start with
  | nil => exact hwalk
  | cons name later ih =>
      obtain ⟨hname, hlater⟩ := not_or.1 (mt List.mem_cons.2 hup)
      rw [Disk.walk] at hwalk ⊢
      cases henter : d'.enter start name with
      | error e =>
          rw [henter] at hwalk
          cases hwalk
      | ok next =>
          rw [henter] at hwalk
          by_cases hdot : name = "."
          · subst hdot
            cases henter
            exact ih hlater hfind hwalk
          · obtain ⟨rfl, hin⟩ := enter_name hdot (Ne.symm hname) henter
            rw [plain_cons hdot, List.append_cons] at hfind
            have hthere : d.find? (start ++ [name]) = some .directory := by
              by_cases hlast : plain later = []
              · rwa [hlast, List.append_nil] at hfind
              · exact h.directory_of_append hlast hfind
            rw [Disk.enter, if_neg hdot, if_neg (Ne.symm hname), inside_of_fits (inside_eq_ok hin).1, hthere]
            exact ih hlater hfind hwalk

/-! ### Paths that lead on -/

/-- A path steps back only out of directories that are there; the names in `after` lead on. -/
structure Onward (d : Disk) (path : String) (before after place : List String) : Prop where
  names : (Path.route path).names = before ++ after
  walked : d.walk (d.start path) before = .ok place
  onward : ".." ∉ after

theorem Onward.of_keeps (h : d.Onward path before after place) (hkeeps : d.KeepsDirectories d') :
    d'.Onward path before after place := by
  refine ⟨h.names, ?_, h.onward⟩
  have hwalk := hkeeps.walk h.walked
  rwa [start, ← hkeeps.here] at hwalk

/-- The directory above is there, or its path leads on as well, but less far. -/
theorem Onward.parent (h : d.Onward path before after place) (habove : Path.Above above path) :
    ∃ before' after' place', d.Onward above before' after' place' ∧
      (after' = [] ∨
        after ≠ [] ∧ (place' ++ plain after').length < (place ++ plain after).length) := by
  obtain ⟨between, last, later, hnames, hlast, -, -⟩ := habove.names
  have hstart : d.start above = d.start path := by
    rw [start, start, habove.fromRoot]
  rw [h.names, List.append_assoc] at hnames
  rcases List.append_eq_append_iff.1 hnames with ⟨mid, habove', hafter⟩ | ⟨mid, hbefore, -⟩
  · refine ⟨before, mid, place, ⟨habove', hstart ▸ h.walked, fun hup => h.onward ?_⟩, .inr ?_⟩
    · rw [hafter]
      exact List.mem_append_left _ hup
    · refine ⟨by simp [hafter], ?_⟩
      rw [hafter, plain_append, plain_append, plain_cons hlast]
      simp only [List.length_append, List.length_cons]
      omega
  · have hwalked := h.walked
    rw [hbefore] at hwalked
    obtain ⟨next, hwalk, -⟩ := walk_append_eq_ok hwalked
    exact ⟨_, [], next, ⟨(List.append_nil _).symm, hstart ▸ hwalk, List.not_mem_nil⟩, .inl rfl⟩

/-- Where all names are walked, the last of them is entered. -/
theorem Onward.last_walked (h : d.Onward path before [] place) {init : List String} {last : String}
    (hbefore : before = init ++ [last]) : ∃ above, d.walk (d.start path) init = .ok above ∧
      d.enter above last = .ok place := by
  have hwalked := h.walked
  rw [hbefore] at hwalked
  obtain ⟨above, hinit, hlast⟩ := walk_append_eq_ok hwalked
  refine ⟨above, hinit, ?_⟩
  rw [walk] at hlast
  cases henter : d.enter above last with
  | error e =>
      rw [henter] at hlast
      cases hlast
  | ok next =>
      rw [henter] at hlast
      exact hlast

/-! ### Growth -/

/-- Nothing has changed but that there are more directories, none of them `depth` names deep. -/
structure Grown (depth : Nat) (d d' : Disk) : Prop where
  evolves : d.Evolves d'
  found : ∀ {names node}, d.find? names = some node → d'.find? names = some node
  deep : ∀ {names}, depth ≤ names.length → d'.find? names = d.find? names

theorem Grown.trans (h : Grown depth d d₁) (h' : Grown depth d₁ d') : Grown depth d d' :=
  ⟨h.evolves.trans h'.evolves, fun hfind => h'.found (h.found hfind),
    fun hdeep => (h'.deep hdeep).trans (h.deep hdeep)⟩

theorem Untouched.grown (h : d.Untouched d') : Grown depth d d' :=
  ⟨h.evolves, fun hfind => (h.find? _).trans hfind, fun _ => h.find? _⟩

theorem makeDirectory_evolves (hmake : makeDirectory path d = .ok () d') : d.Evolves d' := by
  obtain ⟨d₀, above, name, slash, huntouched, hspot, hin, rfl⟩ := makeDirectory_eq_ok hmake
  have hfree : d₀.find? (above ++ [name]) ≠ some .directory := by
    rw [huntouched.find?, (inside_eq_ok hin).2]
    simp
  refine huntouched.evolves.trans ⟨set_keeps .directory (by simp) hfree, fun hsound => ?_,
    List.suffix_rfl⟩
  exact hsound.bind (hsound.directory_of_spot ((huntouched.spot path).trans hspot)) hfree
    (Nat.le_refl _) (by simp)

/-- A directory is made where the path leads, and only if nothing was there. -/
theorem makeDirectory_grown (h : d.Onward path before after place)
    (hdepth : after = [] ∨ (place ++ plain after).length < depth)
    (hmake : makeDirectory path d = .ok () d') : Grown depth d d' := by
  have hevolves := makeDirectory_evolves hmake
  obtain ⟨d₀, above, name, slash, huntouched, hspot, hin, rfl⟩ := makeDirectory_eq_ok hmake
  obtain ⟨before', hnames, hwalk, hdot, hup⟩ := spot_eq_entry hspot
  rw [h.names] at hnames
  have hlength : (above ++ [name]).length < depth := by
    rcases List.eq_nil_or_concat after with rfl | ⟨init, last, rfl⟩
    · -- Whoever can be walked to is there already.
      rw [List.append_nil] at hnames
      obtain ⟨next, hnext, henter⟩ := h.last_walked hnames
      rw [hwalk] at hnext
      cases hnext
      rw [(enter_name hdot hup henter).2] at hin
      cases hin
    · rw [List.concat_eq_append, ← List.append_assoc] at hnames
      obtain ⟨rfl, hlast⟩ := List.append_inj' hnames rfl
      cases hlast
      have honward : ".." ∉ init := fun hmem => h.onward (by simp [hmem])
      obtain ⟨next, hnext, hinit⟩ := walk_append_eq_ok hwalk
      rw [h.walked] at hnext
      cases hnext
      rw [walk_of_plain honward hinit]
      have hlater := hdepth.resolve_left (by simp)
      rwa [List.concat_eq_append, plain_concat hdot, ← List.append_assoc] at hlater
  have hfree : d₀.find? (above ++ [name]) = none := (huntouched.find? _).trans (inside_eq_ok hin).2
  have hfind := find?_set (show above ++ [name] ≠ [] by simp) d₀ .directory
  refine ⟨hevolves, fun {names node} hnames => ?_, fun {names} hdeep => ?_⟩
  · rw [hfind, if_neg, huntouched.find?]
    · exact hnames
    · rintro rfl
      rw [← huntouched.find?, hfree] at hnames
      cases hnames
  · rw [hfind, if_neg, huntouched.find?]
    rintro rfl
    omega

/-- One induction over the directories above: what every call on them keeps, all of them keep. -/
theorem makeDirectoriesWithin_leaves {R : Disk → Disk → Prop} {G : String → Disk → Prop}
    (huntouched : ∀ {d d'}, d.Untouched d' → R d d')
    (htrans : ∀ {d d₁ d'}, R d d₁ → R d₁ d' → R d d')
    (hkeep : ∀ {path d d'}, G path d → R d d' → G path d')
    (habove : ∀ {path above d}, G path d → Path.parent? path = some above → above ≠ "" → G above d)
    (hmake : ∀ {path d d'}, G path d → makeDirectory path d = .ok () d' → R d d')
    (fuel : Nat) (hgood : G path d) : R d (Call.after (makeDirectoriesWithin fuel path d)) := by
  induction fuel generalizing path d with
  | zero => exact huntouched (.refl d)
  | succ fuel ih =>
      rw [makeDirectoriesWithin]
      dsimp only
      split
      · exact huntouched (.refl d)
      split
      · rename_i hfirst
        exact hmake hgood hfirst
      · rename_i d₁ hfirst
        have hfirst' := huntouched (makeDirectory_eq_error hfirst)
        cases hparent : Path.parent? path with
        | none => exact hfirst'
        | some above =>
            have hmany : R d₁ (Call.after (makeDirectoriesWithin fuel above d₁)) := by
              by_cases hempty : above = ""
              · subst hempty
                cases fuel <;> exact huntouched (.refl d₁)
              · exact ih (habove (hkeep hgood hfirst') hparent hempty)
            dsimp only
            split
            · rename_i hcall
              rw [hcall] at hmany
              exact htrans hfirst' hmany
            · rename_i d₂ hcall
              rw [hcall] at hmany
              have hsofar := htrans hfirst' hmany
              split
              · rename_i hagain
                exact htrans hsofar (hmake (hkeep hgood hsofar) hagain)
              · rename_i hagain
                have hlast := htrans hsofar (huntouched (makeDirectory_eq_error hagain))
                split <;> exact hlast
      · rename_i hfirst
        have hfirst' := huntouched (makeDirectory_eq_error hfirst)
        split <;> exact hfirst'

theorem isDirectoryAt_of_makeDirectory (hmake : makeDirectory path d = .ok () d') :
    d'.isDirectoryAt path = true := by
  have hkeeps := (makeDirectory_evolves hmake).keeps
  obtain ⟨d₀, above, name, slash, huntouched, hspot, hin, rfl⟩ := makeDirectory_eq_ok hmake
  refine isDirectoryAt_entry (hkeeps.spot hspot) ?_
  rw [inside_of_fits (inside_eq_ok hin).1, find?_set (by simp), if_pos rfl]

theorem makeDirectories_evolves (path : String) (d : Disk) :
    d.Evolves (Call.after (makeDirectories path d)) :=
  @makeDirectoriesWithin_leaves d path Evolves (fun _ _ => True) Untouched.evolves Evolves.trans
    (fun _ _ => trivial) (fun _ _ _ => trivial) (fun _ => makeDirectory_evolves) (path.length + 1)
    trivial

/-- Every file and device is where it was, and there is no other. -/
def SameFiles (d d' : Disk) : Prop :=
  ∀ names node, node ≠ .directory → (d'.find? names = some node ↔ d.find? names = some node)

theorem Untouched.sameFiles (h : d.Untouched d') : d.SameFiles d' :=
  fun names _ _ => by rw [h.find? names]

theorem SameFiles.trans {d₁ : Disk} (h : d.SameFiles d₁) (h' : d₁.SameFiles d') : d.SameFiles d' :=
  fun names node hnode => (h' names node hnode).trans (h names node hnode)

theorem makeDirectory_sameFiles (h : makeDirectory path d = .ok () d') : d.SameFiles d' := by
  obtain ⟨d₀, above, name, slash, huntouched, -, hin, rfl⟩ := makeDirectory_eq_ok h
  have hfree := (huntouched.find? _).trans (inside_eq_ok hin).2
  refine huntouched.sameFiles.trans ?_
  intro names node hnode
  rw [find?_set (by simp)]
  by_cases hnames : names = above ++ [name]
  · rw [if_pos hnames, hnames, hfree]
    exact iff_of_false (fun heq => hnode (Option.some.inj heq).symm) (by simp)
  · rw [if_neg hnames]

theorem makeDirectories_sameFiles (path : String) (d : Disk) :
    d.SameFiles (Call.after (makeDirectories path d)) :=
  @makeDirectoriesWithin_leaves d path SameFiles (fun _ _ => True) Untouched.sameFiles SameFiles.trans
    (fun _ _ => trivial) (fun _ _ _ => trivial) (fun _ => makeDirectory_sameFiles) (path.length + 1)
    trivial

/-- The last directory of a path is made, unless it is there already. -/
def makeLast (path : String) : DiskCall Unit := fun d =>
  match makeDirectory path d with
  | .ok () d => .ok () d
  | .error e d => if d.isDirectoryAt path then .ok () d else .error e d

theorem isDirectoryAt_of_makeLast (h : makeLast path d = .ok () d') : d'.isDirectoryAt path = true := by
  unfold makeLast at h
  split at h
  · cases h
    exact isDirectoryAt_of_makeDirectory ‹_›
  · split at h
    · cases h
      assumption
    · cases h

/-- Directories that could be made are there. -/
theorem makeDirectories_eq_ok (h : makeDirectories path d = .ok () d') :
    d.Evolves d' ∧ (path = "" ∨ d'.isDirectoryAt path = true) := by
  have hevolves := makeDirectories_evolves path d
  rw [h, Call.after_ok] at hevolves
  refine ⟨hevolves, ?_⟩
  rw [makeDirectories, makeDirectoriesWithin] at h
  dsimp only at h
  by_cases hempty : path = ""
  · exact .inl hempty
  · rw [if_neg hempty] at h
    refine .inr ?_
    split at h
    · cases h
      exact isDirectoryAt_of_makeDirectory ‹_›
    · split at h
      · cases h
      · split at h
        · cases h
        · exact isDirectoryAt_of_makeLast h
    · split at h
      · cases h
        assumption
      · cases h

/-- Nothing is made where everything is there. -/
theorem makeDirectories_of_directory (hdir : path = "" ∨ d.isDirectoryAt path = true) :
    ∃ d', makeDirectories path d = .ok () d' ∧ d.Untouched d' := by
  rw [makeDirectories, makeDirectoriesWithin]
  dsimp only
  by_cases hempty : path = ""
  · rw [if_pos hempty]
    exact ⟨d, rfl, .refl d⟩
  · have hthere := hdir.resolve_left hempty
    obtain ⟨e, d', hcall, hne⟩ := makeDirectory_of_directory hthere
    have huntouched := makeDirectory_eq_error hcall
    refine ⟨d', ?_, huntouched⟩
    rw [if_neg hempty, hcall]
    have hthere' := (huntouched.isDirectoryAt path).trans hthere
    cases e with
    | notFound => exact absurd rfl hne
    | _ => exact if_pos hthere'

/-- The path leads on, and what it still has to go through is less than `depth` names deep. -/
def Within (depth : Nat) (path : String) (d : Disk) : Prop :=
  ∃ before after place, d.Onward path before after place ∧
    (after = [] ∨ (place ++ plain after).length < depth)

theorem Within.parent (h : Within depth path d) (habove : Path.Above above path) :
    Within depth above d := by
  obtain ⟨before, after, place, honward, hdepth⟩ := h
  obtain ⟨before', after', place', honward', hlast⟩ := honward.parent habove
  exact ⟨before', after', place', honward',
    hlast.imp_right fun hless => Nat.lt_trans hless.2 (hdepth.resolve_left hless.1)⟩

theorem makeDirectories_grown (h : Within depth path d) :
    Grown depth d (Call.after (makeDirectories path d)) := by
  refine makeDirectoriesWithin_leaves (G := Within depth) Untouched.grown Grown.trans ?_ ?_ ?_ _ h
  · rintro path d d' ⟨before, after, place, honward, hdepth⟩ hgrown
    exact ⟨before, after, place, honward.of_keeps hgrown.evolves.keeps, hdepth⟩
  · intro path above d hgood hparent hne
    exact hgood.parent ((Path.above_of_parent? hparent).resolve_left hne)
  · rintro path d d' ⟨before, after, place, honward, hdepth⟩ hmake
    exact makeDirectory_grown honward hdepth hmake

/-- What is there at a path that leads on is found where its names lead. -/
theorem Onward.walk_of_nodeAt? (h : d.Onward path before after place) {init : List String}
    {last : String} (hafter : after = init ++ [last]) (hsound : d.Sound)
    (hthere : d.nodeAt? path ≠ none) :
    d.walk (d.start path) (before ++ init) = .ok (place ++ plain init) ∧
      d.find? (place ++ plain after) ≠ none := by
  have hnames := h.names
  rw [hafter, ← List.append_assoc] at hnames
  have honward := hafter ▸ h.onward
  have hinit : ".." ∉ init := fun hup => honward (List.mem_append_left _ hup)
  -- Whatever the walk comes to is where the names before the last one lead.
  have hplace : ∀ {above}, d.walk (d.start path) (before ++ init) = .ok above →
      above = place ++ plain init := by
    intro above hwalk
    obtain ⟨next, hnext, hlater⟩ := walk_append_eq_ok hwalk
    rw [h.walked] at hnext
    cases hnext
    exact walk_of_plain hinit hlater
  cases hspot : d.spot path with
  | error e => exact absurd (nodeAt?_of_error hspot) hthere
  | ok s =>
      rcases spot_eq_ok hspot with ⟨hnil, -⟩ | ⟨before', last', above, hnames', hwalk, hwhere⟩
      · rw [hnil] at hnames
        simp at hnames
      · rw [hnames'] at hnames
        obtain ⟨rfl, hlast⟩ := List.append_inj' hnames rfl
        cases hlast
        obtain rfl := hplace hwalk
        refine ⟨hwalk, ?_⟩
        rw [hafter]
        rcases hwhere with ⟨hdots, -⟩ | ⟨⟨hdot, -⟩, rfl⟩
        · obtain rfl : last = "." := hdots.resolve_right fun hup => honward (by simp [hup])
          rw [plain_concat_dot, hsound.walk (hsound.start path) hwalk]
          simp
        · intro hnone
          rw [plain_concat hdot, ← List.append_assoc] at hnone
          rw [nodeAt?_of_entry hspot, inside, hnone] at hthere
          split at hthere <;> exact hthere rfl

theorem Grown.nodeAt?_of_some (h : Grown depth d d') {node : Node} (hnode : d.nodeAt? path = some node) :
    d'.nodeAt? path = some node := by
  cases hspot : d.spot path with
  | error e =>
      rw [nodeAt?_of_error hspot] at hnode
      cases hnode
  | ok s =>
      have hspot' := h.evolves.keeps.spot hspot
      cases s with
      | place place =>
          rw [nodeAt?_of_place hspot] at hnode
          rw [nodeAt?_of_place hspot', hnode]
      | entry above name slash =>
          rw [nodeAt?_of_entry hspot, inside] at hnode
          rw [nodeAt?_of_entry hspot', inside]
          split
          · rw [if_pos ‹_›] at hnode
            cases hnode
          · rw [if_neg ‹_›] at hnode
            cases hfind : d.find? (above ++ [name]) with
            | none =>
                rw [hfind] at hnode
                cases hnode
            | some there =>
                rw [h.found hfind, ← hfind]
                exact hnode

/-- What can be walked to all the way is there. -/
theorem Onward.there (h : d.Onward path before [] place) {s : Spot} (hspot : d.spot path = .ok s) :
    d.nodeAt? path ≠ none := by
  rcases spot_eq_ok hspot with ⟨-, rfl⟩ | ⟨init, last, above, hnames, hwalk, ⟨-, there, rfl⟩ | ⟨hdots, rfl⟩⟩
  · simp [nodeAt?_of_place hspot]
  · simp [nodeAt?_of_place hspot]
  · obtain ⟨above', hwalk', henter⟩ := h.last_walked (by rw [← hnames, h.names, List.append_nil])
    rw [hwalk] at hwalk'
    cases hwalk'
    rw [nodeAt?_of_entry hspot, (enter_name hdots.1 hdots.2 henter).2]
    simp [shown]

/-- Nothing has come about so deep as the last name of a path, so the directory that it is in was
there, and so was every one on the way. -/
theorem Grown.walk_before_last {init : List String} {last : String} (h : Grown depth d d')
    (hsound : d.Sound) (honward : d.Onward path before (init ++ [last]) place)
    (hdepth : depth ≤ (place ++ plain (init ++ [last])).length) (hthere : d'.nodeAt? path ≠ none) :
    d.walk (d.start path) (before ++ init) = .ok (place ++ plain init) := by
  have honward' := honward.of_keeps h.evolves.keeps
  have hsound' := h.evolves.sound hsound
  obtain ⟨hwalk', hfound⟩ := honward'.walk_of_nodeAt? rfl hsound' hthere
  have hdir : d.find? (place ++ plain init) = some .directory := by
    by_cases hdot : last = "."
    · rw [hdot, plain_concat_dot] at hdepth
      rw [← h.deep hdepth]
      exact hsound'.walk (hsound'.start path) hwalk'
    · rw [h.deep hdepth, plain_concat hdot, ← List.append_assoc] at hfound
      obtain ⟨node, hnode⟩ := Option.ne_none_iff_exists'.1 hfound
      exact hsound.rooted hnode
  obtain ⟨next, hnext, hinit⟩ := walk_append_eq_ok hwalk'
  rw [honward'.walked] at hnext
  cases hnext
  have hup : ".." ∉ init := fun hup => honward.onward (List.mem_append_left _ hup)
  rw [walk_append, honward.walked]
  exact hsound.walk_of_walk hup hdir hinit

/-- A path that finds something after growth that ends above it led there before. -/
theorem Grown.spot_back (h : Grown depth d d') (hsound : d.Sound)
    (honward : d.Onward path before after place) (hdepth : depth ≤ (place ++ plain after).length)
    (hthere : d'.nodeAt? path ≠ none) {s : Spot} (hspot' : d'.spot path = .ok s) :
    d.spot path = .ok s := by
  have hkeeps := h.evolves.keeps
  have hstart : d'.start path = d.start path := by
    rw [start, start, hkeeps.here]
  have hwalk : ∃ above, d.walk (d.start path) (Path.route path).names.dropLast = .ok above := by
    rw [honward.names]
    rcases List.eq_nil_or_concat after with rfl | ⟨init, last, rfl⟩
    · rcases List.eq_nil_or_concat before with rfl | ⟨init, last, rfl⟩
      · exact ⟨_, rfl⟩
      · obtain ⟨above, hwalk, -⟩ := honward.last_walked (List.concat_eq_append ..)
        rw [List.append_nil, List.concat_eq_append, List.dropLast_concat]
        exact ⟨above, hwalk⟩
    · rw [List.concat_eq_append] at honward hdepth ⊢
      rw [← List.append_assoc, List.dropLast_concat]
      exact ⟨_, h.walk_before_last hsound honward hdepth hthere⟩
  obtain ⟨above, hwalk⟩ := hwalk
  refine spot_of_walk hkeeps.here.symm (fun above' hwalk' => ?_) hspot'
  rw [hstart] at hwalk' ⊢
  rw [hkeeps.walk hwalk] at hwalk'
  cases hwalk'
  exact hwalk

/-- Growth that ends above a path leaves what is there. -/
theorem Grown.nodeAt? (h : Grown depth d d') (hsound : d.Sound)
    (honward : d.Onward path before after place) (hdepth : depth ≤ (place ++ plain after).length) :
    d'.nodeAt? path = d.nodeAt? path := by
  have hback : d'.nodeAt? path ≠ none → d.nodeAt? path ≠ none := by
    intro hthere
    cases hspot' : d'.spot path with
    | error e => exact absurd (nodeAt?_of_error hspot') hthere
    | ok s =>
        have hspot := h.spot_back hsound honward hdepth hthere hspot'
        rcases List.eq_nil_or_concat after with rfl | ⟨init, last, rfl⟩
        · exact honward.there hspot
        · rw [List.concat_eq_append] at honward hdepth
          cases s with
          | place there => simp [nodeAt?_of_place hspot]
          | entry above name slash =>
              obtain ⟨init', hnames, habove, hdot, -⟩ := spot_eq_entry hspot
              rw [honward.names, ← List.append_assoc] at hnames
              obtain ⟨rfl, hlast⟩ := List.append_inj' hnames rfl
              cases hlast
              rw [h.walk_before_last hsound honward hdepth hthere] at habove
              cases habove
              rw [plain_concat hdot, ← List.append_assoc] at hdepth
              rw [nodeAt?_of_entry hspot', inside, h.deep hdepth] at hthere
              rwa [nodeAt?_of_entry hspot, inside]
  cases hnode' : d'.nodeAt? path with
  | none =>
      cases hnode : d.nodeAt? path with
      | none => rfl
      | some node =>
          rw [h.nodeAt?_of_some hnode] at hnode'
          cases hnode'
  | some node =>
      obtain ⟨node', hnode⟩ := Option.ne_none_iff_exists'.1 (hback (by simp [hnode']))
      rw [hnode, ← hnode', h.nodeAt?_of_some hnode]

end Strongbox.Disk
