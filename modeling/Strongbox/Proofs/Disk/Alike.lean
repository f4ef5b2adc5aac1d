import Mathlib.Data.Option.Basic
import Strongbox.Proofs.Disk.Calls
import Strongbox.Proofs.Disk.Growth
/-! Disks that are the same but for what some files hold. Where paths lead, which calls succeed and what
is made, moved and removed does not depend on what files hold, so calls on disks that are alike end in
the same way and leave disks that are alike. -/
namespace Strongbox.Disk

/-- Nodes that are the same, or files whose contents are related. What relates them may depend on the
number of the file. -/
inductive NodeAlike (C : Nat → ByteArray → ByteArray → Prop) : Node → Node → Prop
  | file {bytes bytes' : ByteArray} (mode serial : Nat) (contents : C serial bytes bytes') :
      NodeAlike C (.file bytes mode serial) (.file bytes' mode serial)
  | void : NodeAlike C .void .void
  | directory : NodeAlike C .directory .directory

structure Alike (C : Nat → ByteArray → ByteArray → Prop) (d d' : Disk) : Prop where
  here : d'.here = d.here
  serial : d'.serial = d.serial
  mishaps : d'.mishaps = d.mishaps
  nodes : ∀ names, Option.Rel (NodeAlike C) (d.find? names) (d'.find? names)

/-- A relation of contents that outlives what is put at the end of a file. -/
structure Lasting (C : Nat → ByteArray → ByteArray → Prop) : Prop where
  refl : ∀ serial bytes, C serial bytes bytes
  append : ∀ {serial bytes bytes'} (text : String), C serial bytes bytes' →
    C serial (bytes ++ text.toUTF8) (bytes' ++ text.toUTF8)

variable {C D : Nat → ByteArray → ByteArray → Prop} {d d' : Disk} {path : String} {names : List String}

theorem NodeAlike.mono {node node' : Node} (h : NodeAlike C node node')
    (hCD : ∀ {serial bytes bytes'}, C serial bytes bytes' → D serial bytes bytes') :
    NodeAlike D node node' := by
  cases h with
  | file mode serial contents => exact .file mode serial (hCD contents)
  | void => exact .void
  | directory => exact .directory

theorem NodeAlike.refl (hC : ∀ serial bytes, C serial bytes bytes) (node : Node) :
    NodeAlike C node node := by
  cases node with
  | file bytes mode serial => exact .file mode serial (hC serial bytes)
  | void => exact .void
  | directory => exact .directory

theorem Alike.refl (hC : ∀ serial bytes, C serial bytes bytes) (d : Disk) : Alike C d d := by
  refine ⟨rfl, rfl, rfl, fun names => ?_⟩
  cases d.find? names with
  | none => exact .none
  | some node => exact .some (.refl hC node)

theorem Alike.mono (h : Alike C d d')
    (hCD : ∀ {serial bytes bytes'}, C serial bytes bytes' → D serial bytes bytes') : Alike D d d' := by
  refine ⟨h.here, h.serial, h.mishaps, fun names => ?_⟩
  have hnode := h.nodes names
  generalize d.find? names = found at hnode
  generalize d'.find? names = found' at hnode
  cases hnode with
  | none => exact .none
  | some hnode => exact .some (hnode.mono hCD)

namespace Alike

theorem directory_iff (h : Alike C d d') (names : List String) :
    d.find? names = some .directory ↔ d'.find? names = some .directory := by
  have hnode := h.nodes names
  generalize d.find? names = found at hnode ⊢
  generalize d'.find? names = found' at hnode ⊢
  cases hnode with
  | none => simp
  | some hnode => cases hnode <;> simp

theorem keeps (h : Alike C d d') : d.KeepsDirectories d' :=
  ⟨h.here, fun names hdir => (h.directory_iff names).1 hdir⟩

theorem sound (h : Alike C d d') (hsound : d.Sound) : d'.Sound := by
  have hfile : ∀ {names bytes mode serial}, d'.find? names = some (.file bytes mode serial) →
      ∃ bytes, d.find? names = some (.file bytes mode serial) := by
    intro names bytes mode serial hfound
    have hnode := h.nodes names
    rw [hfound] at hnode
    generalize d.find? names = found at hnode
    cases hnode with
    | some hnode =>
        cases hnode with
        | file mode serial contents => exact ⟨_, rfl⟩
  have hsome : ∀ {names node}, d'.find? names = some node → ∃ node, d.find? names = some node := by
    intro names node hfound
    have hnode := h.nodes names
    rw [hfound] at hnode
    generalize d.find? names = found at hnode ⊢
    cases hnode with
    | some hnode => exact ⟨_, rfl⟩
  refine ⟨?_, ?_, ?_, ?_⟩
  · rw [h.here]
    exact (h.directory_iff _).1 hsound.homed
  · intro above name node hfound
    obtain ⟨node, hfound⟩ := hsome hfound
    exact (h.directory_iff _).1 (hsound.rooted hfound)
  · intro names names' bytes bytes' mode mode' serial hfound hfound'
    obtain ⟨bytes, hfound⟩ := hfile hfound
    obtain ⟨bytes', hfound'⟩ := hfile hfound'
    exact hsound.single hfound hfound'
  · intro names bytes mode serial hfound
    obtain ⟨bytes, hfound⟩ := hfile hfound
    rw [h.serial]
    exact hsound.fresh hfound

/-! ### Where paths lead -/

theorem inside (h : Alike C d d') (above : List String) (name : String) :
    (∃ e, d.inside above name = .error e ∧ d'.inside above name = .error e) ∨
      ∃ found found', d.inside above name = .ok found ∧ d'.inside above name = .ok found' ∧
        Option.Rel (NodeAlike C) found found' := by
  unfold Disk.inside
  by_cases hlong : nameLimit < name.utf8ByteSize
  · rw [if_pos hlong, if_pos hlong]
    exact .inl ⟨_, rfl, rfl⟩
  · rw [if_neg hlong, if_neg hlong]
    exact .inr ⟨_, _, rfl, rfl, h.nodes _⟩

theorem enter (h : Alike C d d') (above : List String) (name : String) :
    d'.enter above name = d.enter above name := by
  unfold Disk.enter
  rcases h.inside above name with ⟨e, hin, hin'⟩ | ⟨found, found', hin, hin', hnode⟩
  · rw [hin, hin']
  · rw [hin, hin']
    cases hnode with
    | none => rfl
    | some hnode => cases hnode <;> rfl

theorem walk (h : Alike C d d') (above names : List String) :
    d'.walk above names = d.walk above names := by
  induction names generalizing above with
  | nil => rfl
  | cons name later ih =>
      rw [Disk.walk, Disk.walk, h.enter]
      cases d.enter above name with
      | ok next => exact ih next
      | error e => rfl

theorem spot (h : Alike C d d') (path : String) : d'.spot path = d.spot path := by
  have hwalk := h.walk
  have henter := h.enter
  unfold Disk.spot spotOn
  simp only [hwalk, henter, h.here]

/-- What is at a path: the same failure, or nodes that are alike. -/
theorem status (h : Alike C d d') (path : String) :
    (∃ e, d.status path = .error e ∧ d'.status path = .error e) ∨
      ∃ names node node', d.status path = .ok (names, node) ∧ d'.status path = .ok (names, node') ∧
        NodeAlike C node node' := by
  unfold Disk.status
  rw [h.spot]
  cases hspot : d.spot path with
  | error e => exact .inl ⟨e, rfl, rfl⟩
  | ok s =>
      cases s with
      | place names => exact .inr ⟨names, .directory, .directory, rfl, rfl, .directory⟩
      | entry above name slash =>
          simp only [bind, Except.bind]
          rcases h.inside above name with ⟨e, hin, hin'⟩ | ⟨found, found', hin, hin', hnode⟩
          · rw [hin, hin']
            exact .inl ⟨e, rfl, rfl⟩
          · rw [hin, hin']
            cases hnode with
            | none => exact .inl ⟨_, rfl, rfl⟩
            | some hnode =>
                cases hnode with
                | file mode serial contents =>
                    cases slash with
                    | true => exact .inl ⟨_, rfl, rfl⟩
                    | false => exact .inr ⟨_, _, _, rfl, rfl, .file mode serial contents⟩
                | void =>
                    cases slash with
                    | true => exact .inl ⟨_, rfl, rfl⟩
                    | false => exact .inr ⟨_, _, _, rfl, rfl, .void⟩
                | directory => exact .inr ⟨_, _, _, rfl, rfl, .directory⟩

theorem existsAt (h : Alike C d d') (path : String) : d'.existsAt path = d.existsAt path := by
  unfold Disk.existsAt
  rcases h.status path with ⟨e, hstatus, hstatus'⟩ | ⟨names, node, node', hstatus, hstatus', -⟩
  · rw [hstatus, hstatus']
  · rw [hstatus, hstatus']
    rfl

theorem isDirectoryAt (h : Alike C d d') (path : String) :
    d'.isDirectoryAt path = d.isDirectoryAt path := by
  unfold Disk.isDirectoryAt
  rcases h.status path with ⟨e, hstatus, hstatus'⟩ | ⟨names, node, node', hstatus, hstatus', hnode⟩
  · rw [hstatus, hstatus']
  · rw [hstatus, hstatus']
    cases hnode <;> rfl

/-! ### Changes -/

theorem bind (h : Alike C d d') (hne : names ≠ []) {node node' : Node} (hnode : NodeAlike C node node')
    (serial : Nat) : Alike C { d.set names node with serial := serial }
      { d'.set names node' with serial := serial } := by
  refine ⟨h.here, rfl, h.mishaps, fun other => ?_⟩
  have hfind := find?_set hne d node other
  have hfind' := find?_set hne d' node' other
  by_cases heq : other = names
  · rw [if_pos heq] at hfind hfind'
    have hrel : Option.Rel (NodeAlike C) (some node) (some node') := .some hnode
    rw [← hfind, ← hfind'] at hrel
    exact hrel
  · rw [if_neg heq] at hfind hfind'
    have hrel := h.nodes other
    rw [← hfind, ← hfind'] at hrel
    exact hrel

theorem set (h : Alike C d d') (hne : names ≠ []) {node node' : Node} (hnode : NodeAlike C node node') :
    Alike C (d.set names node) (d'.set names node') := by
  have hbound := h.bind hne hnode d.serial
  exact ⟨h.here, h.serial, h.mishaps, hbound.nodes⟩

theorem remove (h : Alike C d d') (hne : names ≠ []) : Alike C (d.remove names) (d'.remove names) := by
  refine ⟨h.here, h.serial, h.mishaps, fun other => ?_⟩
  rw [find?_remove hne, find?_remove hne]
  by_cases heq : other = names
  · rw [if_pos heq, if_pos heq]
    exact .none
  · rw [if_neg heq, if_neg heq]
    exact h.nodes other

/-- A change of what is to happen to later calls, the same on both disks. -/
theorem later (h : Alike C d d') (mishaps : List (Option Mishap)) :
    Alike C { d with mishaps } { d' with mishaps } :=
  ⟨h.here, h.serial, rfl, h.nodes⟩

/-- Bytes go to the end of one open file on both disks. -/
theorem extendWith (h : Alike C d d') (handle : Handle) {bytes bytes' : ByteArray}
    (hC : ∀ {serial}, handle = .file serial → ∀ {names old old' mode},
      d.find? names = some (.file old mode serial) → d'.find? names = some (.file old' mode serial) →
      C serial old old' → C serial (old ++ bytes) (old' ++ bytes')) :
    Alike C (Disk.extend handle bytes d) (Disk.extend handle bytes' d') := by
  cases handle with
  | void => exact h
  | file serial =>
      refine ⟨h.here, h.serial, h.mishaps, fun names => ?_⟩
      have hnode := h.nodes names
      rw [find?_extend, find?_extend]
      generalize hfound : d.find? names = found at hnode
      generalize hfound' : d'.find? names = found' at hnode
      cases hnode with
      | none => exact .none
      | some hnode =>
          cases hnode with
          | void => exact .some .void
          | directory => exact .some .directory
          | file mode own contents =>
              simp only [Option.map_some, extended]
              by_cases hown : own = serial
              · subst hown
                rw [if_pos rfl, if_pos rfl]
                exact .some (.file mode own (hC rfl hfound hfound' contents))
              · rw [if_neg hown, if_neg hown]
                exact .some (.file mode own contents)

theorem extend (h : Alike C d d') (hC : Lasting C) (handle : Handle) (text : String) :
    Alike C (Disk.extend handle text.toUTF8 d) (Disk.extend handle text.toUTF8 d') := by
  refine h.extendWith handle ?_
  intro serial _ names old old' mode _ _ contents
  exact hC.append text contents

/-- Disks that only the content of one file tells apart. -/
theorem changedAt {serial mode : Nat} {old : ByteArray}
    (h : Alike (fun own bytes bytes' => own = serial ∨ bytes' = bytes) d d') (hsound : d.Sound)
    (hfile : d.find? names = some (.file old mode serial)) : ChangedAt names d d' := by
  refine ⟨⟨h.keeps, fun _ => h.sound hsound, ⟨[], h.mishaps⟩⟩, ?_, by simp [hfile], ?_⟩
  · intro other hother
    have hnode := h.nodes other
    generalize hfound : d.find? other = found at hnode
    generalize d'.find? other = found' at hnode
    cases hnode with
    | none => rfl
    | some hnode =>
        cases hnode with
        | void => rfl
        | directory => rfl
        | file mode own contents =>
            rcases contents with rfl | rfl
            · exact absurd (hsound.single hfound hfile) hother
            · rfl
  · intro hdir
    rw [(h.directory_iff names).2 hdir] at hfile
    cases hfile

end Alike

/-- What is put at the end of a file changes its content only. -/
theorem alike_extend (serial : Nat) (bytes : ByteArray) (d : Disk) :
    Alike (fun own bytes bytes' => own = serial ∨ bytes' = bytes) d
      (Disk.extend (.file serial) bytes d) := by
  refine ⟨rfl, rfl, rfl, fun names => ?_⟩
  rw [find?_extend]
  cases d.find? names with
  | none => exact .none
  | some node =>
      cases node with
      | void => exact .some .void
      | directory => exact .some .directory
      | file old mode own =>
          by_cases hown : own = serial
          · exact .some (.file mode own (.inl hown))
          · simp only [Option.map_some, extended, if_neg hown]
            exact .some (.file mode own (.inr rfl))

/-! ### Calls -/

open Call (Agree)

variable {α β : Type} {R : α → β → Prop}

theorem attempt_agree {call : DiskCall α} {call' : DiskCall β} (h : Alike C d d')
    (hcall : ∀ {d d'}, Alike C d d' → Agree R (Alike C) (call d) (call' d')) :
    Agree R (Alike C) (attempt call d) (attempt call' d') := by
  unfold attempt
  rw [h.mishaps]
  match d.mishaps with
  | [] => exact hcall h
  | none :: later => exact hcall (h.later later)
  | some m :: later => exact .error _ (h.later later)

theorem ask_agree {answer : Disk → Except IoError α} {answer' : Disk → Except IoError β}
    (h : Alike C d d') (hanswer : (∃ e, answer d = .error e ∧ answer' d' = .error e) ∨
      ∃ a b, answer d = .ok a ∧ answer' d' = .ok b ∧ R a b) :
    Agree R (Alike C) (ask answer d) (ask answer' d') := by
  unfold ask
  rcases hanswer with ⟨e, he, he'⟩ | ⟨a, b, ha, hb, hab⟩
  · rw [he, he']
    exact .error e h
  · rw [ha, hb]
    exact .ok hab h

theorem spot_agree (h : Alike C d d') (path : String) :
    Agree Eq (Alike C) (ask (·.spot path) d) (ask (·.spot path) d') := by
  refine ask_agree h ?_
  rw [h.spot]
  cases d.spot path with
  | error e => exact .inl ⟨e, rfl, rfl⟩
  | ok s => exact .inr ⟨s, s, rfl, rfl, rfl⟩

theorem inside_agree (h : Alike C d d') (above : List String) (name : String) :
    Agree (Option.Rel (NodeAlike C)) (Alike C) (ask (·.inside above name) d)
      (ask (·.inside above name) d') :=
  ask_agree h (h.inside above name)

theorem readBytes_agree {R : ByteArray → ByteArray → Prop} (h : Alike C d d')
    (hR : ∀ {serial bytes bytes'}, C serial bytes bytes' → R bytes bytes') (hvoid : R .empty .empty)
    (path : String) : Agree R (Alike C) (readBytes path d) (readBytes path d') := by
  refine attempt_agree h ?_
  intro d d' h
  have hstatus : Agree (fun p p' => NodeAlike C p.2 p'.2) (Alike C) (ask (·.status path) d)
      (ask (·.status path) d') := by
    refine ask_agree h ?_
    rcases h.status path with ⟨e, he, he'⟩ | ⟨names, node, node', hnode, hnode', halike⟩
    · exact .inl ⟨e, he, he'⟩
    · exact .inr ⟨_, _, hnode, hnode', halike⟩
  refine hstatus.bind ?_
  rintro ⟨names, node⟩ ⟨names', node'⟩ w w' hnode hw
  cases hnode with
  | file mode serial contents => exact .ok (hR contents) hw
  | void => exact .ok hvoid hw
  | directory => exact .error _ hw

theorem makeDirectory_agree (h : Alike C d d') (path : String) :
    Agree Eq (Alike C) (makeDirectory path d) (makeDirectory path d') := by
  refine attempt_agree h ?_
  intro d d' h
  refine (spot_agree h path).bind ?_
  rintro s s' w w' rfl hw
  cases s with
  | place names => exact .error _ hw
  | entry above name slash =>
      refine (inside_agree hw above name).bind ?_
      intro found found' w w' hfound hw
      cases hfound with
      | none => exact .ok rfl (hw.set (by simp) .directory)
      | some hnode => exact .error _ hw

theorem makeDirectoriesWithin_agree (fuel : Nat) (h : Alike C d d') (path : String) :
    Agree Eq (Alike C) (makeDirectoriesWithin fuel path d) (makeDirectoriesWithin fuel path d') := by
  induction fuel generalizing d d' path with
  | zero => exact .ok rfl h
  | succ fuel ih =>
      -- What comes of a failure depends on what is there, which is the same.
      have hlast : ∀ {d d'} (e : IoError), Alike C d d' → Agree Eq (Alike C)
          (if d.isDirectoryAt path then .ok () d else .error e d : EStateM.Result IoError Disk Unit)
          (if d'.isDirectoryAt path then .ok () d' else .error e d') := by
        intro d d' e h
        rw [h.isDirectoryAt]
        split
        · exact .ok rfl h
        · exact .error e h
      rw [makeDirectoriesWithin]
      dsimp only
      by_cases hempty : path = ""
      · rw [if_pos hempty, if_pos hempty]
        exact .ok rfl h
      · rw [if_neg hempty, if_neg hempty]
        have hmake := makeDirectory_agree h path
        generalize makeDirectory path d = result at hmake
        generalize makeDirectory path d' = result' at hmake
        cases hmake with
        | ok answers states => exact .ok rfl states
        | error e states =>
            cases e with
            | notFound =>
                cases Path.parent? path with
                | none => exact .error _ states
                | some above =>
                    have habove := ih states above
                    dsimp only
                    generalize makeDirectoriesWithin fuel above _ = result at habove ⊢
                    generalize makeDirectoriesWithin fuel above _ = result' at habove ⊢
                    cases habove with
                    | error e states => exact .error e states
                    | ok answers states =>
                        have hagain := makeDirectory_agree states path
                        dsimp only
                        generalize makeDirectory path _ = result at hagain ⊢
                        generalize makeDirectory path _ = result' at hagain ⊢
                        cases hagain with
                        | ok answers states => exact .ok rfl states
                        | error e states => exact hlast e states
            | _ => exact hlast _ states

/-- Both disks get the same file open. -/
theorem openFile_agree (h : Alike C d d') (hC : ∀ serial, C serial .empty .empty) (path : String) (mode : Nat)
    (clear : Bool) : Agree Eq (Alike C) (openFile path mode clear d) (openFile path mode clear d') := by
  refine attempt_agree h ?_
  intro d d' h
  refine (spot_agree h path).bind ?_
  rintro s s' w w' rfl hw
  cases s with
  | place names => exact .error _ hw
  | entry above name slash =>
      cases slash with
      | true => exact .error _ hw
      | false =>
          refine (inside_agree hw above name).bind ?_
          intro found found' w w' hfound hw
          cases hfound with
          | none =>
              have hcreated := hw.bind (by simp : above ++ [name] ≠ []) (.file mode w.serial (hC _))
                (w.serial + 1)
              have hcreate : create (above ++ [name]) mode w' = .ok (.file w.serial)
                  { w'.set (above ++ [name]) (.file .empty mode w.serial) with
                    serial := w.serial + 1 } := by
                rw [create, hw.serial]
              dsimp only
              rw [hcreate]
              exact .ok rfl hcreated
          | some hnode =>
              cases hnode with
              | file mode serial contents =>
                  cases clear with
                  | true => exact .ok rfl (hw.set (by simp) (.file mode serial (hC _)))
                  | false => exact .ok rfl hw
              | void => exact .ok rfl hw
              | directory => exact .error _ hw

theorem rename_agree (h : Alike C d d') (source target : String) :
    Agree Eq (Alike C) (rename source target d) (rename source target d') := by
  refine attempt_agree h ?_
  intro d d' h
  refine (spot_agree h source).bind ?_
  rintro s s' w w' rfl hw
  refine (spot_agree hw target).bind ?_
  rintro t t' w w' rfl hw
  match s, t with
  | .place _, .place _ => exact .error _ hw
  | .place _, .entry _ _ _ => exact .error _ hw
  | .entry _ _ _, .place _ => exact .error _ hw
  | .entry above name slash, .entry above' name' slash' =>
      refine (inside_agree hw above name).bind ?_
      intro found found' w w' hfound hw
      refine (inside_agree hw above' name').bind ?_
      intro there there' w w' hthere hw
      have hdir : there = some .directory ↔ there' = some .directory := by
        cases hthere with
        | none => simp
        | some hnode => cases hnode <;> simp
      cases hfound with
      | none => exact .error _ hw
      | some hnode =>
          have hmoved := (hw.remove (by simp : above ++ [name] ≠ [])).set
            (by simp : above' ++ [name'] ≠ []) hnode
          cases hnode with
          | directory => exact .error _ hw
          | file _ _ _ | void =>
              by_cases hslash : (slash || slash') = true
              · simp only [if_pos hslash]
                exact .error _ hw
              · by_cases hhere : there = some .directory
                · simp only [if_neg hslash, if_pos hhere, if_pos (hdir.1 hhere)]
                  exact .error _ hw
                · simp only [if_neg hslash, if_neg hhere, if_neg (fun h => hhere (hdir.2 h))]
                  exact .ok rfl hmoved

theorem removeFile_agree (h : Alike C d d') (path : String) :
    Agree Eq (Alike C) (removeFile path d) (removeFile path d') := by
  refine attempt_agree h ?_
  intro d d' h
  refine (spot_agree h path).bind ?_
  rintro s s' w w' rfl hw
  cases s with
  | place names => exact .error _ hw
  | entry above name slash =>
      refine (inside_agree hw above name).bind ?_
      intro found found' w w' hfound hw
      cases hfound with
      | none => exact .error _ hw
      | some hnode =>
          cases hnode with
          | directory => exact .error _ hw
          | file _ _ _ | void =>
              cases slash with
              | true => exact .error _ hw
              | false => exact .ok rfl (hw.remove (by simp))

theorem append_agree (h : Alike C d d') (handle : Handle) {bytes bytes' : ByteArray}
    (hC : ∀ {serial}, handle = .file serial → ∀ {names old old' mode},
      d.find? names = some (.file old mode serial) → d'.find? names = some (.file old' mode serial) →
      C serial old old' → C serial (old ++ bytes) (old' ++ bytes') ∧
        ∀ n, C serial (old ++ bytes.extract 0 n) (old' ++ bytes'.extract 0 n)) :
    Agree Eq (Alike C) (append handle bytes d) (append handle bytes' d') := by
  unfold append
  rw [h.mishaps]
  match d.mishaps with
  | [] =>
      refine .ok rfl (h.extendWith handle ?_)
      intro serial hhandle names old old' mode hfound hfound' contents
      exact (hC hhandle hfound hfound' contents).1
  | none :: later =>
      refine .ok rfl ((h.later later).extendWith handle ?_)
      intro serial hhandle names old old' mode hfound hfound' contents
      exact (hC hhandle hfound hfound' contents).1
  | some m :: later =>
      refine .error _ ((h.later later).extendWith handle ?_)
      intro serial hhandle names old old' mode hfound hfound' contents
      exact (hC hhandle hfound hfound' contents).2 m.written

theorem sync_agree (h : Alike C d d') (handle : Handle) :
    Agree Eq (Alike C) (sync handle d) (sync handle d') := by
  refine attempt_agree h ?_
  intro d d' h
  cases handle with
  | file serial => exact .ok rfl h
  | void => exact .error _ h

/-- What a file holds that was opened empty. -/
theorem empty_of_openEmpty {mode mode' serial : Nat} {old : ByteArray} (hsound : d.Sound)
    (hopen : openEmpty path mode d = .ok (.file serial) d')
    (hfound : d'.find? names = some (.file old mode' serial)) : old = .empty := by
  rcases openEmpty_cases hsound hopen with ⟨hvoid, -⟩ |
    ⟨names', mode'', serial', hfile, -, hchanged, hthere⟩
  · cases hvoid
  · cases hfile
    have hsame := (hchanged.evolves.sound hsound).single hfound hthere
    rw [hsame, hthere] at hfound
    cases hfound
    rfl

/-- What goes into a file that was opened empty, all of it or a part, is all that it holds. -/
theorem openEmpty_append_agree (h : Alike C d d') (hsound : d.Sound)
    (hempty : ∀ serial, C serial .empty .empty) {bytes bytes' : ByteArray}
    (hbytes : ∀ serial, C serial bytes bytes')
    (hparts : ∀ serial n, C serial (bytes.extract 0 n) (bytes'.extract 0 n)) (path : String) (mode : Nat)
    {f g : Handle → DiskCall Unit}
    (hnext : ∀ handle w w', Alike C w w' → Agree Eq (Alike C) (f handle w) (g handle w')) :
    Agree Eq (Alike C)
      ((do let handle ← openEmpty path mode; append handle bytes; f handle : DiskCall Unit) d)
      ((do let handle ← openEmpty path mode; append handle bytes'; g handle : DiskCall Unit) d') := by
  have hopened : Agree Eq (Alike C) (openEmpty path mode d) (openEmpty path mode d') :=
    openFile_agree h hempty path mode true
  have hsound' := h.sound hsound
  generalize hopen : openEmpty path mode d = result at hopened
  generalize hopen' : openEmpty path mode d' = result' at hopened
  cases hopened with
  | error e states =>
      rw [Call.bind_of_error hopen, Call.bind_of_error hopen']
      exact .error e states
  | @ok handle handle' w w' answers states =>
      obtain rfl := answers
      rw [Call.bind_of_ok hopen, Call.bind_of_ok hopen']
      refine (append_agree states handle ?_).bind fun _ _ w w' _ hw => hnext handle w w' hw
      rintro serial rfl names old old' mode hfound hfound' -
      rw [empty_of_openEmpty hsound hopen hfound, empty_of_openEmpty hsound' hopen' hfound']
      simp only [ByteArray.empty_append]
      exact ⟨hbytes serial, hparts serial⟩

theorem writeFile_agree (h : Alike C d d') (hsound : d.Sound)
    (hC : ∀ serial bytes, C serial bytes bytes) (path : String) (bytes : ByteArray) :
    Agree Eq (Alike C) (writeFile path bytes d) (writeFile path bytes d') := by
  have hwritten := openEmpty_append_agree h hsound (fun serial => hC serial _)
    (fun serial => hC serial bytes) (fun serial n => hC serial _) path 0o644
    (f := fun _ => pure ()) (g := fun _ => pure ()) fun _ _ _ hw => .ok rfl hw
  simpa only [writeFile, bind_pure_unit] using hwritten

end Strongbox.Disk
