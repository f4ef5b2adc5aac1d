import Strongbox.Proofs.Disk.Alike
import Strongbox.Proofs.Disk.Missing
/-! Disks that differ in what one file holds, the one that is open for a log. Paths that do not lead to it
find the same on both, and lines that are put into it, on one disk or on both, make no other difference. -/
namespace Strongbox.Disk

open Call (Agree)

variable {C : Nat → ByteArray → ByteArray → Prop} {handle? : Option Handle} {P Q : String → Prop}
variable {d d' d'' : Disk} {path : String}

/-- Contents that are the same, or of the file that is open. -/
def ButFor (handle? : Option Handle) (own : Nat) (bytes bytes' : ByteArray) : Prop :=
  handle? = some (.file own) ∨ bytes' = bytes

theorem butFor_refl (own : Nat) (bytes : ByteArray) : ButFor handle? own bytes bytes := .inr rfl

theorem Alike.symm (h : Alike (ButFor handle?) d d') : Alike (ButFor handle?) d' d := by
  refine ⟨h.here.symm, h.serial.symm, h.mishaps.symm, fun names => ?_⟩
  have hnode := h.nodes names
  generalize d.find? names = found at hnode ⊢
  generalize d'.find? names = found' at hnode ⊢
  cases hnode with
  | none => exact .none
  | some hnode =>
      cases hnode with
      | file mode own contents => exact .some (.file mode own (contents.imp_right Eq.symm))
      | void => exact .some .void
      | directory => exact .some .directory

theorem Alike.trans (h : Alike (ButFor handle?) d d') (h' : Alike (ButFor handle?) d' d'') :
    Alike (ButFor handle?) d d'' := by
  refine ⟨h'.here.trans h.here, h'.serial.trans h.serial, h'.mishaps.trans h.mishaps, fun names => ?_⟩
  have hnode := h.nodes names
  have hnode' := h'.nodes names
  generalize d.find? names = found at hnode ⊢
  generalize d'.find? names = found' at hnode hnode'
  generalize d''.find? names = found'' at hnode' ⊢
  cases hnode with
  | none =>
      cases hnode'
      exact .none
  | some hnode =>
      cases hnode' with
      | some hnode' =>
          cases hnode with
          | file mode own contents =>
              cases hnode' with
              | file mode own contents' =>
                  rcases contents with hopen | rfl
                  · exact .some (.file mode own (.inl hopen))
                  · exact .some (.file mode own contents')
          | void =>
              cases hnode'
              exact .some .void
          | directory =>
              cases hnode'
              exact .some .directory

/-- A line makes no difference but in what is open. -/
theorem alike_line (handle : Handle) (bytes : ByteArray) (d : Disk) :
    Alike (ButFor (some handle)) d (extend handle bytes d) := by
  cases handle with
  | void => exact .refl butFor_refl d
  | file serial =>
      exact (alike_extend serial bytes d).mono fun h => h.imp_left fun hown => by rw [hown]

/-- A path that does not lead to what is open. -/
def Clear (d : Disk) (handle? : Option Handle) (path : String) : Prop :=
  ∀ names bytes mode own, d.status path = .ok (names, .file bytes mode own) → handle? ≠ some (.file own)

/-- Where a path leads does not depend on what files hold. -/
theorem Clear.of_alike (h : d.Clear handle? path) (halike : Alike C d d') : d'.Clear handle? path := by
  intro names bytes mode own hstatus
  rcases halike.status path with ⟨e, -, hstatus'⟩ | ⟨names', node, node', hstatus₁, hstatus', hnode⟩
  · cases hstatus.symm.trans hstatus'
  · cases hstatus.symm.trans hstatus'
    cases hnode
    exact h _ _ _ _ hstatus₁

/-- A path that leads elsewhere than to what is open. -/
theorem clear_of_elsewhere (hsound : d.Sound) (hopen : ∀ own, handle? = some (.file own) →
      ∃ file names bytes mode, d.Elsewhere path file ∧ d.EntryAt file names ∧
        d.find? names = some (.file bytes mode own)) : d.Clear handle? path := by
  intro names bytes mode own hstatus hhandle
  obtain ⟨file, names', bytes', mode', helsewhere, hentry', hfind'⟩ := hopen own hhandle
  obtain ⟨hentry, hfind⟩ := entryAt_of_status hstatus (by simp)
  exact helsewhere.ne hentry hentry' (hsound.single hfind hfind')

/-- Disks that differ in what is open only, where none of some paths leads. -/
structure Abreast (handle? : Option Handle) (P : String → Prop) (d d' : Disk) : Prop where
  alike : Alike (ButFor handle?) d d'
  sound : d.Sound
  clear : ∀ path, P path → d.Clear handle? path

namespace Abreast

theorem mono (h : Abreast handle? P d d') (hPQ : ∀ path, Q path → P path) : Abreast handle? Q d d' :=
  ⟨h.alike, h.sound, fun path hpath => h.clear path (hPQ path hpath)⟩

theorem symm (h : Abreast handle? P d d') : Abreast handle? P d' d :=
  ⟨h.alike.symm, h.alike.sound h.sound, fun path hpath => (h.clear path hpath).of_alike h.alike⟩

/-- A line on one of the disks only. -/
theorem line {handle : Handle} (h : Abreast (some handle) P d d') (bytes : ByteArray) :
    Abreast (some handle) P (extend handle bytes d) d' where
  alike := (alike_line handle bytes d).symm.trans h.alike
  sound := h.sound.extend handle bytes
  clear path hpath := (h.clear path hpath).of_alike (alike_line handle bytes d)

theorem contentAt (h : Abreast handle? P d d') (hpath : P path) : d'.contentAt path = d.contentAt path := by
  have hclear := h.clear path hpath
  unfold Disk.contentAt
  rcases h.alike.status path with ⟨e, hstatus, hstatus'⟩ |
    ⟨names, node, node', hstatus, hstatus', hnode⟩
  · rw [hstatus, hstatus']
  · rw [hstatus, hstatus']
    cases hnode with
    | file mode own contents => rw [contents.resolve_left (hclear _ _ _ _ hstatus)]
    | void => rfl
    | directory => rfl

/-- Both disks are read after the same calls. -/
theorem later (h : Abreast handle? P d d') {mishaps : List (Option Mishap)}
    (hmishaps : mishaps <:+ d.mishaps) :
    Abreast handle? P { d with mishaps } { d' with mishaps } := by
  have huntouched : d.Untouched { d with mishaps } := ⟨mishaps, hmishaps, rfl⟩
  refine ⟨h.alike.later mishaps, h.sound.untouched huntouched, fun path hpath => ?_⟩
  intro names bytes mode own hstatus
  exact h.clear path hpath names bytes mode own ((huntouched.status path).symm.trans hstatus)

theorem readFound (h : Abreast handle? P d d') (hpath : P path) :
    Agree Eq (Abreast handle? P) (readFound path d) (readFound path d') := by
  rw [readFound_eq, readFound_eq, h.contentAt hpath]
  cases d.contentAt path with
  | ok bytes => exact .ok rfl h
  | error e => exact .error e h

theorem readText (h : Abreast handle? P d d') (hpath : P path) :
    Agree Eq (Abreast handle? P) (readText path d) (readText path d') := by
  have hread : Agree Eq (Abreast handle? P) (readBytes path d) (readBytes path d') := by
    rw [readBytes_eq, attempt, attempt, h.alike.mishaps]
    match hmishaps : d.mishaps with
    | [] => exact h.readFound hpath
    | none :: later => exact (h.later (hmishaps ▸ List.suffix_cons none later)).readFound hpath
    | some m :: later => exact .error _ (h.later (hmishaps ▸ List.suffix_cons (some m) later))
  refine hread.bind ?_
  rintro bytes _ w w' rfl hw
  cases String.fromUTF8? bytes with
  | some text => exact .ok rfl hw
  | none => exact .error _ hw

end Abreast

/-- After a change no path is known to lead to another file than what is open. -/
def Nowhere (_ : String) : Prop := False

theorem Abreast.nowhere (h : Abreast handle? P d d') : Abreast handle? Nowhere d d' :=
  h.mono fun _ => False.elim

theorem Alike.abreast {ε α β : Type} {R : α → β → Prop} {result : EStateM.Result ε Disk α}
    {result' : EStateM.Result ε Disk β} (h : Agree R (Alike (ButFor handle?)) result result')
    (hsound : (Call.after result).Sound) : Agree R (Abreast handle? Nowhere) result result' := by
  cases h with
  | ok answers states => exact .ok answers ⟨states, hsound, fun _ => False.elim⟩
  | error e states => exact .error e ⟨states, hsound, fun _ => False.elim⟩

end Strongbox.Disk
