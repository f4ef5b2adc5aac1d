import Strongbox.Proofs.FileStore.Replacing
import Strongbox.Proofs.StoreDocument.Entries
import Strongbox.Proofs.StoreDocument.RoundTrip
import Strongbox.Proofs.Text.Bytes
/-! A change of a store file happens as a whole or not at all, whichever calls on the disk fail. The
file is looked for before the directories above it are made, so the path must lead to the same place at
both times: it may step back only out of directories that are there. -/
namespace Strongbox.FileStore

variable {path : String} {disk disk' disk₁ : Disk}

/-! ### Reading -/

/-- What is read at the path: the empty document where there is no file. -/
def Holds (path : String) (disk : Disk) (d : StoreDocument) : Prop :=
  (disk.contentAt path = .error .notFound ∧ d = .empty) ∨
    ∃ text : String, disk.contentAt path = .ok text.toUTF8 ∧ documentOf path text = .ok d

theorem documentOf_eq_error {text : String} {e : SecretError} (h : documentOf path text = .error e) :
    ∃ text', e = .failed text' := by
  unfold documentOf at h
  split at h
  · cases h
    exact ⟨_, rfl⟩
  · split at h
    · cases h
      exact ⟨_, rfl⟩
    · cases h

theorem Holds.of_text {d : StoreDocument} {text : String} (hcontent : disk.contentAt path = .ok text.toUTF8)
    (h : Holds path disk d) : documentOf path text = .ok d := by
  rcases h with ⟨hmissing, -⟩ | ⟨text', hthere, hdocument⟩
  · rw [hcontent] at hmissing
    cases hmissing
  · rw [hcontent] at hthere
    injection hthere with hbytes
    have htext := Text.fromUTF8?_toUTF8 text
    rw [hbytes, Text.fromUTF8?_toUTF8] at htext
    cases htext
    exact hdocument

theorem not_holds_of_error {d : StoreDocument} {e : IoError} (hcontent : disk.contentAt path = .error e)
    (hthere : e ≠ .notFound) : ¬ Holds path disk d := by
  rintro (⟨hmissing, -⟩ | ⟨text, htext, -⟩)
  · rw [hcontent] at hmissing
    cases hmissing
    exact hthere rfl
  · rw [hcontent] at htext
    cases htext

theorem not_holds_of_bytes {d : StoreDocument} {bytes : ByteArray}
    (hcontent : disk.contentAt path = .ok bytes) (htext : String.fromUTF8? bytes = none) :
    ¬ Holds path disk d := by
  rintro (⟨hmissing, -⟩ | ⟨text, hthere, -⟩)
  · rw [hcontent] at hmissing
    cases hmissing
  · rw [hcontent] at hthere
    cases hthere
    rw [Text.fromUTF8?_toUTF8] at htext
    cases htext

/-- Reading leaves the disk alone. It fails where a call is struck or nothing can be read. -/
theorem load_cases (path : String) (disk : Disk) :
    match load path disk with
    | .ok d disk' => disk.Untouched disk' ∧ Holds path disk d
    | .error e disk' => disk.Untouched disk' ∧ (∃ text, e = .failed text) ∧
        (disk.LastStruck disk' ∨ ∀ d, ¬ Holds path disk d) := by
  have hread := Disk.readText_cases path disk
  rw [load]
  cases hcall : Disk.readText path disk with
  | ok text disk₁ =>
      rw [hcall] at hread
      obtain ⟨huntouched, hcontent⟩ := hread
      dsimp only
      cases hdocument : documentOf path text with
      | ok d => exact ⟨huntouched, .inr ⟨text, hcontent, hdocument⟩⟩
      | error e =>
          refine ⟨huntouched, documentOf_eq_error hdocument, .inr fun d hholds => ?_⟩
          exact absurd ((hholds.of_text hcontent).symm.trans hdocument) (by simp)
  | error e disk₁ =>
      rw [hcall] at hread
      obtain ⟨huntouched, hreason⟩ := hread
      by_cases hmissing : e = .notFound
      · subst hmissing
        exact ⟨huntouched, .inl ⟨hreason.resolve_right fun h => h.1 rfl, rfl⟩⟩
      · have hnothing : disk.LastStruck disk₁ ∨ ∀ d, ¬ Holds path disk d := by
          rcases hreason with hcontent | ⟨-, hlast | ⟨bytes, hcontent, htext⟩⟩
          · exact .inr fun d => not_holds_of_error hcontent hmissing
          · exact .inl hlast
          · exact .inr fun d => not_holds_of_bytes hcontent htext
        cases e with
        | notFound => exact absurd rfl hmissing
        | _ => exact ⟨huntouched, ⟨_, rfl⟩, hnothing⟩

theorem Holds.of_untouched {d : StoreDocument} (h : Holds path disk d) (huntouched : disk.Untouched disk') :
    Holds path disk' d := by
  unfold Holds
  rwa [huntouched.contentAt path]

theorem Holds.version_le {d : StoreDocument} (h : Holds path disk d) :
    d.version ≤ StoreDocument.currentVersion := by
  rcases h with ⟨-, rfl⟩ | ⟨text, -, hdocument⟩
  · exact Nat.le_refl _
  · unfold documentOf at hdocument
    split at hdocument
    · cases hdocument
    · split at hdocument
      · cases hdocument
      · cases hdocument
        exact Nat.not_lt.1 ‹_›

/-- What was saved is read. -/
theorem holds_of_bytesAt? {d : StoreDocument} (hversion : d.version ≤ StoreDocument.currentVersion)
    (h : disk.bytesAt? path = some d.render.toUTF8) : Holds path disk d := by
  refine .inr ⟨d.render, Disk.contentAt_of_bytesAt? h, ?_⟩
  rw [documentOf, StoreDocument.read?_render hversion]
  exact if_neg (Nat.not_lt.2 hversion)

/-- There is one thing to read. -/
theorem Holds.unique {d d' : StoreDocument} (h : Holds path disk d) (h' : Holds path disk d') : d = d' := by
  rcases h with ⟨hmissing, rfl⟩ | ⟨text, hthere, hdocument⟩
  · rcases h' with ⟨-, rfl⟩ | ⟨text', hthere', -⟩
    · rfl
    · rw [hmissing] at hthere'
      cases hthere'
  · have hdocument' := h'.of_text hthere
    rw [hdocument] at hdocument'
    cases hdocument'
    rfl

/-- Where an entry is read, there is a file. -/
theorem Holds.forward {d : StoreDocument} (h : Holds path disk d) {service name : String}
    (hentry : (d.get? service name).isSome) : Forward path disk := by
  rcases h with ⟨-, rfl⟩ | ⟨text, hthere, -⟩
  · cases hentry
  · cases hspot : disk.spot path with
    | ok s => exact forward_of_spot hspot
    | error e =>
        unfold Disk.contentAt Disk.status at hthere
        rw [hspot] at hthere
        cases hthere

/-! ### Whole calls -/

/-- What putting a blob leaves of a document: the entry is there, and every other one is as it was. -/
theorem put_cases (hsound : disk.Sound) (hforward : Forward path disk) (key : NativeKey) (blob : String) :
    match put path key blob disk with
    | .ok () disk' => ∃ d : StoreDocument, Holds path disk d ∧ disk.Evolves disk' ∧
        disk'.bytesAt? path = some (({ d with version := StoreDocument.currentVersion } :
          StoreDocument).insert key.service key.key blob).render.toUTF8
    | .error e disk' => (∃ text, e = .failed text) ∧ Spared path disk disk' := by
  have hload := load_cases path disk
  rw [put]
  cases hcall : load path disk with
  | error e disk₁ =>
      rw [hcall] at hload
      rw [Call.bind_of_error hcall]
      exact ⟨hload.2.1, .ofUntouched hload.1⟩
  | ok d disk₁ =>
      rw [hcall] at hload
      obtain ⟨huntouched, hholds⟩ := hload
      rw [Call.bind_of_ok hcall]
      have hsave := save_cases (hsound.untouched huntouched) (hforward.of_keeps huntouched.keeps)
        (({ d with version := StoreDocument.currentVersion } : StoreDocument).insert
          key.service key.key blob)
      cases hcall' : save path (({ d with version := StoreDocument.currentVersion } :
          StoreDocument).insert key.service key.key blob) disk₁ with
      | ok _ disk' =>
          rw [hcall'] at hsave
          exact ⟨d, hholds, huntouched.evolves.trans hsave.1, hsave.2⟩
      | error e disk' =>
          rw [hcall'] at hsave
          exact ⟨hsave.1, hsave.2.after_untouched huntouched⟩

theorem delete_cases (hsound : disk.Sound) (path : String) (key : NativeKey) :
    match delete path key disk with
    | .ok true disk' => ∃ d : StoreDocument, Holds path disk d ∧ (d.get? key.service key.key).isSome ∧
        disk.Evolves disk' ∧ disk'.bytesAt? path = some (d.erase key.service key.key).render.toUTF8
    | .ok false disk' => disk.Untouched disk' ∧
        ∃ d : StoreDocument, Holds path disk d ∧ d.get? key.service key.key = none
    | .error e disk' => (∃ text, e = .failed text) ∧ Spared path disk disk' := by
  have hload := load_cases path disk
  rw [delete]
  cases hcall : load path disk with
  | error e disk₁ =>
      rw [hcall] at hload
      rw [Call.bind_of_error hcall]
      exact ⟨hload.2.1, .ofUntouched hload.1⟩
  | ok d disk₁ =>
      rw [hcall] at hload
      obtain ⟨huntouched, hholds⟩ := hload
      rw [Call.bind_of_ok hcall]
      by_cases hentry : (d.get? key.service key.key).isSome = true
      · rw [if_pos hentry]
        have hforward := hholds.forward hentry
        have hsave := save_cases (hsound.untouched huntouched) (hforward.of_keeps huntouched.keeps)
          (d.erase key.service key.key)
        cases hcall' : save path (d.erase key.service key.key) disk₁ with
        | ok _ disk' =>
            rw [hcall'] at hsave
            rw [Call.bind_of_ok hcall']
            exact ⟨d, hholds, hentry, huntouched.evolves.trans hsave.1, hsave.2⟩
        | error e disk' =>
            rw [hcall'] at hsave
            rw [Call.bind_of_error hcall']
            exact ⟨hsave.1, hsave.2.after_untouched huntouched⟩
      · rw [if_neg hentry]
        exact ⟨huntouched, d, hholds, by simpa using hentry⟩

/-- What a call leaves that reads the document first. -/
theorem after_load_bind {α : Type} {next : StoreDocument → StoreCall Disk α} {P : Disk → Prop}
    (hread : ∀ disk', disk.Untouched disk' → P disk')
    (hnext : ∀ d disk', disk.Untouched disk' → P (Call.after (next d disk'))) :
    P (Call.after ((load path >>= next) disk)) := by
  have hload := load_cases path disk
  cases hcall : load path disk with
  | error e disk' =>
      rw [hcall] at hload
      rw [Call.bind_of_error hcall]
      exact hread disk' hload.1
  | ok d disk' =>
      rw [hcall] at hload
      rw [Call.bind_of_ok hcall]
      exact hnext d disk' hload.1

theorem put_evolves (hsound : disk.Sound) (path : String) (key : NativeKey) (blob : String) :
    disk.Evolves (Call.after (put path key blob disk)) := by
  rw [put]
  refine after_load_bind (fun _ huntouched => huntouched.evolves) fun d disk' huntouched => ?_
  exact huntouched.evolves.trans (save_evolves (hsound.untouched huntouched) path _)

theorem delete_evolves (hsound : disk.Sound) (path : String) (key : NativeKey) :
    disk.Evolves (Call.after (delete path key disk)) := by
  have hcases := delete_cases hsound path key
  cases hcall : delete path key disk with
  | ok existed disk' =>
      rw [hcall] at hcases
      cases existed with
      | true =>
          obtain ⟨d, -, -, hevolves, -⟩ := hcases
          exact hevolves
      | false => exact hcases.1.evolves
  | error e disk' =>
      rw [hcall] at hcases
      exact hcases.2.evolves

theorem get_untouched (path : String) (key : NativeKey) (disk : Disk) :
    disk.Untouched (Call.after (get path key disk)) := by
  rw [get]
  exact after_load_bind (fun _ huntouched => huntouched) fun _ _ huntouched => huntouched

/-! ### All or nothing -/

/-- A call that fails and leaves the disk alone. -/
def Refused {α : Type} (disk : Disk) (result : EStateM.Result SecretError Disk α) : Prop :=
  ∃ text disk', result = .error (.failed text) disk' ∧ disk.Untouched disk'

/-- What callers may expect of each call on a store file, whatever strikes the calls on the disk. -/
structure AllOrNothing (path : String) (disk : Disk) : Prop where
  put : ∀ key blob, match put path key blob disk with
    | .ok () disk' => ∃ d d' : StoreDocument, Holds path disk d ∧
        d' = ({ d with version := StoreDocument.currentVersion } : StoreDocument).insert
          key.service key.key blob ∧
        (∀ service name, d'.get? service name =
          if service = key.service ∧ name = key.key then some blob else d.get? service name) ∧
        disk'.bytesAt? path = some d'.render.toUTF8
    | .error e disk' => (∃ text, e = .failed text) ∧ Spared path disk disk'
  delete : ∀ key, match delete path key disk with
    | .ok true disk' => ∃ d d' : StoreDocument, Holds path disk d ∧
        (d.get? key.service key.key).isSome ∧ d' = d.erase key.service key.key ∧
        (∀ service name, d'.get? service name =
          if service = key.service ∧ name = key.key then none else d.get? service name) ∧
        disk'.bytesAt? path = some d'.render.toUTF8
    | .ok false disk' => disk.Untouched disk' ∧
        ∃ d : StoreDocument, Holds path disk d ∧ d.get? key.service key.key = none
    | .error e disk' => (∃ text, e = .failed text) ∧ Spared path disk disk'
  get : ∀ key, disk.Untouched (Call.after (get path key disk))
  /-- Nothing is done to what is no text, no document, or one of a later version. -/
  unreadable : (∀ d, ¬ Holds path disk d) → ∀ key,
    (∀ blob, Refused disk (FileStore.put path key blob disk)) ∧
      Refused disk (FileStore.delete path key disk) ∧ Refused disk (FileStore.get path key disk)
  /-- Deleting what is not there writes nothing; only the reading may be struck. -/
  absent : ∀ key (d : StoreDocument), Holds path disk d → d.get? key.service key.key = none →
    match FileStore.delete path key disk with
    | .ok existed disk' => existed = false ∧ disk.Untouched disk'
    | .error _ disk' => disk.Untouched disk' ∧ disk.LastStruck disk'

theorem load_of_unreadable (h : ∀ d, ¬ Holds path disk d) : Refused disk (load path disk) := by
  have hload := load_cases path disk
  cases hcall : load path disk with
  | ok d disk₁ =>
      rw [hcall] at hload
      exact absurd hload.2 (h d)
  | error e disk₁ =>
      rw [hcall] at hload
      obtain ⟨huntouched, ⟨text, rfl⟩, -⟩ := hload
      exact ⟨text, disk₁, rfl, huntouched⟩

/-- What starts by reading fails with the reading. -/
theorem Refused.bind {α β : Type} {call : StoreCall Disk α} (h : Refused disk (call disk))
    (next : α → StoreCall Disk β) : Refused disk ((call >>= next) disk) := by
  obtain ⟨text, disk', hcall, huntouched⟩ := h
  exact ⟨text, disk', Call.bind_of_error hcall next, huntouched⟩

theorem delete_of_absent {key : NativeKey} {d : StoreDocument} (hholds : Holds path disk d)
    (habsent : d.get? key.service key.key = none) :
    match delete path key disk with
    | .ok existed disk' => existed = false ∧ disk.Untouched disk'
    | .error _ disk' => disk.Untouched disk' ∧ disk.LastStruck disk' := by
  have hload := load_cases path disk
  rw [FileStore.delete]
  cases hcall : load path disk with
  | ok d' disk₁ =>
      rw [hcall] at hload
      obtain rfl := hholds.unique hload.2
      rw [Call.bind_of_ok hcall, habsent]
      exact ⟨rfl, hload.1⟩
  | error e disk₁ =>
      rw [hcall] at hload
      rw [Call.bind_of_error hcall]
      exact ⟨hload.1, hload.2.2.resolve_right fun h => h d hholds⟩

theorem allOrNothing (hsound : disk.Sound) (hforward : Forward path disk) : AllOrNothing path disk where
  put := by
    intro key blob
    have hcases := put_cases hsound hforward key blob
    cases hcall : FileStore.put path key blob disk with
    | ok _ disk' =>
        rw [hcall] at hcases
        obtain ⟨d, hholds, -, hbytes⟩ := hcases
        exact ⟨d, _, hholds, rfl, StoreDocument.get?_insert _ _ _ _, hbytes⟩
    | error e disk' =>
        rw [hcall] at hcases
        exact hcases
  delete := by
    intro key
    have hcases := delete_cases hsound path key
    cases hcall : FileStore.delete path key disk with
    | ok existed disk' =>
        rw [hcall] at hcases
        cases existed with
        | true =>
            obtain ⟨d, hholds, hentry, -, hbytes⟩ := hcases
            exact ⟨d, _, hholds, hentry, rfl, StoreDocument.get?_erase _ _ _, hbytes⟩
        | false => exact hcases
    | error e disk' =>
        rw [hcall] at hcases
        exact hcases
  get := fun key => get_untouched path key disk
  unreadable := fun h key =>
    have hload := load_of_unreadable h
    ⟨fun _ => hload.bind _, hload.bind _, hload.bind _⟩
  absent := fun _ _ => delete_of_absent

/-- A disk that fills up while the document is written. -/
theorem allOrNothing_on_full_disk :
    AllOrNothing "store.json"
      ⟨[], [], [none, none, some ⟨"No space left on device (os error 28)", 7⟩], 0⟩ :=
  allOrNothing (Disk.sound_blank _) (forward_of_plain (by decide +kernel) _)

/-- A store file that cannot be read, and no room to write beside it. -/
def corrupted : Disk where
  nodes := [(["store.json.tmp"], .directory), (["store.json"], .file "not json".toUTF8 0o644 0)]
  here := []
  mishaps := []
  serial := 1

theorem sound_corrupted : corrupted.Sound := by
  have hfile := Disk.sound_of_file "store.json" "not json".toUTF8 0o644
  exact @Disk.Sound.bind _ [] "store.json.tmp" hfile .directory 1 rfl (by decide) (Nat.le_refl _)
    (by simp)

/-- The file is looked for where its path leads nowhere, and then a directory is made that the path
steps back out of: a call that failed leaves a file where there was none. -/
theorem not_allOrNothing : ¬ ∀ path disk, Disk.Sound disk → AllOrNothing path disk := by
  intro h
  have hput := (h "x/../store.json" corrupted sound_corrupted).put
    ⟨"app", "User", "name", by decide, by decide⟩ "blob"
  have hcall : (match put "x/../store.json" ⟨"app", "User", "name", by decide, by decide⟩ "blob"
      corrupted with
    | .ok _ _ => true
    | .error _ disk' =>
      disk'.nodeAt? "x/../store.json" == corrupted.nodeAt? "x/../store.json") = false := by
    decide +kernel
  split at hput
  · rename_i hok
    rw [hok] at hcall
    cases hcall
  · rename_i herror
    rw [herror] at hcall
    simp [hput.2.file] at hcall

end Strongbox.FileStore
