import Strongbox.Proofs.Disk.Above
import Strongbox.Proofs.Disk.Missing
import Strongbox.Proofs.FileStore.Independence
import Strongbox.Proofs.FileStore.Schedules
/-! Changes of different keys can come in any order: each of them is answered the same, and the file is
the same in the end. What a change does to the file depends on little: whether it can be read, whether it
can be replaced, and the document in it. None of this is told apart by the order of the changes. -/
namespace Strongbox.FileStore

open NativeStore (Answer)

variable {path : String} {disk disk' : Disk} {names : List String} {c c' : Change} {d : StoreDocument}

/-! ### Calls -/

namespace Change

/-- The change as a call on a native store. -/
def request : Change → NativeStore.Call
  | put key blob => .put key blob
  | delete key => .delete key

theorem answer_eq (path : String) (c : Change) : (native path).answer c.request = (do
    let d ← load path
    match c.rewrite d with
    | some d' => do
      save path d'
      return c.reply d
    | none => return c.reply d) := by
  funext disk
  cases c with
  | put key blob =>
      simp only [request, NativeStore.answer, native, FileStore.put, rewrite, reply, bind,
        EStateM.bind]
      cases load path disk <;> rfl
  | delete key =>
      simp only [request, NativeStore.answer, native, FileStore.delete, rewrite, reply, bind,
        EStateM.bind]
      cases load path disk with
      | error e disk₁ => rfl
      | ok d disk₁ =>
          dsimp only
          by_cases hthere : (d.get? key.service key.key).isSome = true
          · simp only [hthere, if_true, EStateM.bind]
            cases save path (d.erase key.service key.key) disk₁ <;> rfl
          · simp only [Bool.not_eq_true] at hthere
            simp only [hthere, Bool.false_eq_true, if_false]
            rfl

/-- What the call answers, and the disk after it. -/
def outcome (path : String) (c : Change) (disk : Disk) : Except SecretError Answer × Disk :=
  match (native path).answer c.request disk with
  | .ok answer disk' => (.ok answer, disk')
  | .error e disk' => (.error e, disk')

/-- What each of several calls answers, one after the other, and the disk after the last. -/
def outcomes (path : String) : List Change → Disk → List (Change × Except SecretError Answer) × Disk
  | [], disk => ([], disk)
  | c :: later, disk =>
    let (answer, disk') := c.outcome path disk
    let (answers, disk'') := outcomes path later disk'
    ((c, answer) :: answers, disk'')

theorem outcome_of_load_error {e : SecretError} (h : load path disk = .error e disk') (c : Change) :
    c.outcome path disk = (.error e, disk') := by
  rw [outcome, answer_eq, Call.bind_of_error h]

theorem outcome_of_none (h : load path disk = .ok d disk') (hrewrite : c.rewrite d = none) :
    c.outcome path disk = (.ok (c.reply d), disk') := by
  rw [outcome, answer_eq, Call.bind_of_ok h, hrewrite]
  rfl

theorem outcome_of_saved {d' : StoreDocument} {disk'' : Disk} (h : load path disk = .ok d disk')
    (hrewrite : c.rewrite d = some d') (hsave : save path d' disk' = .ok () disk'') :
    c.outcome path disk = (.ok (c.reply d), disk'') := by
  rw [outcome, answer_eq, Call.bind_of_ok h, hrewrite]
  dsimp only
  rw [Call.bind_of_ok hsave]
  rfl

theorem outcome_of_save_error {d' : StoreDocument} {e : SecretError} {disk'' : Disk}
    (h : load path disk = .ok d disk') (hrewrite : c.rewrite d = some d')
    (hsave : save path d' disk' = .error e disk'') : c.outcome path disk = (.error e, disk'') := by
  rw [outcome, answer_eq, Call.bind_of_ok h, hrewrite]
  dsimp only
  rw [Call.bind_of_error hsave]

end Change

/-! ### Files -/

/-- How a file stands to changes: it cannot be read, it cannot be replaced, or it can be used and
perhaps has been written. -/
inductive Ground where
  | unreadable (e : SecretError)
  | fixed (d : StoreDocument) (e : SecretError)
  | usable (d : StoreDocument) (written : Bool)

namespace Ground

def told : Ground → Change → Except SecretError Answer
  | unreadable e, _ => .error e
  | fixed d e, c => if (c.rewrite d).isSome then .error e else .ok (c.reply d)
  | usable d _, c => .ok (c.reply d)

def after : Ground → Change → Ground
  | unreadable e, _ => unreadable e
  | fixed d e, _ => fixed d e
  | usable d written, c => usable (c.apply d) (written || (c.rewrite d).isSome)

/-- What is in the file that held `first` before anything was written. -/
def content (first : Except IoError ByteArray) : Ground → Except IoError ByteArray
  | usable d true => .ok d.render.toUTF8
  | _ => first

theorem told_after (h : c.key ≠ c'.key) (g : Ground) : (g.after c').told c = g.told c := by
  cases g with
  | unreadable e => rfl
  | fixed d e => rfl
  | usable d written => exact congrArg _ (Change.reply_apply h d)

theorem after_comm (h : c.key ≠ c'.key) (g : Ground) :
    (g.after c').after c = (g.after c).after c' := by
  cases g with
  | unreadable e => rfl
  | fixed d e => rfl
  | usable d written =>
      simp only [after, Change.apply_comm h, Change.isSome_rewrite_apply h,
        Change.isSome_rewrite_apply (Ne.symm h), Bool.or_right_comm]

theorem foldl_after_perm {l l' : List Change} (hkeys : (l.map Change.key).Nodup) (hperm : l.Perm l')
    (g : Ground) : l.foldl after g = l'.foldl after g := by
  induction hperm generalizing g with
  | nil => rfl
  | cons c hperm ih => exact ih (List.nodup_cons.1 hkeys).2 (g.after c)
  | swap c c' later =>
      have hkey : c'.key ≠ c.key := by
        intro hsame
        simp [hsame] at hkeys
      rw [List.foldl_cons, List.foldl_cons, List.foldl_cons, List.foldl_cons, after_comm hkey]
  | trans hperm _ ih ih' => exact (ih hkeys g).trans (ih' ((hperm.map _).nodup_iff.1 hkeys) g)

end Ground

/-- A disk whose file stands as the ground says, and held `first` before anything was written. -/
inductive Stands (path : String) (first : Except IoError ByteArray) (disk : Disk) : Ground → Prop
  | unreadable {e : SecretError} (hload : load path disk = .error e disk)
      (hcontent : disk.contentAt path = first) : Stands path first disk (.unreadable e)
  | fixed {d : StoreDocument} {e : SecretError} (hload : load path disk = .ok d disk)
      (hsave : ∀ d', save path d' disk = .error e disk) (hcontent : disk.contentAt path = first) :
      Stands path first disk (.fixed d e)
  | usable {d : StoreDocument} {written : Bool} (hsaves : Saves path disk)
      (hload : load path disk = .ok d disk) (hversion : d.version ≤ StoreDocument.currentVersion)
      (hcontent : disk.contentAt path = (Ground.usable d written).content first) :
      Stands path first disk (.usable d written)

variable {first : Except IoError ByteArray} {g : Ground}

theorem Stands.content (h : Stands path first disk g) : disk.contentAt path = g.content first := by
  cases h with
  | unreadable hload hcontent => exact hcontent
  | fixed hload hsave hcontent => exact hcontent
  | usable hsaves hload hversion hcontent => exact hcontent

/-- A call is answered as the file stands, and leaves a file that stands as the change has it. -/
theorem Stands.step (h : Stands path first disk g) (c : Change) :
    ∃ disk', c.outcome path disk = (g.told c, disk') ∧ Stands path first disk' (g.after c) := by
  cases h with
  | unreadable hload hcontent =>
      exact ⟨disk, Change.outcome_of_load_error hload c, .unreadable hload hcontent⟩
  | @fixed d e hload hsave hcontent =>
      refine ⟨disk, ?_, .fixed hload hsave hcontent⟩
      simp only [Ground.told]
      cases hrewrite : c.rewrite d with
      | none => exact Change.outcome_of_none hload hrewrite
      | some d' => exact Change.outcome_of_save_error hload hrewrite (hsave d')
  | @usable d written hsaves hload hversion hcontent =>
      simp only [Ground.told, Ground.after]
      cases hrewrite : c.rewrite d with
      | none =>
          rw [Change.apply_of_none hrewrite, Option.isSome_none, Bool.or_false]
          exact ⟨disk, Change.outcome_of_none hload hrewrite, .usable hsaves hload hversion hcontent⟩
      | some d' =>
          rw [Change.apply_of_some hrewrite, Option.isSome_some, Bool.or_true]
          have hversion' := Change.version_of_rewrite hversion hrewrite
          obtain ⟨disk', hsave, hsaves', hbytes⟩ := hsaves.save d'
          have hcontent' := Disk.contentAt_of_bytesAt? hbytes
          exact ⟨disk', Change.outcome_of_saved hload hrewrite hsave, .usable hsaves'
            (load_of_document hsaves'.1 hcontent' hversion') hversion' hcontent'⟩

/-- Of changes of different keys each is answered as if it came first. -/
theorem Stands.run (h : Stands path first disk g) {l : List Change}
    (hkeys : (l.map Change.key).Nodup) :
    ∃ disk', Change.outcomes path l disk = (l.map fun c => (c, g.told c), disk') ∧
      Stands path first disk' (l.foldl Ground.after g) := by
  induction l generalizing disk g with
  | nil => exact ⟨disk, rfl, h⟩
  | cons c later ih =>
      obtain ⟨hfirst, hlater⟩ := List.nodup_cons.1 hkeys
      obtain ⟨disk₁, houtcome, hstands⟩ := h.step c
      obtain ⟨disk', houtcomes, hstands'⟩ := ih hstands hlater
      have htold : (later.map fun c' => (c', (g.after c).told c')) =
          later.map fun c' => (c', g.told c') := by
        refine List.map_congr_left fun c' hmem => ?_
        have hne : c'.key ≠ c.key := fun hkey => hfirst (hkey ▸ List.mem_map_of_mem hmem)
        rw [Ground.told_after hne]
      refine ⟨disk', ?_, hstands'⟩
      rw [Change.outcomes, houtcome]
      dsimp only
      rw [houtcomes, htold]
      rfl

/-! ### Where changes can be told -/

/-- Nothing that takes whatever is written is in the place of the temporary file. -/
def Undiverted (path : String) (disk : Disk) : Prop :=
  ∀ names, disk.EntryAt (temporary path) names → disk.find? names ≠ some .void

theorem housed_of_entry (h : disk.EntryAt path names) : Housed path disk := by
  obtain ⟨above, name, -, hspot, -⟩ := h
  intro parent hparent
  exact (Path.above_of_parent? hparent).imp_right fun habove =>
    Disk.isDirectoryAt_above habove hspot

/-- What cannot be opened beside a file cannot be removed either, so a save that fails there has done
nothing. -/
theorem save_of_open_error (hquiet : disk.mishaps = []) (hhoused : Housed path disk)
    (hdevice : Undiverted path disk) {e : IoError} {disk₁ : Disk}
    (hopen : Disk.openEmpty (temporary path) 0o600 disk = .error e disk₁) (d : StoreDocument) :
    save path d disk = .error (ioFailure path "write" e) disk := by
  obtain rfl := (Disk.openEmpty_eq_error hopen).eq_of_quiet hquiet
  have hreplace : replace path d.render.toUTF8 disk₁ = .error e disk₁ := by
    rw [replace, writePrivate, Call.bind_of_error (Call.bind_of_error hopen _)]
  unfold save
  rw [prepare_of_housed hquiet hhoused]
  dsimp only
  rw [hreplace]
  dsimp only
  cases hremove : Disk.removeFile (temporary path) disk₁ with
  | error e' disk₂ => rw [(Disk.removeFile_eq_error hremove).1.eq_of_quiet hquiet]
  | ok _ disk₂ =>
      obtain ⟨-, names, -, hentry, -, hdir, -⟩ := Disk.removeFile_eq_ok hremove
      obtain ⟨serial, disk₃, hopen', -⟩ :=
        Disk.openEmpty_of_entry 0o600 hquiet hentry hdir (hdevice names hentry)
      rw [hopen] at hopen'
      cases hopen'

/-- In a directory that is there a document can be saved, or none can be and trying does nothing. -/
theorem ready_or_fixed (hquiet : disk.mishaps = []) (hdevice : Undiverted path disk)
    (hentry : disk.EntryAt path names) (hdir : disk.find? names ≠ some .directory) :
    Ready path disk ∨ ∃ e, ∀ d, save path d disk = .error e disk := by
  have hhoused := housed_of_entry hentry
  cases hopen : Disk.openEmpty (temporary path) 0o600 disk with
  | error e disk₁ => exact .inr ⟨_, save_of_open_error hquiet hhoused hdevice hopen⟩
  | ok handle disk₁ =>
      obtain ⟨disk₂, beside, -, hbeside, hcases⟩ := Disk.openEmpty_eq_ok hopen
      have hfound : disk.find? beside ≠ some .directory := by
        rcases hcases with ⟨hvoid, -⟩ | ⟨bytes, mode, serial, hfile, -⟩ | ⟨hfree, -⟩
        · exact absurd hvoid (hdevice beside hbeside)
        · simp [hfile]
        · simp [hfree]
      exact .inl ⟨hquiet, hhoused, ⟨beside, hbeside, hfound, hdevice beside hbeside⟩, names, hentry,
        hdir⟩

/-- A missing file can be made, or its directory is there. -/
def Approachable (path : String) (disk : Disk) : Prop :=
  disk.contentAt path = .error .notFound → (∃ names, disk.EntryAt path names) ∨ Saves path disk

theorem exists_stands (hquiet : disk.mishaps = []) (hdevice : Undiverted path disk)
    (happroach : Approachable path disk) : ∃ g, Stands path (disk.contentAt path) disk g := by
  have hread := load_cases path disk
  cases hload : load path disk with
  | error e disk₁ =>
      rw [hload] at hread
      obtain rfl := hread.1.eq_of_quiet hquiet
      exact ⟨_, .unreadable hload rfl⟩
  | ok d disk₁ =>
      rw [hload] at hread
      obtain ⟨huntouched, hholds⟩ := hread
      obtain rfl := huntouched.eq_of_quiet hquiet
      have husable : Saves path disk₁ → ∃ g, Stands path (disk₁.contentAt path) disk₁ g :=
        fun hsaves => ⟨.usable d false, .usable hsaves hload hholds.version_le rfl⟩
      have hentered : ∀ {names}, disk₁.EntryAt path names → disk₁.find? names ≠ some .directory →
          ∃ g, Stands path (disk₁.contentAt path) disk₁ g := by
        intro names hentry hdir
        rcases ready_or_fixed hquiet hdevice hentry hdir with hready | ⟨e, hsave⟩
        · exact husable hready.saves
        · exact ⟨_, .fixed hload hsave rfl⟩
      rcases hholds with ⟨hmissing, -⟩ | ⟨text, hcontent, -⟩
      · rcases happroach hmissing with ⟨names, hentry⟩ | hsaves
        · refine hentered hentry fun hdir => ?_
          rw [Disk.contentAt, hentry.status hdir] at hmissing
          cases hmissing
        · exact husable hsaves
      · unfold Disk.contentAt at hcontent
        cases hstatus : disk₁.status path with
        | error e =>
            rw [hstatus] at hcontent
            cases hcontent
        | ok found =>
            obtain ⟨names, node⟩ := found
            rw [hstatus] at hcontent
            have hnode : node ≠ .directory := by
              rintro rfl
              cases hcontent
            obtain ⟨hentry, hfind⟩ := Disk.entryAt_of_status hstatus hnode
            refine hentered hentry ?_
            rw [hfind]
            exact fun hdir => hnode (Option.some.inj hdir)

/-! ### Orders -/

/-- Two changes are answered the same in either order, and leave the same in the file. -/
structure Commute (path : String) (disk : Disk) (c c' : Change) : Prop where
  first : (c.outcome path (c'.outcome path disk).2).1 = (c.outcome path disk).1
  second : (c'.outcome path (c.outcome path disk).2).1 = (c'.outcome path disk).1
  content : (c'.outcome path (c.outcome path disk).2).2.contentAt path =
    (c.outcome path (c'.outcome path disk).2).2.contentAt path

theorem Stands.commute (h : Stands path first disk g) (hkeys : c.key ≠ c'.key) :
    Commute path disk c c' := by
  obtain ⟨disk₁, houtcome, hstands⟩ := h.step c
  obtain ⟨disk₂, houtcome₂, hstands₂⟩ := hstands.step c'
  obtain ⟨disk₁', houtcome', hstands'⟩ := h.step c'
  obtain ⟨disk₂', houtcome₂', hstands₂'⟩ := hstands'.step c
  constructor
  · rw [houtcome', houtcome, houtcome₂']
    exact Ground.told_after hkeys g
  · rw [houtcome, houtcome', houtcome₂]
    exact Ground.told_after (Ne.symm hkeys) g
  · rw [houtcome, houtcome', houtcome₂, houtcome₂', hstands₂.content, hstands₂'.content,
      Ground.after_comm hkeys]

/-- Changes of different keys can be made in any order. -/
theorem order_free (hquiet : disk.mishaps = []) (hdevice : Undiverted path disk)
    (happroach : Approachable path disk) :
    (∀ c c' : Change, c.key ≠ c'.key → Commute path disk c c') ∧
    ∀ l l' : List Change, (l.map Change.key).Nodup → l.Perm l' →
      (Change.outcomes path l disk).1.Perm (Change.outcomes path l' disk).1 ∧
      (Change.outcomes path l disk).2.contentAt path =
        (Change.outcomes path l' disk).2.contentAt path := by
  obtain ⟨g, hstands⟩ := exists_stands hquiet hdevice happroach
  refine ⟨fun c c' hkeys => hstands.commute hkeys, fun l l' hkeys hperm => ?_⟩
  have hkeys' : (l'.map Change.key).Nodup := (hperm.map _).nodup_iff.1 hkeys
  obtain ⟨disk₁, houtcomes, hafter⟩ := hstands.run hkeys
  obtain ⟨disk₂, houtcomes', hafter'⟩ := hstands.run hkeys'
  rw [houtcomes, houtcomes']
  refine ⟨hperm.map _, ?_⟩
  rw [hafter.content, hafter'.content, Ground.foldl_after_perm hkeys hperm]

def addition : Change := .put ⟨"work", "Account", "a", by decide, by decide⟩ "x"

/-- A delete of a key beside the one that is added. -/
def dismissal : Change := .delete ⟨"work", "Account", "b", by decide, by decide⟩

def assortment : List Change :=
  [addition, dismissal, .put ⟨"work", "Badge", "a", by decide, by decide⟩ "y"]

theorem undiverted_blank (path : String) : Undiverted path blank := by
  intro names _ hvoid
  cases names with
  | nil => cases hvoid
  | cons name later => cases hvoid

theorem order_free_on_blank_disk : Commute "store.json" blank addition dismissal ∧
    (Change.outcomes "store.json" assortment blank).1.Perm
      (Change.outcomes "store.json" assortment.reverse blank).1 ∧
    (Change.outcomes "store.json" assortment blank).2.contentAt "store.json" =
      (Change.outcomes "store.json" assortment.reverse blank).2.contentAt "store.json" := by
  obtain ⟨hpair, hlist⟩ := order_free rfl (undiverted_blank "store.json")
    fun _ => .inr ready_blank.saves
  exact ⟨hpair _ _ (by decide), hlist _ _ (by decide) (List.reverse_perm _).symm⟩

/-- A disk with a file where the path of a store file goes through a directory. -/
def obstructed : Disk := ⟨[(["f"], .file .empty 0o644 0)], [], [], 1⟩

/-- A put that cannot make all directories above its file makes those that it can. Where the path found
nothing before, it then finds what is in its way, and a delete fails that did nothing before. -/
theorem not_order_free : ¬ ∀ path disk c c', Disk.Sound disk → disk.mishaps = [] →
    c.key ≠ c'.key → Commute path disk c c' := by
  intro h
  have hsecond := (h "x/../f/store.json" obstructed addition dismissal
    (Disk.sound_of_file "f" .empty 0o644) rfl (by decide)).second
  have hfails : (dismissal.outcome "x/../f/store.json"
      (addition.outcome "x/../f/store.json" obstructed).2).1.isOk = false := by
    decide +kernel
  have hanswers : (dismissal.outcome "x/../f/store.json" obstructed).1.isOk = true := by
    decide +kernel
  rw [hsecond, hanswers] at hfails
  cases hfails

end Strongbox.FileStore
