import Strongbox.Proofs.Call
import Strongbox.Proofs.Disk.Directories
import Strongbox.Proofs.Text.Bytes
/-! What calls do whatever strikes them. A call that is struck, or that fails by what is there, leaves
everything on the disk as it was; only mishaps are used up, and they are used up in order. -/
namespace Strongbox.Disk

/-- Calls were made, and nothing has come of them. -/
def Untouched (d d' : Disk) : Prop :=
  ∃ later, later <:+ d.mishaps ∧ d' = { d with mishaps := later }

/-- Of the calls that were made on the way, the last was struck. -/
def LastStruck (d d' : Disk) : Prop := ∃ m : Mishap, some m :: d'.mishaps <:+ d.mishaps

variable {d d' d₁ : Disk} {path : String} {names : List String}

theorem enter_later (d : Disk) (later : List (Option Mishap)) (above : List String) (name : String) :
    ({ d with mishaps := later } : Disk).enter above name = d.enter above name := rfl

theorem walk_later (d : Disk) (later : List (Option Mishap)) (above names : List String) :
    ({ d with mishaps := later } : Disk).walk above names = d.walk above names := by
  induction names generalizing above with
  | nil => rfl
  | cons name names ih =>
      rw [walk, walk, enter_later]
      cases d.enter above name with
      | ok next => exact ih next
      | error e => rfl

theorem spot_later (d : Disk) (later : List (Option Mishap)) (path : String) :
    ({ d with mishaps := later } : Disk).spot path = d.spot path := by
  have hwalk := walk_later d later
  unfold spot spotOn
  simp only [hwalk, enter_later]

namespace Untouched

theorem refl (d : Disk) : d.Untouched d := ⟨d.mishaps, List.suffix_rfl, rfl⟩

theorem trans (h : d.Untouched d') (h' : d'.Untouched d₁) : d.Untouched d₁ := by
  obtain ⟨later, hlater, rfl⟩ := h
  obtain ⟨later', hlater', rfl⟩ := h'
  exact ⟨later', hlater'.trans hlater, rfl⟩

theorem keeps (h : d.Untouched d') : d.KeepsDirectories d' := by
  obtain ⟨later, -, rfl⟩ := h
  exact ⟨rfl, fun _ h => h⟩

theorem mishaps (h : d.Untouched d') : d'.mishaps <:+ d.mishaps := by
  obtain ⟨later, hlater, rfl⟩ := h
  exact hlater

theorem serial (h : d.Untouched d') : d'.serial = d.serial := by
  obtain ⟨later, -, rfl⟩ := h
  rfl

theorem find? (h : d.Untouched d') (names : List String) : d'.find? names = d.find? names := by
  obtain ⟨later, -, rfl⟩ := h
  rfl

theorem inside (h : d.Untouched d') (above : List String) (name : String) :
    d'.inside above name = d.inside above name := by
  obtain ⟨later, -, rfl⟩ := h
  rfl

theorem spot (h : d.Untouched d') (path : String) : d'.spot path = d.spot path := by
  obtain ⟨later, -, rfl⟩ := h
  exact spot_later d later path

theorem status (h : d.Untouched d') (path : String) : d'.status path = d.status path := by
  have hinside := h.inside
  unfold Disk.status
  simp only [h.spot, hinside]

theorem isDirectoryAt (h : d.Untouched d') (path : String) :
    d'.isDirectoryAt path = d.isDirectoryAt path := by
  rw [Disk.isDirectoryAt, h.status, Disk.isDirectoryAt]

/-- Where no mishap is to come, nothing at all has changed. -/
theorem eq_of_quiet (h : d.Untouched d') (hquiet : d.mishaps = []) : d' = d := by
  obtain ⟨later, hlater, rfl⟩ := h
  rw [hquiet, List.suffix_nil] at hlater
  rw [hlater, ← hquiet]

end Untouched

theorem LastStruck.of_suffix (h : d₁.LastStruck d') (hsuffix : d₁.mishaps <:+ d.mishaps) :
    d.LastStruck d' := by
  obtain ⟨m, hm⟩ := h
  exact ⟨m, hm.trans hsuffix⟩

/-- A call is made as it is, or it is struck and not made at all. -/
theorem attempt_cases {α : Type} (call : DiskCall α) (d : Disk) :
    ∃ d₀, d.Untouched d₀ ∧ (attempt call d = call d₀ ∨
      ∃ m : Mishap, attempt call d = .error (.other m.text) d₀ ∧ d.LastStruck d₀) := by
  unfold attempt
  match hmishaps : d.mishaps with
  | [] => exact ⟨d, .refl d, .inl rfl⟩
  | none :: later =>
      refine ⟨_, ⟨later, ?_, rfl⟩, .inl rfl⟩
      rw [hmishaps]
      exact List.suffix_cons none later
  | some m :: later =>
      refine ⟨_, ⟨later, ?_, rfl⟩, .inr ⟨m, rfl, m, ?_⟩⟩
      · rw [hmishaps]
        exact List.suffix_cons (some m) later
      · simp only [hmishaps, List.suffix_rfl]

theorem attempt_eq_ok {α : Type} {call : DiskCall α} {a : α} (h : attempt call d = .ok a d') :
    ∃ d₀, d.Untouched d₀ ∧ call d₀ = .ok a d' := by
  obtain ⟨d₀, huntouched, hcall | ⟨m, hstruck, -⟩⟩ := attempt_cases call d
  · exact ⟨d₀, huntouched, hcall.symm.trans h⟩
  · rw [hstruck] at h
    cases h

theorem attempt_eq_error {α : Type} {call : DiskCall α} {e : IoError}
    (h : attempt call d = .error e d') : ∃ d₀, d.Untouched d₀ ∧ (call d₀ = .error e d' ∨
      ∃ m : Mishap, e = .other m.text ∧ d' = d₀ ∧ d.LastStruck d₀) := by
  obtain ⟨d₀, huntouched, hcall | ⟨m, hstruck, hlast⟩⟩ := attempt_cases call d
  · exact ⟨d₀, huntouched, .inl (hcall.symm.trans h)⟩
  · rw [hstruck] at h
    injection h with he hd
    exact ⟨d₀, huntouched, .inr ⟨m, he.symm, hd.symm, hlast⟩⟩

/-- If the call fails, the disk is as it was before. -/
def FailsClean {α : Type} (call : DiskCall α) : Prop :=
  ∀ ⦃d e d'⦄, call d = .error e d' → d' = d

theorem untouched_of_error {α : Type} {call : DiskCall α} {e : IoError} (hclean : FailsClean call)
    (h : attempt call d = .error e d') : d.Untouched d' := by
  obtain ⟨d₀, huntouched, hcall | ⟨m, -, hstruck, -⟩⟩ := attempt_eq_error h
  · rwa [hclean hcall]
  · rwa [hstruck]

/-! ### Questions -/

/-- A call that begins by asking goes on from the answer. -/
theorem ask_bind_eq_ok {α β : Type} {answer : Disk → Except IoError α} {next : α → DiskCall β} {b : β}
    (h : (ask answer >>= next) d = .ok b d') : ∃ a, answer d = .ok a ∧ next a d = .ok b d' := by
  obtain ⟨a, d₁, hask, hnext⟩ := Call.bind_eq_ok h
  unfold ask at hask
  cases hanswer : answer d with
  | error e =>
      rw [hanswer] at hask
      cases hask
  | ok a' =>
      rw [hanswer] at hask
      cases hask
      exact ⟨a, rfl, hnext⟩

theorem ask_bind_of_ok {α β : Type} {answer : Disk → Except IoError α} {a : α} (h : answer d = .ok a)
    (next : α → DiskCall β) : (ask answer >>= next) d = next a d := by
  refine Call.bind_of_ok ?_ next
  unfold ask
  rw [h]

theorem ask_bind_of_error {α β : Type} {answer : Disk → Except IoError α} {e : IoError}
    (h : answer d = .error e) (next : α → DiskCall β) : (ask answer >>= next) d = .error e d := by
  simp only [bind, EStateM.bind, ask, h]

theorem failsClean_throw {α : Type} (e : IoError) : FailsClean (throw e : DiskCall α) := by
  intro d e' d' h
  cases h
  rfl

theorem failsClean_of_ok {α : Type} {call : DiskCall α} (h : ∀ d, ∃ a d', call d = .ok a d') :
    FailsClean call := by
  intro d e d' hcall
  obtain ⟨a, d₁, hok⟩ := h d
  rw [hok] at hcall
  cases hcall

theorem failsClean_modify (f : Disk → Disk) : FailsClean (modify f : DiskCall Unit) :=
  failsClean_of_ok fun d => ⟨(), f d, rfl⟩

theorem failsClean_pure {α : Type} (a : α) : FailsClean (pure a : DiskCall α) :=
  failsClean_of_ok fun d => ⟨a, d, rfl⟩

theorem failsClean_ask_bind {α β : Type} {answer : Disk → Except IoError α} {next : α → DiskCall β}
    (h : ∀ a, FailsClean (next a)) : FailsClean (ask answer >>= next) := by
  intro d e d' hcall
  cases hanswer : answer d with
  | ok a =>
      rw [ask_bind_of_ok hanswer] at hcall
      exact h a hcall
  | error e' =>
      rw [ask_bind_of_error hanswer] at hcall
      cases hcall
      rfl

/-! ### Reading -/

/-- What a reader finds at a path. -/
def contentAt (d : Disk) (path : String) : Except IoError ByteArray :=
  match d.status path with
  | .ok (_, .file bytes _ _) => .ok bytes
  | .ok (_, .void) => .ok .empty
  | .ok (_, .directory) => .error .isDirectory
  | .error e => .error e

theorem Untouched.contentAt (h : d.Untouched d') (path : String) :
    d'.contentAt path = d.contentAt path := by
  rw [Disk.contentAt, h.status, Disk.contentAt]

theorem status_of_contentAt {bytes : ByteArray} (h : d.contentAt path = .ok bytes) :
    ∃ names node, d.status path = .ok (names, node) ∧ node ≠ .directory := by
  unfold contentAt at h
  split at h
  · exact ⟨_, _, ‹_›, by simp⟩
  · exact ⟨_, _, ‹_›, by simp⟩
  · cases h
  · cases h

theorem status_of_notFound (h : d.contentAt path = .error .notFound) :
    d.status path = .error .notFound := by
  unfold contentAt at h
  split at h
  · cases h
  · cases h
  · cases h
  · rename_i hstatus
    cases h
    exact hstatus

theorem contentAt_of_bytesAt? {bytes : ByteArray} (h : d.bytesAt? path = some bytes) :
    d.contentAt path = .ok bytes := by
  unfold bytesAt? at h
  unfold contentAt
  match hstatus : d.status path with
  | .ok (_, .file bytes' _ _) =>
      rw [hstatus] at h
      exact congrArg _ (Option.some.inj h)
  | .ok (_, .void) =>
      rw [hstatus] at h
      cases h
  | .ok (_, .directory) =>
      rw [hstatus] at h
      cases h
  | .error e =>
      rw [hstatus] at h
      cases h

theorem EntryAt.bytesAt? {bytes : ByteArray} {mode serial : Nat} (h : d.EntryAt path names)
    (hfind : d.find? names = some (.file bytes mode serial)) : d.bytesAt? path = some bytes := by
  unfold Disk.bytesAt?
  rw [h.status hfind]

/-- A read that nothing strikes. -/
def readFound (path : String) : DiskCall ByteArray := do
  match ← ask (·.status path) with
  | (_, .file bytes _ _) => return bytes
  | (_, .void) => return .empty
  | (_, .directory) => throw .isDirectory

theorem readBytes_eq (path : String) : readBytes path = attempt (readFound path) := rfl

theorem readFound_eq (path : String) (d : Disk) : readFound path d = match d.contentAt path with
    | .ok bytes => .ok bytes d
    | .error e => .error e d := by
  unfold readFound contentAt
  cases hstatus : d.status path with
  | error e => exact ask_bind_of_error hstatus _
  | ok found =>
      refine (ask_bind_of_ok hstatus _).trans ?_
      obtain ⟨names, node⟩ := found
      cases node <;> rfl

/-- A read that is not struck finds what there is. -/
theorem readBytes_cases (path : String) (d : Disk) :
    ∃ d₀, d.Untouched d₀ ∧ ((readBytes path d = match d.contentAt path with
        | .ok bytes => .ok bytes d₀
        | .error e => .error e d₀) ∨
      ∃ m : Mishap, readBytes path d = .error (.other m.text) d₀ ∧ d.LastStruck d₀) := by
  rw [readBytes_eq]
  obtain ⟨d₀, huntouched, hcall | hstruck⟩ := attempt_cases (readFound path) d
  · have hcontent : d₀.contentAt path = d.contentAt path := by
      unfold contentAt
      rw [huntouched.status path]
    refine ⟨d₀, huntouched, .inl (hcall.trans ?_)⟩
    rw [readFound_eq, hcontent]
  · exact ⟨d₀, huntouched, .inr hstruck⟩

/-- The text that is read is what is there. Without one there is no file, nothing that is text, or the
reading is struck. -/
theorem readText_cases (path : String) (d : Disk) :
    match readText path d with
    | .ok text d' => d.Untouched d' ∧ d.contentAt path = .ok text.toUTF8
    | .error e d' => d.Untouched d' ∧ (d.contentAt path = .error e ∨
        e ≠ .notFound ∧ (d.LastStruck d' ∨
          ∃ bytes, d.contentAt path = .ok bytes ∧ String.fromUTF8? bytes = none)) := by
  obtain ⟨d₁, huntouched, hread | ⟨m, hread, hlast⟩⟩ := readBytes_cases path d
  · cases hcontent : d.contentAt path with
    | error e =>
        rw [hcontent] at hread
        rw [readText, Call.bind_of_error hread]
        exact ⟨huntouched, .inl rfl⟩
    | ok bytes =>
        rw [hcontent] at hread
        rw [readText, Call.bind_of_ok hread]
        cases htext : String.fromUTF8? bytes with
        | none => exact ⟨huntouched, .inr ⟨by simp, .inr ⟨bytes, rfl, htext⟩⟩⟩
        | some text => exact ⟨huntouched, congrArg _ (Text.toUTF8_of_fromUTF8? htext).symm⟩
  · rw [readText, Call.bind_of_error hread]
    exact ⟨huntouched, .inr ⟨by simp, .inl hlast⟩⟩

/-! ### Making directories -/

theorem makeDirectory_eq_ok (h : makeDirectory path d = .ok () d') :
    ∃ d₀ above name slash, d.Untouched d₀ ∧ d.spot path = .ok (.entry above name slash) ∧
      d.inside above name = .ok none ∧ d' = d₀.set (above ++ [name]) .directory := by
  obtain ⟨d₀, huntouched, hcall⟩ := attempt_eq_ok h
  obtain ⟨spot, hspot, hcall⟩ := ask_bind_eq_ok hcall
  cases spot with
  | place names => cases hcall
  | entry above name slash =>
      obtain ⟨found, hin, hcall⟩ := ask_bind_eq_ok hcall
      cases found with
      | some node => cases hcall
      | none =>
          cases hcall
          exact ⟨d₀, above, name, slash, huntouched, huntouched.spot path ▸ hspot,
            huntouched.inside above name ▸ hin, rfl⟩

theorem makeDirectory_eq_error {e : IoError} (h : makeDirectory path d = .error e d') :
    d.Untouched d' := by
  refine untouched_of_error (failsClean_ask_bind fun spot => ?_) h
  cases spot with
  | place names => exact failsClean_throw _
  | entry above name slash =>
      refine failsClean_ask_bind fun found => ?_
      cases found with
      | some node => exact failsClean_throw _
      | none => exact failsClean_modify _

/-- A directory is made, and nothing strikes this. -/
def makeMissing (path : String) : DiskCall Unit := do
  match ← ask (·.spot path) with
  | .place _ => throw .occupied
  | .entry above name _ => match ← ask (·.inside above name) with
    | some _ => throw .occupied
    | none => modify (·.set (above ++ [name]) .directory)

theorem makeDirectory_eq (path : String) : makeDirectory path = attempt (makeMissing path) := rfl

theorem makeMissing_of_directory (hdir : d.isDirectoryAt path = true) :
    makeMissing path d = .error .occupied d := by
  unfold makeMissing
  rcases spot_of_isDirectoryAt hdir with ⟨names, hspot⟩ | ⟨above, name, slash, hspot, hin⟩
  · rw [ask_bind_of_ok hspot]
    rfl
  · rw [ask_bind_of_ok hspot]
    dsimp only
    rw [ask_bind_of_ok hin]
    rfl

/-- Where there is a directory, none is made. -/
theorem makeDirectory_of_directory (hdir : d.isDirectoryAt path = true) :
    ∃ e d', makeDirectory path d = .error e d' ∧ e ≠ .notFound := by
  rw [makeDirectory_eq]
  obtain ⟨d₀, huntouched, hcall | ⟨m, hstruck, -⟩⟩ := attempt_cases (makeMissing path) d
  · have hdir' := (huntouched.isDirectoryAt path).trans hdir
    exact ⟨.occupied, d₀, hcall.trans (makeMissing_of_directory hdir'), by simp⟩
  · exact ⟨_, d₀, hstruck, by simp⟩

/-! ### Writing -/

/-- What opening a file for writing needs, and which disk it leaves: a new file has nothing in it,
and nothing is left in an old one. -/
theorem openFile_eq_ok {mode : Nat} {clear : Bool} {handle : Handle}
    (h : openFile path mode clear d = .ok handle d') :
    ∃ d₀ names, d.Untouched d₀ ∧ d.EntryAt path names ∧
      ((d.find? names = some .void ∧ handle = .void ∧ d' = d₀) ∨
        (∃ bytes mode' serial, d.find? names = some (.file bytes mode' serial) ∧
          handle = .file serial ∧
          d' = if clear = true then d₀.set names (.file .empty mode' serial) else d₀) ∨
        (d.find? names = none ∧ handle = .file d.serial ∧
          d' = { d₀.set names (.file .empty mode d.serial) with serial := d.serial + 1 })) := by
  obtain ⟨d₀, huntouched, hcall⟩ := attempt_eq_ok h
  obtain ⟨spot, hspot, hcall⟩ := ask_bind_eq_ok hcall
  cases spot with
  | place names => cases hcall
  | entry above name slash =>
      dsimp only at hcall
      cases slash with
      | true => cases hcall
      | false =>
          obtain ⟨found, hin, hcall⟩ := ask_bind_eq_ok hcall
          rw [huntouched.spot] at hspot
          rw [huntouched.inside] at hin
          obtain ⟨hfits, hfound⟩ := inside_eq_ok hin
          refine ⟨d₀, above ++ [name], huntouched, ⟨above, name, rfl, hspot, hfits⟩, ?_⟩
          match found with
          | some .directory => cases hcall
          | some .void =>
              cases hcall
              exact .inl ⟨hfound, rfl, rfl⟩
          | some (.file bytes mode' serial) =>
              refine .inr (.inl ⟨bytes, mode', serial, hfound, ?_⟩)
              cases clear with
              | true =>
                  cases hcall
                  exact ⟨rfl, rfl⟩
              | false =>
                  cases hcall
                  exact ⟨rfl, rfl⟩
          | none =>
              cases hcall
              rw [← huntouched.serial]
              exact .inr (.inr ⟨hfound, rfl, rfl⟩)

theorem openFile_eq_error {mode : Nat} {clear : Bool} {e : IoError}
    (h : openFile path mode clear d = .error e d') : d.Untouched d' := by
  refine untouched_of_error (failsClean_ask_bind fun spot => ?_) h
  cases spot with
  | place names => exact failsClean_throw _
  | entry above name slash =>
      dsimp only
      cases slash with
      | true => exact failsClean_throw _
      | false =>
          refine failsClean_ask_bind fun found => ?_
          match found with
          | some .directory => exact failsClean_throw _
          | some .void => exact failsClean_pure _
          | some (.file _ _ _) =>
              cases clear with
              | true => exact failsClean_of_ok fun d => ⟨_, _, rfl⟩
              | false => exact failsClean_of_ok fun d => ⟨_, _, rfl⟩
          | none => exact failsClean_of_ok fun d => ⟨_, _, rfl⟩

theorem openEmpty_eq_ok {mode : Nat} {handle : Handle} (h : openEmpty path mode d = .ok handle d') :
    ∃ d₀ names, d.Untouched d₀ ∧ d.EntryAt path names ∧
      ((d.find? names = some .void ∧ handle = .void ∧ d' = d₀) ∨
        (∃ bytes mode' serial, d.find? names = some (.file bytes mode' serial) ∧
          handle = .file serial ∧ d' = d₀.set names (.file .empty mode' serial)) ∨
        (d.find? names = none ∧ handle = .file d.serial ∧
          d' = { d₀.set names (.file .empty mode d.serial) with serial := d.serial + 1 })) :=
  openFile_eq_ok h

theorem openEmpty_eq_error {mode : Nat} {e : IoError} (h : openEmpty path mode d = .error e d') :
    d.Untouched d' :=
  openFile_eq_error h

/-- Some bytes are put down, all of them if the call succeeds. -/
theorem append_cases (handle : Handle) (bytes : ByteArray) (d : Disk) :
    ∃ d₀, d.Untouched d₀ ∧ (append handle bytes d = .ok () (extend handle bytes d₀) ∨
      ∃ e part, append handle bytes d = .error e (extend handle part d₀)) := by
  unfold append
  match hmishaps : d.mishaps with
  | [] => exact ⟨d, .refl d, .inl rfl⟩
  | none :: later =>
      refine ⟨_, ⟨later, ?_, rfl⟩, .inl rfl⟩
      rw [hmishaps]
      exact List.suffix_cons none later
  | some m :: later =>
      refine ⟨_, ⟨later, ?_, rfl⟩, .inr ⟨_, _, rfl⟩⟩
      rw [hmishaps]
      exact List.suffix_cons (some m) later

theorem sync_file_cases (serial : Nat) (d : Disk) :
    ∃ d₀, d.Untouched d₀ ∧ (sync (.file serial) d = .ok () d₀ ∨
      ∃ e, sync (.file serial) d = .error e d₀) := by
  obtain ⟨d₀, huntouched, hcall | ⟨m, hstruck, -⟩⟩ := attempt_cases (pure ()) d
  · exact ⟨d₀, huntouched, .inl hcall⟩
  · exact ⟨d₀, huntouched, .inr ⟨_, hstruck⟩⟩

/-- A device is never known to hold what was written to it. -/
theorem sync_void (d : Disk) : ∃ e d', d.Untouched d' ∧ sync .void d = .error e d' := by
  obtain ⟨d₀, huntouched, hcall | ⟨m, hstruck, -⟩⟩ :=
    attempt_cases (throw (.other "Invalid argument (os error 22)") : DiskCall Unit) d
  · exact ⟨_, d₀, huntouched, hcall⟩
  · exact ⟨_, d₀, huntouched, hstruck⟩

/-! ### Moving and removing -/

/-- What moving a file needs, and where it leaves what was moved. -/
theorem rename_eq_ok {source target : String} (h : rename source target d = .ok () d') :
    ∃ d₀ names names' node, d.Untouched d₀ ∧ d.EntryAt source names ∧ d.EntryAt target names' ∧
      d.find? names = some node ∧ node ≠ .directory ∧ d.find? names' ≠ some .directory ∧
      d' = (d₀.remove names).set names' node := by
  obtain ⟨d₀, huntouched, hcall⟩ := attempt_eq_ok h
  obtain ⟨spot, hspot, hcall⟩ := ask_bind_eq_ok hcall
  obtain ⟨spot', hspot', hcall⟩ := ask_bind_eq_ok hcall
  rw [huntouched.spot] at hspot hspot'
  match spot, spot' with
  | .place _, .place _ => cases hcall
  | .place _, .entry _ _ _ => cases hcall
  | .entry _ _ _, .place _ => cases hcall
  | .entry above name slash, .entry above' name' slash' =>
      obtain ⟨found, hin, hcall⟩ := ask_bind_eq_ok hcall
      obtain ⟨found', hin', hcall⟩ := ask_bind_eq_ok hcall
      rw [huntouched.inside] at hin hin'
      obtain ⟨hfits, hfound⟩ := inside_eq_ok hin
      obtain ⟨hfits', hfound'⟩ := inside_eq_ok hin'
      cases found with
      | none => cases hcall
      | some node =>
          by_cases hslash : (slash || slash') = true
          · cases node <;> simp only [if_pos hslash] at hcall <;> cases hcall
          · by_cases hthere : found' = some .directory
            · cases node <;> simp only [if_neg hslash, if_pos hthere] at hcall <;> cases hcall
            · obtain ⟨rfl, rfl⟩ : slash = false ∧ slash' = false := by simpa using hslash
              refine ⟨d₀, above ++ [name], above' ++ [name'], node, huntouched,
                ⟨above, name, rfl, hspot, hfits⟩, ⟨above', name', rfl, hspot', hfits'⟩, hfound,
                ?_, ?_, ?_⟩
              · rintro rfl
                cases hcall
              · rw [hfound']
                exact hthere
              · cases node with
                | directory => cases hcall
                | file _ _ _ =>
                    simp only [if_neg hslash, if_neg hthere] at hcall
                    cases hcall
                    rfl
                | void =>
                    simp only [if_neg hslash, if_neg hthere] at hcall
                    cases hcall
                    rfl

theorem rename_eq_error {source target : String} {e : IoError}
    (h : rename source target d = .error e d') : d.Untouched d' := by
  refine untouched_of_error (failsClean_ask_bind fun spot => failsClean_ask_bind fun spot' => ?_) h
  match spot, spot' with
  | .place _, .place _ => exact failsClean_throw _
  | .place _, .entry _ _ _ => exact failsClean_throw _
  | .entry _ _ _, .place _ => exact failsClean_throw _
  | .entry above name slash, .entry above' name' slash' =>
      refine failsClean_ask_bind fun found => failsClean_ask_bind fun found' => ?_
      match found with
      | none => exact failsClean_throw _
      | some .directory => exact failsClean_throw _
      | some (.file _ _ _) =>
          dsimp only
          split
          · exact failsClean_throw _
          · split
            · exact failsClean_throw _
            · exact failsClean_modify _
      | some .void =>
          dsimp only
          split
          · exact failsClean_throw _
          · split
            · exact failsClean_throw _
            · exact failsClean_modify _

theorem removeFile_eq_ok (h : removeFile path d = .ok () d') :
    ∃ d₀ names, d.Untouched d₀ ∧ d.EntryAt path names ∧ d.find? names ≠ none ∧
      d.find? names ≠ some .directory ∧ d' = d₀.remove names := by
  obtain ⟨d₀, huntouched, hcall⟩ := attempt_eq_ok h
  obtain ⟨spot, hspot, hcall⟩ := ask_bind_eq_ok hcall
  rw [huntouched.spot] at hspot
  cases spot with
  | place names => cases hcall
  | entry above name slash =>
      obtain ⟨found, hin, hcall⟩ := ask_bind_eq_ok hcall
      rw [huntouched.inside] at hin
      obtain ⟨hfits, hfound⟩ := inside_eq_ok hin
      cases slash with
      | true =>
          match found with
          | none => cases hcall
          | some .directory => cases hcall
          | some (.file _ _ _) => cases hcall
          | some .void => cases hcall
      | false =>
          refine ⟨d₀, above ++ [name], huntouched, ⟨above, name, rfl, hspot, hfits⟩, ?_, ?_, ?_⟩
          · rintro hnone
            rw [hfound] at hnone
            subst hnone
            cases hcall
          · rintro hdir
            rw [hfound] at hdir
            subst hdir
            cases hcall
          · match found with
            | none => cases hcall
            | some .directory => cases hcall
            | some (.file _ _ _) =>
                cases hcall
                rfl
            | some .void =>
                cases hcall
                rfl

/-- A file that is there is removed unless the call is struck. -/
theorem removeFile_eq_error {e : IoError} (h : removeFile path d = .error e d') :
    d.Untouched d' ∧ ∀ names, d.EntryAt path names → d.find? names = none ∨
      d.find? names = some .directory ∨ d.LastStruck d' := by
  have huntouched : d.Untouched d' := by
    refine untouched_of_error (failsClean_ask_bind fun spot => ?_) h
    cases spot with
    | place names => exact failsClean_throw _
    | entry above name slash =>
        refine failsClean_ask_bind fun found => ?_
        match found with
        | none => exact failsClean_throw _
        | some .directory => exact failsClean_throw _
        | some (.file _ _ _) =>
            dsimp only
            split
            · exact failsClean_throw _
            · exact failsClean_modify _
        | some .void =>
            dsimp only
            split
            · exact failsClean_throw _
            · exact failsClean_modify _
  refine ⟨huntouched, ?_⟩
  rintro names ⟨above, name, rfl, hspot, hfits⟩
  obtain ⟨d₀, huntouched, hcall | ⟨m, -, rfl, hlast⟩⟩ := attempt_eq_error h
  · rw [ask_bind_of_ok ((huntouched.spot path).trans hspot)] at hcall
    dsimp only at hcall
    rw [ask_bind_of_ok ((huntouched.inside above name).trans (inside_of_fits hfits d above))] at hcall
    match hfound : d.find? (above ++ [name]) with
    | none => exact .inl rfl
    | some .directory => exact .inr (.inl rfl)
    | some (.file _ _ _) =>
        rw [hfound] at hcall
        cases hcall
    | some .void =>
        rw [hfound] at hcall
        cases hcall
  · exact .inr (.inr hlast)

end Strongbox.Disk
