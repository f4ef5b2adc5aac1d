import Strongbox.Proofs.Command.Report
import Strongbox.Proofs.Command.Steps
/-! Command lines that are run one after the other. Where there is no keyring, what a run gets to read is
what was last stored by the runs before it. -/
namespace Strongbox.Command

open Log
open FileStore (IsName)

/-- A command line, with what surrounds its run and the stamp of its log. -/
structure Turn where
  environment : Environment
  stamp : String
  arguments : List String
  invocation : Invocation
  parsed : Invocation.parse environment arguments = .ok invocation

namespace Turn

def outcome (t : Turn) (b : Backends Unit) : Outcome := run t.environment t.stamp t.arguments b

def action (t : Turn) : Action := t.invocation.action

theorem outcome_eq (t : Turn) (b : Backends Unit) :
    t.outcome b = execute t.environment t.stamp t.invocation b := by
  rw [outcome, run, t.parsed]

/-- What comes of command lines that are run one after the other. -/
def transcript : List Turn → Backends Unit → List (Turn × Outcome)
  | [], _ => []
  | t :: later, b => (t, t.outcome b) :: transcript later (t.outcome b).backends

/-- What they leave. -/
def left : List Turn → Backends Unit → Backends Unit
  | [], b => b
  | t :: later, b => left later (t.outcome b).backends

end Turn

/-- How one run changes what was last stored under a key. -/
def afterTurn (kind : SecretKind) (key : String) (last : Option Proposal) :
    Turn × Outcome → Option Proposal
  | (t, outcome) => match t.action with
    | .set key' proposal =>
      if outcome.exit = 0 ∧ proposal.kind = kind ∧ key' = key then some proposal else last
    | .delete kind' key' => if kind' = kind ∧ key' = key then none else last
    | _ => last

/-- What was last set under a key by a run that ended well, if nothing was deleted there since. -/
def standing (kind : SecretKind) (key : String) (past : List (Turn × Outcome)) : Option Proposal :=
  past.foldl (afterTurn kind key) none

/-- What a user may rely on who runs a command line after others. -/
structure Faithful (p : Workplace) (past : List (Turn × Outcome)) (b : Backends Unit) (t : Turn) : Prop where
  set : ∀ {key proposal}, t.action = .set key proposal → proposal.Acceptable → (t.outcome b).exit = 0
  refused : ∀ {key proposal}, t.action = .set key proposal → ¬ proposal.Acceptable →
    (t.outcome b).exit = 1 ∧ (t.outcome b).backends.disk.status p.path = b.disk.status p.path
  get : ∀ {kind key proposal}, t.action = .get kind key .json true →
    standing kind key past = some proposal → (t.outcome b).exit = 0 ∧
      (t.outcome b).output = renderTexts (proposal.fields key) ∧
      ∃ m, StoreDocument.readObject StoreDocument.readBlob (t.outcome b).output.toList =
          some (m, ['\n']) ∧
        ∀ name, m.get? name = SortedMap.lookup name (proposal.fields key)
  missing : ∀ {kind key format reveal}, t.action = .get kind key format reveal →
    standing kind key past = none → (t.outcome b).exit = 2
  delete : ∀ {kind key}, t.action = .delete kind key → (t.outcome b).exit = 0 ∧
    ∃ m : BlobMap, FileStore.Stored m (b.disk.contentAt p.path) ∧
      FileStore.Stored (Function.update m (p.nativeKey kind key) none)
        ((t.outcome b).backends.disk.contentAt p.path)

/-! ### One run -/

/-- What a run finds in a workplace: the blobs of a map in the file of the store. -/
structure Ready (p : Workplace) (k : Keyring) (m : BlobMap) (b : Backends Unit) : Prop where
  keyring : b.keyring = k
  awaits : p.Awaits b.disk
  stored : FileStore.Stored m (b.disk.contentAt p.path)

variable {p : Workplace} {k : Keyring} {m : BlobMap} {b : Backends Unit} {t : Turn}

theorem On.ready {found : Except IoError (List String × Node)} {w : Process} (h : On p k m found w) :
    Ready p k m w.backends :=
  ⟨h.keyring, h.disk.working.awaits, h.stored⟩

/-- Before the first run nothing is stored. -/
theorem ready_of_begins (h : p.Begins b.disk) : Ready p b.keyring .empty b := by
  refine ⟨rfl, h.awaits, .inl ⟨?_, rfl⟩⟩
  rw [Disk.contentAt, h.missing]

namespace Ready

variable {key : String} {proposal : Proposal} {s : Secret} {f : Failure} {kind : SecretKind}
variable {format : Format} {reveal : Bool}

theorem performs (h : Ready p k m b) (ht : Attends p k t.environment t.invocation) :
    ∃ w, everything t.environment t.invocation (started t.stamp b) =
      perform t.environment t.invocation w ∧ On p k m (b.disk.status p.path) w ∧ w.output = "" := by
  obtain ⟨rfl, hawaits, hstored⟩ := h
  exact everything_started hawaits hstored ht t.stamp

theorem outcome_of_ok {w : Process}
    (h : everything t.environment t.invocation (started t.stamp b) = .ok () w) :
    t.outcome b = .of 0 w := by
  rw [t.outcome_eq, execute]
  unfold started at h
  rw [h]

theorem outcome_of_error {w : Process}
    (h : everything t.environment t.invocation (started t.stamp b) = .error f w) :
    (t.outcome b).exit = f.exitStatus ∧ (t.outcome b).backends = w.backends := by
  rw [t.outcome_eq, execute]
  unfold started at h
  rw [h]
  exact ⟨rfl, rfl⟩

theorem outcome_refused (h : Ready p k m b) (ht : Attends p k t.environment t.invocation)
    (haction : t.action = .set key proposal) (hcheck : proposal.check = .error f) :
    (t.outcome b).exit = 1 ∧ Ready p k m (t.outcome b).backends ∧
      (t.outcome b).backends.disk.status p.path = b.disk.status p.path := by
  obtain ⟨w, hperform, hon, -⟩ := h.performs ht
  obtain ⟨w', hset, hon', -⟩ := hon.storeSecret_refused ht key hcheck
  rw [perform, show t.invocation.action = _ from haction] at hperform
  obtain ⟨hexit, hbackends⟩ := outcome_of_error (hperform.trans hset)
  rw [hexit, hbackends]
  exact ⟨Proposal.exitStatus_of_check hcheck, hon'.ready, hon'.disk.found⟩

theorem outcome_set (h : Ready p k m b) (ht : Attends p k t.environment t.invocation)
    (haction : t.action = .set key proposal) (hcheck : proposal.check = .ok s) :
    (t.outcome b).exit = 0 ∧ Ready p k
      (Function.update m (p.nativeKey proposal.kind key) (some s.encodeDocument)) (t.outcome b).backends := by
  obtain ⟨w, hperform, hon, -⟩ := h.performs ht
  obtain ⟨found', w', hset, hon'⟩ := hon.storeSecret ht key hcheck
  rw [perform, show t.invocation.action = _ from haction] at hperform
  rw [outcome_of_ok (hperform.trans hset), ← Proposal.kind_of_check hcheck]
  exact ⟨rfl, hon'.ready⟩

theorem outcome_missing (h : Ready p k m b) (ht : Attends p k t.environment t.invocation)
    (haction : t.action = .get kind key format reveal) (hkey : m (p.nativeKey kind key) = none) :
    (t.outcome b).exit = 2 ∧ Ready p k m (t.outcome b).backends := by
  obtain ⟨w, hperform, hon, -⟩ := h.performs ht
  obtain ⟨w', hget, hon'⟩ := hon.showSecret_missing ht hkey format reveal
  rw [perform, show t.invocation.action = _ from haction] at hperform
  obtain ⟨hexit, hbackends⟩ := outcome_of_error (hperform.trans hget)
  rw [hexit, hbackends]
  exact ⟨rfl, hon'.ready⟩

theorem outcome_get (h : Ready p k m b) (ht : Attends p k t.environment t.invocation)
    (haction : t.action = .get s.kind key format reveal)
    (hkey : m (p.nativeKey s.kind key) = some s.encodeDocument) :
    (t.outcome b).exit = 0 ∧ Ready p k m (t.outcome b).backends ∧
      (t.outcome b).output = renderSecret format reveal key s.persisted := by
  obtain ⟨w, hperform, hon, houtput⟩ := h.performs ht
  obtain ⟨w', hget, hon', houtput'⟩ := hon.showSecret ht hkey format reveal
  rw [perform, show t.invocation.action = _ from haction] at hperform
  rw [outcome_of_ok (hperform.trans hget)]
  refine ⟨rfl, hon'.ready, houtput'.trans ?_⟩
  rw [houtput, String.empty_append]

theorem outcome_delete (h : Ready p k m b) (ht : Attends p k t.environment t.invocation)
    (haction : t.action = .delete kind key) : (t.outcome b).exit = 0 ∧
      Ready p k (Function.update m (p.nativeKey kind key) none) (t.outcome b).backends := by
  obtain ⟨w, hperform, hon, -⟩ := h.performs ht
  obtain ⟨found', w', hdelete, hon'⟩ := hon.deleteSecret ht kind key
  rw [perform, show t.invocation.action = _ from haction] at hperform
  rw [outcome_of_ok (hperform.trans hdelete)]
  exact ⟨rfl, hon'.ready⟩

end Ready

/-! ### Runs after others -/

/-- A blob that holds the secret of a proposal, if there is one. -/
inductive Held (kind : SecretKind) : Option Proposal → Option String → Prop
  | nothing : Held kind none none
  | secret {proposal : Proposal} {s : Secret} (accepted : proposal.check = .ok s) (own : s.kind = kind) :
      Held kind (some proposal) (some s.encodeDocument)

/-- What holds between two runs: the file has what the runs so far were asked to keep. -/
structure Between (p : Workplace) (k : Keyring) (past : List (Turn × Outcome)) (m : BlobMap)
    (b : Backends Unit) : Prop where
  ready : Ready p k m b
  held : ∀ kind key, Held kind (standing kind key past) (m (p.nativeKey kind key))

theorem standing_append (kind : SecretKind) (key : String) (past : List (Turn × Outcome))
    (x : Turn × Outcome) :
    standing kind key (past ++ [x]) = afterTurn kind key (standing kind key past) x := by
  rw [standing, List.foldl_append]
  rfl

namespace Between

variable {past : List (Turn × Outcome)}

/-- What is stored under one key leaves what is held under the others. -/
theorem held_update (h : Between p k past m b) {kind : SecretKind} (key : String) {last : Option Proposal}
    {blob : Option String} (hheld : Held kind last blob) (kind' : SecretKind) (key' : String) :
    Held kind' (if kind = kind' ∧ key = key' then last else standing kind' key' past)
      (Function.update m (p.nativeKey kind key) blob (p.nativeKey kind' key')) := by
  rw [Function.update_apply]
  simp only [p.nativeKey_eq_iff]
  by_cases hsame : kind = kind' ∧ key = key'
  · obtain ⟨rfl, rfl⟩ := hsame
    rw [if_pos ⟨rfl, rfl⟩, if_pos ⟨rfl, rfl⟩]
    exact hheld
  · rw [if_neg hsame, if_neg fun hother => hsame ⟨hother.1.symm, hother.2.symm⟩]
    exact h.held kind' key'

/-- One run keeps it, whatever becomes of the run. -/
theorem step (h : Between p k past m b) (ht : Attends p k t.environment t.invocation)
    (hsecrets : t.action.IsOfSecrets) :
    ∃ m', Between p k (past ++ [(t, t.outcome b)]) m' (t.outcome b).backends := by
  cases haction : t.action with
  | set key proposal =>
      cases hcheck : proposal.check with
      | error f =>
          obtain ⟨hexit, hready, -⟩ := h.ready.outcome_refused ht haction hcheck
          refine ⟨m, hready, fun kind' key' => ?_⟩
          rw [standing_append, afterTurn, haction]
          simp only [hexit, Nat.one_ne_zero, false_and, if_false]
          exact h.held kind' key'
      | ok s =>
          obtain ⟨hexit, hready⟩ := h.ready.outcome_set ht haction hcheck
          refine ⟨_, hready, fun kind' key' => ?_⟩
          rw [standing_append, afterTurn, haction]
          simp only [hexit, true_and]
          exact h.held_update key (.secret hcheck (Proposal.kind_of_check hcheck)) kind' key'
  | get kind key format reveal =>
      have hheld := h.held kind key
      have hready : Ready p k m (t.outcome b).backends := by
        generalize standing kind key past = last at hheld
        generalize hkey : m (p.nativeKey kind key) = blob at hheld
        cases hheld with
        | nothing => exact (h.ready.outcome_missing ht haction hkey).2
        | secret accepted own =>
            subst own
            exact (h.ready.outcome_get ht haction hkey).2.1
      refine ⟨m, hready, fun kind' key' => ?_⟩
      rw [standing_append, afterTurn, haction]
      exact h.held kind' key'
  | delete kind key =>
      obtain ⟨-, hready⟩ := h.ready.outcome_delete ht haction
      refine ⟨_, hready, fun kind' key' => ?_⟩
      rw [standing_append, afterTurn, haction]
      exact h.held_update key .nothing kind' key'
  | status format =>
      rw [haction] at hsecrets
      cases hsecrets
  | showSettings =>
      rw [haction] at hsecrets
      cases hsecrets
  | initSettings space fallback force =>
      rw [haction] at hsecrets
      cases hsecrets

/-- Any number of runs keep it. -/
theorem runs (h : Between p k past m b) {turns : List Turn}
    (hturns : ∀ t ∈ turns, Attends p k t.environment t.invocation ∧ t.action.IsOfSecrets) :
    ∃ m', Between p k (past ++ Turn.transcript turns b) m' (Turn.left turns b) := by
  induction turns generalizing past m b with
  | nil =>
      rw [Turn.transcript, List.append_nil]
      exact ⟨m, h⟩
  | cons t later ih =>
      obtain ⟨ht, hsecrets⟩ := hturns t (List.mem_cons_self ..)
      obtain ⟨m', hstep⟩ := h.step ht hsecrets
      have hrest := ih hstep fun t' ht' => hturns t' (List.mem_cons_of_mem _ ht')
      rw [List.append_assoc] at hrest
      exact hrest

theorem faithful (h : Between p k past m b) (ht : Attends p k t.environment t.invocation) :
    Faithful p past b t where
  set := by
    intro key proposal haction hacceptable
    obtain ⟨s, hcheck⟩ := proposal.acceptable_iff.1 hacceptable
    exact (h.ready.outcome_set ht haction hcheck).1
  refused := by
    intro key proposal haction hbad
    cases hcheck : proposal.check with
    | ok s => exact absurd (proposal.acceptable_iff.2 ⟨s, hcheck⟩) hbad
    | error f =>
        obtain ⟨hexit, -, hsame⟩ := h.ready.outcome_refused ht haction hcheck
        exact ⟨hexit, hsame⟩
  get := by
    intro kind key proposal haction hstanding
    have hheld := h.held kind key
    rw [hstanding] at hheld
    generalize hkey : m (p.nativeKey kind key) = blob at hheld
    cases hheld with
    | @secret _ s accepted own =>
        subst own
        obtain ⟨hexit, -, houtput⟩ := h.ready.outcome_get ht haction hkey
        rw [Proposal.persisted_check accepted] at houtput
        obtain ⟨fields, hread, hget⟩ := read_renderSecret key s
        rw [← Proposal.fieldsOf_check accepted, ← renderSecret_json, houtput]
        exact ⟨hexit, rfl, fields, hread, hget⟩
  missing := by
    intro kind key format reveal haction hstanding
    have hheld := h.held kind key
    rw [hstanding] at hheld
    generalize hkey : m (p.nativeKey kind key) = blob at hheld
    cases hheld
    exact (h.ready.outcome_missing ht haction hkey).1
  delete := by
    intro kind key haction
    obtain ⟨hexit, hready⟩ := h.ready.outcome_delete ht haction
    exact ⟨hexit, m, h.ready.stored, hready.stored⟩

end Between

/-- Whatever command lines were run before, the next one does what its user may rely on. -/
theorem faithful_after (hbegins : p.Begins b.disk) {before : List Turn}
    (hturns : ∀ t' ∈ before ++ [t], Attends p b.keyring t'.environment t'.invocation ∧
      t'.action.IsOfSecrets) :
    Faithful p (Turn.transcript before b) (Turn.left before b) t := by
  have hbetween : Between p b.keyring [] .empty b := ⟨ready_of_begins hbegins, fun _ _ => .nothing⟩
  obtain ⟨m, hafter⟩ := hbetween.runs fun t' ht' => hturns t' (List.mem_append_left _ ht')
  exact hafter.faithful (hturns t (List.mem_append_right _ (List.mem_singleton_self t))).1

/-- Settings that name the file of the store and the file of the log. -/
def desk (log : String) : Workplace where
  directory := ⟨"c"⟩
  settings := ⟨"credstore", .optional, some "store.json", ⟨.warn, some "credstore::store=debug", some log⟩⟩
  path := "store.json"
  valid := by
    -- The file of the log is not looked at.
    have hvalid : (⟨"credstore", .optional, some "store.json",
        ⟨.warn, some "credstore::store=debug", none⟩⟩ : Settings).validate = .ok () := by
      decide +kernel
    exact hvalid

def drawer (log : String) : Backends Unit where
  disk :=
    let text := "fallback_path = \"store.json\"\n\n[logging]\nfilter = \"credstore::store=debug\"\n" ++
      "file = \"" ++ log ++ "\"\n"
    ⟨[(["c", "config.toml"], .file text.toUTF8 0o644 0), (["c"], .directory)], [], [], 1⟩
  keyring := .empty
  rest := ()

theorem sound_drawer (log : String) : (drawer log).disk.Sound := by
  have hroom : Disk.Sound ⟨[(["c"], .directory)], [], [], 0⟩ :=
    @Disk.Sound.bind _ [] "c" (Disk.sound_blank []) .directory 0 rfl (by decide) (Nat.le_refl _) (by simp)
  refine @Disk.Sound.bind _ ["c"] "config.toml" hroom _ 1 rfl (by decide) (by decide) ?_
  rintro bytes mode own ⟨⟩
  exact ⟨Nat.one_pos, fun _ _ _ hother => absurd (hroom.fresh hother) (Nat.not_lt_zero _)⟩

def storing : Turn where
  environment := ⟨[("CREDSTORE_TOKEN", "open")], none⟩
  stamp := ""
  arguments := ["--config", "c", "set", "token", "mail", "--token-type", "test"]
  invocation := ⟨some "c", 0, false, none, .set "mail" (.token "test" (some "open") none)⟩
  parsed := by decide +kernel

def dropping : Turn where
  environment := ⟨[], none⟩
  stamp := ""
  arguments := ["--config", "c", "delete", "credential", "mail"]
  invocation := ⟨some "c", 0, false, none, .delete .credential "mail"⟩
  parsed := by decide +kernel

def reading : Turn where
  environment := ⟨[], none⟩
  stamp := ""
  arguments := ["--config", "c", "get", "token", "mail", "--show-secret", "--format", "json"]
  invocation := ⟨some "c", 0, false, none, .get .token "mail" .json true⟩
  parsed := by decide +kernel

theorem attends_desk (log : String) {t : Turn} (ht : t ∈ [storing, dropping, reading]) :
    Attends (desk log) .empty t.environment t.invocation ∧ t.action.IsOfSecrets := by
  simp only [List.mem_cons, List.not_mem_nil, or_false] at ht
  rcases ht with rfl | rfl | rfl
  · exact ⟨⟨rfl, rfl, rfl, _, rfl⟩, trivial⟩
  · exact ⟨⟨rfl, rfl, rfl, _, rfl⟩, trivial⟩
  · exact ⟨⟨rfl, rfl, rfl, _, rfl⟩, trivial⟩

/-- The disk of a drawer once the log is open. -/
def openDrawer (log : String) : Disk := Journal.withOutput (desk log).output (drawer log).disk

theorem saves_drawer {log : String} (hquiet : (openDrawer log).mishaps = [])
    (hhere : (openDrawer log).here = []) (htarget : (openDrawer log).find? ["store.json"] = none)
    (hdir : (openDrawer log).find? ["store.json.tmp"] ≠ some .directory)
    (hvoid : (openDrawer log).find? ["store.json.tmp"] ≠ some .void) :
    FileStore.Saves "store.json" (openDrawer log) := by
  have hname : FileStore.temporary "store.json" = "store.json.tmp" := by decide +kernel
  apply FileStore.Ready.saves
  apply IsName.ready
  · decide +kernel
  · decide +kernel
  · exact hquiet
  · simp [hhere, htarget]
  · simpa [hhere, hname] using hdir
  · simpa [hhere, hname] using hvoid

/-- A file in the working directory is not the one of the settings. -/
theorem elsewhere_settings {log : String} (hlog : IsName log) {disk : Disk} (hhere : disk.here = [])
    (hspot : disk.spot (desk log).directory.file = .ok (.entry ["c"] "config.toml" false)) :
    disk.Elsewhere log (desk log).directory.file := by
  have hsettings : disk.EntryAt (desk log).directory.file ["c", "config.toml"] :=
    ⟨["c"], "config.toml", rfl, hspot, by decide +kernel⟩
  apply hsettings.elsewhere (hlog.entryAt disk)
  simp [hhere]

theorem begins_drawer : (desk "run.log").Begins (drawer "run.log").disk where
  sound := sound_drawer "run.log"
  quiet := rfl
  loads := by decide +kernel
  missing := by decide +kernel
  saves := by
    apply saves_drawer
    · decide +kernel
    · decide +kernel
    · decide +kernel
    · decide +kernel
    · decide +kernel
  kept := by
    intro disk' hsave
    have hdisk : disk' = Call.after (FileStore.save "store.json" .empty (openDrawer "run.log")) := by
      rw [show FileStore.save "store.json" .empty (openDrawer "run.log") = .ok () disk' from hsave]
      rfl
    subst hdisk
    constructor
    · decide +kernel
    · constructor
      · rintro _ ⟨⟩
        constructor
        · exact IsName.elsewhere (by decide +kernel) (by decide +kernel) (by decide) _
        · exact IsName.elsewhere (by decide +kernel) (by decide +kernel) (by decide +kernel) _
      · rintro _ ⟨⟩
        apply elsewhere_settings
        · decide +kernel
        · decide +kernel
        · decide +kernel

/-- What was stored is read after something else was deleted. -/
theorem faithful_after_drawer :
    Faithful (desk "run.log") (Turn.transcript [storing, dropping] (drawer "run.log"))
      (Turn.left [storing, dropping] (drawer "run.log")) reading := by
  apply faithful_after begins_drawer
  intro t ht
  exact attends_desk "run.log" ht

/-- A log that goes to the file beside the one of the store is moved along with the document, and its next
line comes after it: the run that stores a secret ends well, and the next one does not find it. -/
theorem not_faithful_beside : ¬ ∀ (p : Workplace) (b : Backends Unit) (before : List Turn) (t : Turn),
    b.disk.Sound → b.disk.mishaps = [] → (p.directory.load b.disk).1.value = .ok p.settings →
    b.disk.status p.path = .error .notFound →
    FileStore.Saves p.path (Journal.withOutput p.output b.disk) →
    (∀ file, p.output = .file file →
      b.disk.Elsewhere file p.path ∧ b.disk.Elsewhere file p.directory.file) →
    (∀ t' ∈ before ++ [t], Attends p b.keyring t'.environment t'.invocation ∧ t'.action.IsOfSecrets) →
    Faithful p (Turn.transcript before b) (Turn.left before b) t := by
  intro h
  have hfaithful : Faithful (desk "store.json.tmp") (Turn.transcript [storing] (drawer "store.json.tmp"))
      (Turn.left [storing] (drawer "store.json.tmp")) reading := by
    apply h
    · exact sound_drawer "store.json.tmp"
    · rfl
    · decide +kernel
    · decide +kernel
    · apply saves_drawer
      · decide +kernel
      · decide +kernel
      · decide +kernel
      · decide +kernel
      · decide +kernel
    · rintro _ ⟨⟩
      constructor
      · exact IsName.elsewhere (by decide +kernel) (by decide +kernel) (by decide) _
      · apply elsewhere_settings
        · decide +kernel
        · decide +kernel
        · decide +kernel
    · intro t ht
      apply attends_desk
      simp only [List.cons_append, List.nil_append, List.mem_cons, List.not_mem_nil, or_false] at ht ⊢
      exact ht.imp_right .inr
  have hstanding : standing .token "mail" (Turn.transcript [storing] (drawer "store.json.tmp")) =
      some (.token "test" (some "open") none) := by
    decide +kernel
  have hexit := (hfaithful.get rfl hstanding).1
  have hlost : (reading.outcome (Turn.left [storing] (drawer "store.json.tmp"))).exit = 2 := by
    decide +kernel
  rw [hlost] at hexit
  cases hexit

end Strongbox.Command
