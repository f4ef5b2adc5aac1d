import Strongbox.Proofs.Command.Contract
import Strongbox.Proofs.Command.Steps
import Strongbox.Proofs.SecretStore.Reports
/-! What a run without a secure store finds in the plain file, and what its status says of it. Storing and
deleting tell a file that fails them; reading does not, for what cannot be read counts as absent. -/
namespace Strongbox

open Log

namespace FileStore

variable {path : String} {disk : Disk}

/-- The document that a read finds. A missing file stands for the empty one; a file that cannot be read,
that is no document or that has a later version stands for none. -/
def documentAt? (path : String) (disk : Disk) : Option StoreDocument :=
  match Disk.readText path disk with
  | .error .notFound _ => some .empty
  | .error _ _ => none
  | .ok text _ => (StoreDocument.read? text).filter (·.version ≤ StoreDocument.currentVersion)

theorem documentOf_filter (path text : String) : (documentOf path text).toOption =
    (StoreDocument.read? text).filter (·.version ≤ StoreDocument.currentVersion) := by
  unfold documentOf
  cases StoreDocument.read? text with
  | none => rfl
  | some d =>
      dsimp only
      by_cases hlater : StoreDocument.currentVersion < d.version
      · rw [if_pos hlater, Option.filter_some_neg (by simpa using hlater)]
        rfl
      · rw [if_neg hlater, Option.filter_some_pos (by simpa using hlater)]
        rfl

/-- Every call of the store starts from just this document. -/
theorem load_of_documentAt? (path : String) (disk : Disk) : match documentAt? path disk with
    | some d => ∃ disk', load path disk = .ok d disk'
    | none => ∃ e disk', load path disk = .error e disk' := by
  unfold documentAt? load
  cases Disk.readText path disk with
  | error e disk' =>
      cases e with
      | notFound => exact ⟨disk', rfl⟩
      | _ => exact ⟨_, disk', rfl⟩
  | ok text disk' =>
      dsimp only
      rw [← documentOf_filter path text]
      cases documentOf path text with
      | error e => exact ⟨e, disk', rfl⟩
      | ok d => exact ⟨disk', rfl⟩

end FileStore

namespace Opened

variable {σ : Type} {native : NativeStore σ} {w w' : σ} {e : SecretError} {key : String}

theorem add_of_failed (s : Opened native) {a : s.kind.Content}
    (h : native.put (s.nativeKey key) (s.kind.secret a).encodeDocument w = .error e w') :
    (s.store.add key a w).1.value = false := by
  rw [SecretStore.add, s.tryAdd_eq, h]

theorem delete_of_failed (s : Opened native) (h : native.delete (s.nativeKey key) w = .error e w') :
    (s.store.delete key w).1.value = false := by
  rw [SecretStore.delete, s.tryDelete_eq, h]

end Opened

namespace Backends

variable {b : Backends Unit} {disk : Disk} {path : String} {key : NativeKey} {e : SecretError}

theorem put_of_failed {blob : String} (h : FileStore.put path key blob b.disk = .error e disk) :
    (file path).put key blob b = .error e { b with disk } := by
  simp only [file, NativeStore.within, FileStore.native, StoreCall.onPart, h]

theorem get_of_failed (h : FileStore.get path key b.disk = .error e disk) :
    (file path).get key b = .error e { b with disk } := by
  simp only [file, NativeStore.within, FileStore.native, StoreCall.onPart, h]

theorem delete_of_failed (h : FileStore.delete path key b.disk = .error e disk) :
    (file path).delete key b = .error e { b with disk } := by
  simp only [file, NativeStore.within, FileStore.native, StoreCall.onPart, h]

end Backends

namespace Command

/-- What there is to be found under a key. -/
inductive Finding where
  | nothing
  | secret
  /-- The file cannot be used, or what stands under the key cannot be decoded. -/
  | failure
  deriving DecidableEq, Repr

namespace Finding

/-- The status that stands for it. -/
def status : Finding → Nat
  | secret => 0
  | failure => 1
  | nothing => 2

/-- What becomes of the blob under a key, if there is one. -/
def ofBlob (kind : SecretKind) : Option String → Finding
  | none => nothing
  | some blob => match Secret.decode kind blob with
    | .ok _ => secret
    | .error _ => failure

theorem ofBlob_eq_secret_iff (kind : SecretKind) (found : Option String) : ofBlob kind found = secret ↔
    (found.bind fun blob => (Secret.decode kind blob).toOption).isSome = true := by
  cases found with
  | none => simp [ofBlob]
  | some blob =>
      rw [Option.bind_some, ofBlob]
      cases Secret.decode kind blob <;> simp [Except.toOption]

end Finding

/-- What the plain file of a provider has under a key. -/
def seek (p : Provider Unit) (kind : SecretKind) (key : String) (disk : Disk) : Finding :=
  match FileStore.documentAt? p.fallback disk with
  | none => .failure
  | some d => .ofBlob kind (d.get? (p.nativeKey kind key).service (p.nativeKey kind key).key)

/-! ### The store in the file -/

section

variable {p : Provider Unit} {b : Backends Unit}

/-- A store that was opened in the file of a provider. -/
structure InFile (p : Provider Unit) (kind : SecretKind) where
  store : SecretStore (Backends Unit) kind.Content
  made : SecretStore.make (Backends.file p.fallback) p.space kind.format = .ok store

namespace InFile

variable {kind : SecretKind}

def opened (s : InFile p kind) : Opened (Backends.file p.fallback : NativeStore (Backends Unit)) :=
  ⟨p.space, kind, s.store, s.made⟩

theorem nativeKey (s : InFile p kind) (key : String) : s.opened.nativeKey key = p.nativeKey kind key :=
  p.nativeKey_opened s.opened rfl key

/-- Only a secret that is decoded is told from nothing. -/
theorem get_isSome_iff (s : InFile p kind) (key : String) :
    (s.store.get key b).1.value.isSome = true ↔ seek p kind key b.disk = .secret := by
  have hload := FileStore.load_of_documentAt? p.fallback b.disk
  unfold seek
  cases hdocument : FileStore.documentAt? p.fallback b.disk with
  | none =>
      rw [hdocument] at hload
      obtain ⟨e, disk', hload⟩ := hload
      have hread : FileStore.get p.fallback (p.nativeKey kind key) b.disk = .error e disk' :=
        Call.bind_of_error hload _
      have hnone : (s.store.get key b).1.value = none :=
        s.opened.get_of_failed (s.nativeKey key ▸ Backends.get_of_failed hread)
      rw [hnone]
      simp
  | some d =>
      rw [hdocument] at hload
      obtain ⟨disk', hload⟩ := hload
      have hread : FileStore.get p.fallback (p.nativeKey kind key) b.disk =
          .ok (d.get? (p.nativeKey kind key).service (p.nativeKey kind key).key) disk' :=
        Call.bind_of_ok hload _
      have hget : (Backends.file p.fallback).get (s.opened.nativeKey key) b =
          .ok (d.get? (p.nativeKey kind key).service (p.nativeKey kind key).key) { b with disk := disk' } := by
        rw [s.nativeKey]
        exact Backends.get_of_file hread
      have hvalue : (s.store.get key b).1.value.map kind.secret =
          (d.get? (p.nativeKey kind key).service (p.nativeKey kind key).key).bind
            fun blob => (Secret.decode kind blob).toOption :=
        s.opened.get_of_found hget
      rw [Finding.ofBlob_eq_secret_iff, ← hvalue, Option.isSome_map]

/-- A file that cannot be used fails every change. -/
theorem refuses (s : InFile p kind) (key : String) (h : FileStore.documentAt? p.fallback b.disk = none) :
    (∀ a, (s.store.add key a b).1.value = false) ∧ (s.store.delete key b).1.value = false := by
  have hload := FileStore.load_of_documentAt? p.fallback b.disk
  rw [h] at hload
  obtain ⟨e, disk', hload⟩ := hload
  constructor
  · intro a
    have hput : FileStore.put p.fallback (p.nativeKey kind key) (kind.secret a).encodeDocument b.disk =
        .error e disk' := Call.bind_of_error hload _
    exact s.opened.add_of_failed (s.nativeKey key ▸ Backends.put_of_failed hput)
  · have hdelete : FileStore.delete p.fallback (p.nativeKey kind key) b.disk = .error e disk' :=
      Call.bind_of_error hload _
    exact s.opened.delete_of_failed (s.nativeKey key ▸ Backends.delete_of_failed hdelete)

end InFile
end

/-! ### Reaching it -/

variable {e : Environment} {i : Invocation} {b : Backends Unit} {w : Process} {s : Settings}
variable {p : Provider Unit}

/-- Settings that load and make a provider are all that a run needs for one. -/
theorem loadProvider_of_settings (hs : Loads e i w.backends.disk s)
    (hp : (Provider.ofSettings e s : Except SettingsError (Provider Unit)) = .ok p) :
    ∃ w', w'.backends.keyring = w.backends.keyring ∧
      loadProvider e i w = .ok (withSecurity i.security p) w' := by
  obtain ⟨w', hkeyring, ⟨s', hs', hload⟩ | ⟨hnone, -⟩⟩ := loadSettings_cases e i w
  · obtain rfl := hs.unique hs'
    refine ⟨w', hkeyring, ?_⟩
    rw [loadProvider, Call.bind_of_ok hload, hp]
    rfl
  · exact absurd ⟨s, hs⟩ hnone

/-- Where no secure store answers and none is required, the store is in the file. -/
theorem reach_of_optional (h : Unreachable e b) (hw : w.backends.keyring = b.keyring)
    (hs : Loads e i w.backends.disk s)
    (hp : (Provider.ofSettings e s : Except SettingsError (Provider Unit)) = .ok p)
    (hlevel : i.security.getD s.security = .optional) (kind : SecretKind) :
    ∃ (f : InFile p kind) (w' : Process), reach e i kind w = .ok f.store w' := by
  obtain ⟨w₁, hkeyring, hload⟩ := loadProvider_of_settings hs hp
  have hoptional : withSecurity i.security p = { p with level := .optional } := by
    rw [withSecurity_eq, (Provider.follows_of_settings hp).level, hlevel]
  obtain ⟨failure, hmissing⟩ := missing_of_settings h hp (hkeyring.trans hw)
  have hselect : (({ p with level := .optional } : Provider Unit).select .optional w₁.backends).value =
      .ok (Backends.file p.fallback) := Provider.select_optional_of_missing hmissing
  obtain ⟨store, hstore, -⟩ := Provider.store_of_selected hselect kind
  have hmade : SecretStore.make (Backends.file p.fallback) p.space kind.format = .ok store := by
    simpa only [Provider.store, Logged.map, hselect] using hstore
  obtain ⟨w₂, -, hopen⟩ := openStore_eq ({ p with level := .optional } : Provider Unit) kind w₁
  refine ⟨⟨store, hmade⟩, w₂, ?_⟩
  rw [reach, Call.bind_of_ok hload, hoptional, hopen, hstore]
  rfl

/-! ### The status -/

/-- The disk that a step of a run leaves. -/
def diskAfter {α : Type} (step : Run α) (w : Process) : Disk := (Call.after (step w)).backends.disk

/-- What the status of a run says of the file of its provider. The command begins with the process `w`, and
looks at the file once it has reached its store. -/
structure Discerns (e : Environment) (i : Invocation) (b : Backends Unit) (p : Provider Unit) (w : Process)
    (exit : Nat) : Prop where
  /-- Until then nothing but the log was written. -/
  disk : b.disk.Sound → ∀ kind, OnlyLogChanged e i b.disk (diskAfter (reach e i kind) w) ∧
    OnlyLogChanged e i b.disk (diskAfter (approach e i kind) w)
  /-- What cannot be used has the status of what is not there; all else has its own. -/
  get : ∀ kind key format reveal found, i.action = .get kind key format reveal →
    found = seek p kind key (diskAfter (reach e i kind) w) →
      (exit = found.status ↔ found ≠ .failure) ∧ (found = .failure → exit = Finding.nothing.status)
  set : ∀ key proposal, i.action = .set key proposal → (∀ s, proposal.check = .ok s →
    FileStore.documentAt? p.fallback (diskAfter (approach e i s.kind) w) = none) →
      exit = Finding.failure.status
  delete : ∀ kind key, i.action = .delete kind key →
    FileStore.documentAt? p.fallback (diskAfter (reach e i kind) w) = none → exit = Finding.failure.status

section

variable (h : Unreachable e b) (hw : w.backends.keyring = b.keyring) (hs : Loads e i w.backends.disk s)
variable (hp : (Provider.ofSettings e s : Except SettingsError (Provider Unit)) = .ok p)
variable (hlevel : i.security.getD s.security = .optional)

include h hw hs hp hlevel

theorem status_showSecret (kind : SecretKind) (key : String) (format : Format) (reveal : Bool) :
    status (showSecret e i kind key format reveal w) =
      if seek p kind key (diskAfter (reach e i kind) w) = .secret then 0 else 2 := by
  obtain ⟨f, w', hreach⟩ := reach_of_optional h hw hs hp hlevel kind
  obtain ⟨w'', hget⟩ := onStore_eq_ok (f.store.get key) w'
  have hfound := f.get_isSome_iff (b := w'.backends) key
  rw [showSecret_eq, Call.bind_of_ok hreach, Call.bind_of_ok hget, diskAfter, hreach, Call.after_ok]
  cases hvalue : (f.store.get key w'.backends).1.value with
  | none =>
      rw [if_neg fun hsecret => by simpa [hvalue] using hfound.2 hsecret]
      rfl
  | some a =>
      rw [if_pos (hfound.1 (by rw [hvalue]; rfl))]
      rfl

theorem status_deleteSecret {kind : SecretKind}
    (hfile : FileStore.documentAt? p.fallback (diskAfter (reach e i kind) w) = none) (key : String) :
    status (deleteSecret e i kind key w) = 1 := by
  obtain ⟨f, w', hreach⟩ := reach_of_optional h hw hs hp hlevel kind
  obtain ⟨w'', hdelete⟩ := onStore_eq_ok (f.store.delete key) w'
  rw [diskAfter, hreach, Call.after_ok] at hfile
  rw [deleteSecret_eq, Call.bind_of_ok hreach, Call.bind_of_ok hdelete, (f.refuses key hfile).2]
  rfl

theorem status_storeSecret {proposal : Proposal} (hfile : ∀ s, proposal.check = .ok s →
    FileStore.documentAt? p.fallback (diskAfter (approach e i s.kind) w) = none) (key : String) :
    status (storeSecret e i key proposal w) = 1 := by
  cases hcheck : proposal.check with
  | error failure =>
      obtain ⟨w', -, hload⟩ := loadProvider_of_settings hs hp
      rw [storeSecret_of_refused hcheck, Call.bind_of_ok hload]
      exact Proposal.exitStatus_of_check hcheck
  | ok secret =>
      obtain ⟨f, w', hreach⟩ := reach_of_optional h hw hs hp hlevel secret.kind
      obtain ⟨w'', happroach⟩ := approach_of_reach hreach
      obtain ⟨w₃, hadd⟩ := onStore_eq_ok (f.store.add key secret.content) w''
      have hnone := hfile secret hcheck
      rw [diskAfter, happroach, Call.after_ok] at hnone
      rw [storeSecret_of_acceptable hcheck, Call.bind_of_ok happroach, addTo, Call.bind_of_ok hadd,
        (f.refuses key hnone).1]
      rfl

end

/-- Where no secure store can be reached and none is required, a status tells a failing store from a missing
secret just where the command changes something. -/
theorem execute_discerns (stamp : String) (h : Unreachable e b)
    (hs : Loads e i (begun e stamp i b).backends.disk s)
    (hp : (Provider.ofSettings e s : Except SettingsError (Provider Unit)) = .ok p)
    (hlevel : i.security.getD s.security = .optional) :
    Discerns e i b p (begun e stamp i b) (execute e stamp i b).exit := by
  have hsilent := silent_begun e stamp i b
  have hw := hsilent.keyring
  rw [(execute_eq hs.not_crashes_before stamp).1]
  constructor
  · intro hsound kind
    exact ⟨((StaysSilent.reach e i kind hsilent).logged hsound).others,
      ((StaysSilent.approach e i kind hsilent).logged hsound).others⟩
  · intro kind key format reveal found hi hfound
    have hstatus := status_showSecret h hw hs hp hlevel kind key format reveal
    rw [← hfound] at hstatus
    simp only [perform, hi, hstatus]
    cases found <;> decide
  · intro key proposal hi hfile
    simp only [perform, hi]
    exact status_storeSecret h hw hs hp hlevel hfile key
  · intro kind key hi hfile
    simp only [perform, hi]
    exact status_deleteSecret h hw hs hp hlevel hfile key

/-- A user whose file is no document. -/
def spoilt : Backends Unit where
  disk := ⟨[(["data", "credstore", "insecure-store.json"], .file "not json".toUTF8 0o600 0),
    (["data", "credstore"], .directory), (["data"], .directory)], [], [], 1⟩
  keyring := .empty
  rest := ()

def tolerant (action : Action) : Invocation := ⟨some "cfg", 0, false, some .optional, action⟩

def inquiry : Invocation := tolerant (.get .credential "mail" .table false)

def deletion : Invocation := tolerant (.delete .credential "mail")

theorem fallback_alone (hp : (Provider.ofSettings alone .standard : Except SettingsError (Provider Unit)) = .ok p) :
    p.fallback = "/data/credstore/insecure-store.json" := by
  have hpath : Settings.standard.fallbackPath alone = .ok "/data/credstore/insecure-store.json" := by
    decide +kernel
  exact Except.ok.inj ((Provider.follows_of_settings hp).fallback.symm.trans hpath)

theorem loads_inquiry :
    Loads alone inquiry (begun alone "" inquiry spoilt).backends.disk .standard :=
  ⟨⟨"cfg"⟩, rfl, by decide +kernel⟩

theorem loads_deletion :
    Loads alone deletion (begun alone "" deletion spoilt).backends.disk .standard :=
  ⟨⟨"cfg"⟩, rfl, by decide +kernel⟩

theorem seek_inquiry (hp : (Provider.ofSettings alone .standard : Except SettingsError (Provider Unit)) = .ok p) :
    seek p .credential "mail"
      (diskAfter (reach alone inquiry .credential) (begun alone "" inquiry spoilt)) = .failure := by
  have hnone : FileStore.documentAt? p.fallback
      (diskAfter (reach alone inquiry .credential) (begun alone "" inquiry spoilt)) = none := by
    rw [fallback_alone hp]
    decide +kernel
  rw [seek, hnone]

theorem execute_discerns_spoilt : Unreachable alone spoilt ∧
    (∃ p, Discerns alone inquiry spoilt p (begun alone "" inquiry spoilt)
      (execute alone "" inquiry spoilt).exit) ∧
    (execute alone "" inquiry spoilt).exit = 2 ∧ (execute alone "" deletion spoilt).exit = 1 := by
  obtain ⟨p, hp⟩ := provider_alone
  have hunreachable : Unreachable alone spoilt := fun _ => ⟨_, rfl⟩
  have hinquiry := execute_discerns "" hunreachable loads_inquiry hp rfl
  have hdeletion := execute_discerns "" hunreachable loads_deletion hp rfl
  refine ⟨hunreachable, ⟨p, hinquiry⟩, (hinquiry.get _ _ _ _ _ rfl rfl).2 (seek_inquiry hp),
    hdeletion.delete _ _ rfl ?_⟩
  rw [fallback_alone hp]
  decide +kernel

/-- A file that cannot be read has the status of a missing secret. -/
theorem not_told_apart : ¬ ∀ (e : Environment) (i : Invocation) (b : Backends Unit) (s : Settings)
    (p : Provider Unit) (kind : SecretKind) (key : String) (format : Format) (reveal : Bool),
    Unreachable e b → Loads e i (begun e "" i b).backends.disk s →
    (Provider.ofSettings e s : Except SettingsError (Provider Unit)) = .ok p →
    i.security.getD s.security = .optional → i.action = .get kind key format reveal →
    (execute e "" i b).exit = (seek p kind key (diskAfter (reach e i kind) (begun e "" i b))).status := by
  intro h
  obtain ⟨p, hp⟩ := provider_alone
  have hunreachable : Unreachable alone spoilt := fun _ => ⟨_, rfl⟩
  have hkeyring := (silent_begun alone "" inquiry spoilt).keyring
  have hasked := h alone inquiry spoilt .standard p .credential "mail" .table false hunreachable
    loads_inquiry hp rfl rfl
  have htold := status_showSecret (i := inquiry) hunreachable hkeyring loads_inquiry hp rfl
    .credential "mail" .table false
  rw [(execute_eq loads_inquiry.not_crashes_before "").1] at hasked
  rw [seek_inquiry hp] at htold hasked
  cases htold.symm.trans hasked

end Command
end Strongbox
