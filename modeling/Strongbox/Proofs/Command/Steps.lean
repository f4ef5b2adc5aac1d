import Strongbox.Proofs.Command.Storing
import Strongbox.Proofs.Command.Workplace
import Strongbox.Proofs.Provider.Containment
import Strongbox.Proofs.Provider.Made
/-! The steps of a run whose secrets go to a plain file. As long as nothing is stored or deleted they end
well, print nothing and leave the file of the store as it is. -/
namespace Strongbox

open Log

namespace Backends

variable {b : Backends Unit} {disk : Disk} {path : String} {key : NativeKey}

theorem put_of_file {blob : String} (h : FileStore.put path key blob b.disk = .ok () disk) :
    (file path).put key blob b = .ok () { b with disk } := by
  simp only [file, NativeStore.within, FileStore.native, StoreCall.onPart, h]

theorem get_of_file {found : Option String} (h : FileStore.get path key b.disk = .ok found disk) :
    (file path).get key b = .ok found { b with disk } := by
  simp only [file, NativeStore.within, FileStore.native, StoreCall.onPart, h]

theorem delete_of_file {existed : Bool} (h : FileStore.delete path key b.disk = .ok existed disk) :
    (file path).delete key b = .ok existed { b with disk } := by
  simp only [file, NativeStore.within, FileStore.native, StoreCall.onPart, h]

end Backends

namespace Command

/-- A run in a workplace, over a keyring that it leaves alone. The file of the store is as it was found,
and holds the blobs of a map. -/
structure On (p : Workplace) (k : Keyring) (m : BlobMap) (found : Except IoError (List String × Node))
    (w : Process) : Prop where
  keyring : w.backends.keyring = k
  disk : p.During w.journal.handle? found w.backends.disk
  stored : FileStore.Stored m (w.backends.disk.contentAt p.path)

/-- A command that is given in a workplace where no keyring can be reached. -/
structure Attends (p : Workplace) (k : Keyring) (e : Environment) (i : Invocation) : Prop where
  directory : directoryOf e i = .ok p.directory
  fallback : p.settings.fallbackPath e = .ok p.path
  level : i.security.getD p.settings.security = .optional
  unreachable : ∃ failure, ((Detector.keyring e.session? : Detector Unit) .current p.settings.space
    ⟨⟨[], [], [], 0⟩, k, ()⟩).value = .error failure

variable {p : Workplace} {k : Keyring} {m : BlobMap} {found : Except IoError (List String × Node)}
variable {w : Process} {e : Environment} {i : Invocation} {α β : Type}

/-- A step that ends well, prints nothing and stores nothing. -/
def Passes (p : Workplace) (k : Keyring) (m : BlobMap) (found : Except IoError (List String × Node))
    (step : Run α) (a : α) (w : Process) : Prop :=
  ∃ w', step w = .ok a w' ∧ On p k m found w' ∧ w'.output = w.output

theorem Passes.then {step : Run α} {a : α} (h : Passes p k m found step a w) {next : α → Run β} {b : β}
    (hnext : ∀ w', On p k m found w' → Passes p k m found (next a) b w') :
    Passes p k m found (step >>= next) b w := by
  obtain ⟨w', hstep, hon, houtput⟩ := h
  obtain ⟨w'', hstep', hon', houtput'⟩ := hnext w' hon
  exact ⟨w'', (Call.bind_of_ok hstep next).trans hstep', hon', houtput'.trans houtput⟩

namespace On

theorem pure (h : On p k m found w) (a : α) : Passes p k m found (pure a) a w := ⟨w, rfl, h, rfl⟩

theorem note (h : On p k m found w) (l : Logged α) : Passes p k m found (note l) l.value w := by
  have hdisk := h.disk.take l.events
  refine ⟨_, rfl, ⟨h.keyring, hdisk, ?_⟩, rfl⟩
  have hsame := hdisk.contentAt h.disk
  exact hsame ▸ h.stored

/-! ### Settings and store -/

theorem load (h : On p k m found w) :
    Passes p k m found (onDisk p.directory.load) (.ok p.settings) w := by
  have hquiet := SettingsDirectory.load_quiet (d := p.directory) h.disk.working.quiet
  have hsame : { w with backends := { w.backends with disk :=
      (p.directory.load w.backends.disk).2 } } = w := by
    rw [hquiet]
  obtain ⟨w', hnote, hon⟩ := h.note (p.directory.load w.backends.disk).1
  rw [h.disk.working.loads] at hnote
  refine ⟨w', ?_, hon⟩
  unfold onDisk
  dsimp only
  rw [hsame]
  exact hnote

theorem loadSettings (h : On p k m found w) (hattends : Attends p k e i) :
    Passes p k m found (loadSettings e i) p.settings w := by
  unfold Command.loadSettings
  rw [hattends.directory]
  exact (h.pure p.directory).then fun w hon => hon.load.then fun w hon => hon.pure p.settings

end On

/-- A provider that has nothing but the file. -/
structure FallsBack (p : Workplace) (k : Keyring) (q : Provider Unit) : Prop where
  space : q.space = p.settings.space
  select : ∀ b, b.keyring = k → (q.select q.level b).value = .ok (Backends.file p.path)

theorem fallsBack_of_settings (hattends : Attends p k e i) :
    ∃ q, (Provider.ofSettings e p.settings : Except SettingsError (Provider Unit)) = .ok q ∧
      FallsBack p k (withSecurity i.security q) := by
  cases hmade : (Provider.ofSettings e p.settings : Except SettingsError (Provider Unit)) with
  | error failure => cases hattends.fallback.symm.trans (Provider.fallbackPath_of_error p.valid hmade)
  | ok q =>
      have hfollows := Provider.follows_of_settings hmade
      obtain ⟨failure, hunreachable⟩ := hattends.unreachable
      refine ⟨q, rfl, ?_⟩
      rw [withSecurity_eq]
      refine ⟨hfollows.space, fun b hb => ?_⟩
      have hmissing : (q.detect q.platform q.space b).value = .error failure := by
        rw [hfollows.detect, hfollows.platform, hfollows.space, ← hunreachable]
        exact congrArg Logged.value (detect_eq hb.symm _ _ _)
      have hpath : q.fallback = p.path :=
        Except.ok.inj (hfollows.fallback.symm.trans hattends.fallback)
      dsimp only
      rw [hfollows.level, hattends.level]
      exact (Provider.select_optional_of_missing hmissing).trans (hpath ▸ rfl)

namespace On

theorem loadProvider (h : On p k m found w) (hattends : Attends p k e i) :
    ∃ q, Passes p k m found (loadProvider e i) q w ∧ FallsBack p k q := by
  obtain ⟨q, hq, hfalls⟩ := fallsBack_of_settings hattends
  refine ⟨withSecurity i.security q, ?_, hfalls⟩
  unfold Command.loadProvider
  refine (h.loadSettings hattends).then fun w hon => ?_
  rw [hq]
  exact (hon.pure q).then fun w hon => hon.pure (withSecurity i.security q)

end On

/-- A store for one kind of secret in the file of a workplace. -/
structure Keeper (p : Workplace) (kind : SecretKind) where
  store : SecretStore (Backends Unit) kind.Content
  made : SecretStore.make (Backends.file p.path) p.settings.space kind.format = .ok store

namespace On

theorem openStore (h : On p k m found w) {q : Provider Unit} (hq : FallsBack p k q)
    (kind : SecretKind) :
    ∃ s : Keeper p kind, Passes p k m found (openStore q kind.format) s.store w := by
  obtain ⟨s, hmade, -⟩ := SecretStore.make_of_components
    (Backends.file p.path : NativeStore (Backends Unit)) (Settings.isComponent_of_validate p.valid)
    kind.isComponent_format
  have hstore : (q.store q.level kind.format w.backends).value = .ok s := by
    simp only [Provider.store, Logged.map, hq.select w.backends h.keyring, hq.space]
    exact hmade
  obtain ⟨w', hnote, hon, houtput⟩ := h.note (q.store q.level kind.format w.backends)
  rw [hstore] at hnote
  refine ⟨⟨s, hmade⟩, w', ?_, hon, houtput⟩
  rw [Command.openStore, readBackends_bind, Call.bind_of_ok hnote]
  rfl

end On

/-! ### Calls of the store -/

namespace Keeper

variable {kind : SecretKind}

def opened (s : Keeper p kind) : Opened (Backends.file p.path : NativeStore (Backends Unit)) :=
  ⟨p.settings.space, kind, s.store, s.made⟩

theorem nativeKey (s : Keeper p kind) (key : String) : s.opened.nativeKey key = p.nativeKey kind key :=
  NativeKey.ext (s.opened.space_nativeKey key) (s.opened.typeName_nativeKey key) rfl

end Keeper

/-- A step that ends well and leaves the blobs of a map. -/
def Leaves (p : Workplace) (k : Keyring) (m : BlobMap) (step : Run α) (a : α) (w : Process) : Prop :=
  ∃ found, ∃ w', step w = .ok a w' ∧ On p k m found w'

/-- What a call reports goes into the log and does not change what the call has stored. -/
theorem leaves_of_call {call : Backends Unit → Logged α × Backends Unit} {l : Logged α}
    {b : Backends Unit} (hcall : call w.backends = (l, b))
    (hon : On p k m found { w with backends := b }) : Leaves p k m (onStore call) l.value w := by
  obtain ⟨w', hnote, hon', -⟩ := hon.note l
  refine ⟨found, w', ?_, hon'⟩
  unfold onStore
  rw [hcall]
  exact hnote

namespace On

theorem stores (h : On p k m found w) {m' : BlobMap} {disk : Disk}
    (hstores : p.Stores w.backends.disk m' disk) :
    On p k m' (disk.status p.path) { w with backends := { w.backends with disk } } :=
  ⟨h.keyring, ⟨.inl hstores.settled, fun handle hhandle => hstores.opened handle (h.disk.opened handle hhandle),
    rfl⟩, hstores.stored⟩

variable {kind : SecretKind}

theorem add (h : On p k m found w) (s : Keeper p kind) (key : String) (a : kind.Content) :
    Leaves p k (Function.update m (p.nativeKey kind key) (some (kind.secret a).encodeDocument))
      (onStore (s.store.add key a)) true w := by
  obtain ⟨disk, hput, hstores⟩ := FileStore.put_of_saves h.disk.working.saves h.disk.working.quiet h.stored
    (p.nativeKey kind key) (kind.secret a).encodeDocument
  have hadd : s.store.tryAdd key a w.backends = .ok () { w.backends with disk } := by
    have htry := s.opened.tryAdd_eq key a
    rw [s.nativeKey] at htry
    exact (congrFun htry w.backends).trans (Backends.put_of_file hput)
  have hcall : ∃ events, s.store.add key a w.backends = (⟨true, events⟩, { w.backends with disk }) := by
    unfold SecretStore.add
    rw [hadd]
    exact ⟨_, rfl⟩
  obtain ⟨events, hcall⟩ := hcall
  exact leaves_of_call hcall (h.stores hstores)

theorem delete (h : On p k m found w) (s : Keeper p kind) (key : String) :
    Leaves p k (Function.update m (p.nativeKey kind key) none) (onStore (s.store.delete key)) true w := by
  obtain ⟨disk, hdelete, hleft⟩ := FileStore.delete_of_saves h.disk.working.saves h.disk.working.quiet
    h.stored (p.nativeKey kind key)
  have htry : s.store.tryDelete key w.backends =
      .ok (m (p.nativeKey kind key)).isSome { w.backends with disk } := by
    have htry := s.opened.tryDelete_eq key
    rw [s.nativeKey] at htry
    exact (congrFun htry w.backends).trans (Backends.delete_of_file hdelete)
  have hcall : ∃ events, s.store.delete key w.backends = (⟨true, events⟩, { w.backends with disk }) := by
    unfold SecretStore.delete
    rw [htry]
    exact ⟨_, rfl⟩
  obtain ⟨events, hcall⟩ := hcall
  rcases hleft with ⟨rfl, hsame⟩ | hstores
  · rw [hsame]
    exact leaves_of_call hcall h
  · exact leaves_of_call hcall (h.stores hstores)

/-- What is found is what the blob of the key decodes to. -/
theorem get (h : On p k m found w) (s : Keeper p kind) (key : String) :
    ∃ a, Passes p k m found (onStore (s.store.get key)) a w ∧ a.map kind.secret =
      (m (p.nativeKey kind key)).bind fun blob => (Secret.decode kind blob).toOption := by
  have hread : (Backends.file p.path).get (s.opened.nativeKey key) w.backends =
      .ok (m (p.nativeKey kind key)) w.backends := by
    rw [s.nativeKey]
    exact Backends.get_of_file (FileStore.get_of_stored h.disk.working.quiet h.stored _)
  have hafter : (s.store.get key w.backends).2 = w.backends := by
    have hafter := s.opened.after_get key w.backends
    rw [hread] at hafter
    exact hafter
  refine ⟨(s.store.get key w.backends).1.value, ?_, s.opened.get_of_found hread⟩
  obtain ⟨w', hnote, hon⟩ := h.note (s.store.get key w.backends).1
  refine ⟨w', ?_, hon⟩
  unfold onStore
  dsimp only
  rw [hafter]
  exact hnote

end On

/-! ### Setting up the log -/

theorem adjust_output (i : Invocation) (c : Config) : (adjust i c).output = c.output := by
  unfold adjust
  split
  · rfl
  · split
    · rfl
    · rfl

/-- A command line sets no directives. -/
theorem adjust_filter (i : Invocation) {c : Config} {filter : Filter} (h : c.filter = .ok filter) :
    ∃ filter', (adjust i c).filter = .ok filter' := by
  unfold adjust
  split
  · unfold Config.filter at h ⊢
    dsimp only
    cases hdirectives : c.directives with
    | none => exact ⟨_, rfl⟩
    | some text =>
        rw [hdirectives] at h
        exact ⟨filter, h⟩
  · split
    · exact ⟨_, rfl⟩
    · exact ⟨filter, h⟩

theorem exists_filter (p : Workplace) : ∃ filter, p.settings.logging.config.filter = .ok filter :=
  LogSettings.filter_of_validate (Settings.logging_of_validate p.valid)

section

variable {b : Backends Unit}

/-- The process of a run at its very start. -/
def started (stamp : String) (b : Backends Unit) : Process := ⟨b, { Journal.empty with stamp }, ""⟩

/-- What is reported before there is a log is lost. -/
theorem load_started (d : SettingsDirectory) (stamp : String) (b : Backends Unit) :
    onDisk d.load (started stamp b) =
      .ok (d.load b.disk).1.value (started stamp { b with disk := (d.load b.disk).2 }) := by
  have hsilent := Journal.take_of_silent (j := { Journal.empty with stamp }) rfl
    (d.load b.disk).1.events (d.load b.disk).2
  simp only [onDisk, note, started, hsilent]

theorem logConfig_of_loads {d : SettingsDirectory} {s : Settings} (hd : directoryOf e i = .ok d)
    (hs : (d.load b.disk).1.value = .ok s) (stamp : String) : logConfig e i (started stamp b) =
      .ok (adjust i s.logging.config) (started stamp { b with disk := (d.load b.disk).2 }) := by
  rw [logConfig, hd]
  dsimp only
  rw [Call.bind_of_ok (load_started d stamp b), hs]
  rfl

/-- Reading the settings before there is a log changes nothing. -/
theorem logConfig_started (hawaits : p.Awaits b.disk) (hattends : Attends p k e i) (stamp : String) :
    logConfig e i (started stamp b) = .ok (adjust i p.settings.logging.config) (started stamp b) := by
  rw [logConfig_of_loads hattends.directory hawaits.loads, SettingsDirectory.load_quiet hawaits.quiet]

theorem startLog_of_ok {c : Config} {j : Journal} {disk : Disk}
    (h : Journal.start c w.journal w.backends.disk = (.ok (), j, disk)) :
    startLog c w = .ok () ⟨{ w.backends with disk }, j, w.output⟩ := by
  simp only [startLog, h]

theorem startLog_of_refused {c : Config} {reason : LogError} {j : Journal} {disk : Disk}
    (h : Journal.start c w.journal w.backends.disk = (.error reason, j, disk))
    (hreason : ∀ r, reason ≠ .crash r) :
    ∃ lines, startLog c w = .ok () ⟨{ w.backends with disk }, { j with lines }, w.output⟩ := by
  refine ⟨j.lines ++ ["Warning: logging disabled: " ++ reason.message], ?_⟩
  simp only [startLog, h]
  cases reason with
  | crash r => exact absurd rfl (hreason r)
  | _ => rfl

theorem startLog_started (hawaits : p.Awaits b.disk)
    (hstored : FileStore.Stored m (b.disk.contentAt p.path)) (stamp : String) {c : Config}
    {filter : Filter} (hfilter : c.filter = .ok filter) (houtput : c.output = p.output) :
    Passes p b.keyring m (b.disk.status p.path) (startLog c) () (started stamp b) := by
  have hcontent : (Journal.withOutput p.output b.disk).contentAt p.path = b.disk.contentAt p.path := by
    rw [Disk.contentAt, hawaits.found, Disk.contentAt]
  -- The log is opened before anything is put into it.
  have hopened : ∀ j : Journal, (∀ h, j.handle? = some h →
      Journal.OpenAt p.output (Journal.withOutput p.output b.disk) h) →
      On p b.keyring m (b.disk.status p.path)
        ⟨{ b with disk := Journal.withOutput p.output b.disk }, j, ""⟩ := by
    intro j hj
    exact ⟨rfl, ⟨hawaits.working, hj, hawaits.found⟩, hcontent.symm ▸ hstored⟩
  have hstart := Journal.start_of_unset (j := { Journal.empty with stamp }) ⟨rfl, rfl⟩ c b.disk
  rw [hfilter, houtput] at hstart
  dsimp only at hstart
  cases hopen : (Journal.openOutput p.output b.disk).1 with
  | error reason =>
      have hleft : Journal.openOutput p.output b.disk =
          (.error reason, Journal.withOutput p.output b.disk) := Prod.ext hopen rfl
      rw [hleft] at hstart
      obtain ⟨text, rfl⟩ := Journal.openOutput_eq_error hopen
      obtain ⟨lines, hlog⟩ := startLog_of_refused (w := started stamp b) hstart (by simp)
      refine ⟨_, hlog, hopened _ ?_, rfl⟩
      rintro h ⟨⟩
  | ok handle =>
      have hleft : Journal.openOutput p.output b.disk =
          (.ok handle, Journal.withOutput p.output b.disk) := Prod.ext hopen rfl
      rw [hleft] at hstart
      have hon := hopened ⟨stamp, true, some ⟨filter, handle⟩, []⟩ (by
        rintro h rfl
        exact Journal.openAt_of_openOutput hawaits.sound hopen)
      obtain ⟨w, hnote, hon', houtput'⟩ := hon.note ⟨(), [Journal.opened c]⟩
      refine ⟨w, ?_, hon', houtput'⟩
      rw [startLog_of_ok (w := started stamp b) hstart]
      exact hnote

theorem everything_started (hawaits : p.Awaits b.disk)
    (hstored : FileStore.Stored m (b.disk.contentAt p.path)) (hattends : Attends p k e i)
    (stamp : String) : ∃ w, everything e i (started stamp b) = perform e i w ∧
      On p b.keyring m (b.disk.status p.path) w ∧ w.output = "" := by
  obtain ⟨filter, hfilter⟩ := exists_filter p
  obtain ⟨filter', hfilter'⟩ := adjust_filter i hfilter
  obtain ⟨w, hlog, hon, houtput⟩ := startLog_started hawaits hstored stamp hfilter'
    (adjust_output i p.settings.logging.config)
  refine ⟨w, ?_, hon, houtput⟩
  rw [everything, Call.bind_of_ok (logConfig_started hawaits hattends stamp), Call.bind_of_ok hlog]

end

/-! ### Commands -/

namespace On

theorem print (h : On p k m found w) (text : String) :
    On p k m found { w with output := w.output ++ text } :=
  ⟨h.keyring, h.disk, h.stored⟩

theorem warn (h : On p k m found w) (s : SecretStore (Backends Unit) α) :
    Passes p k m found (warn s) () w := by
  unfold Command.warn
  split
  · exact h.pure ()
  · exact h.note _

/-- What breaks a rule is refused before anything is stored. -/
theorem storeSecret_refused (h : On p k m found w) (hattends : Attends p k e i) (key : String)
    {proposal : Proposal} {f : Failure} (hcheck : proposal.check = .error f) :
    ∃ w', storeSecret e i key proposal w = .error f w' ∧ On p k m found w' ∧ w'.output = w.output := by
  obtain ⟨q, ⟨w₁, hload, hon, houtput⟩, -⟩ := h.loadProvider hattends
  refine ⟨w₁, ?_, hon, houtput⟩
  rw [storeSecret_eq, Call.bind_of_ok hload, hcheck]
  rfl

theorem storeSecret (h : On p k m found w) (hattends : Attends p k e i) (key : String)
    {proposal : Proposal} {s : Secret} (hcheck : proposal.check = .ok s) :
    ∃ found' w', storeSecret e i key proposal w = .ok () w' ∧
      On p k (Function.update m (p.nativeKey s.kind key) (some s.encodeDocument)) found' w' := by
  obtain ⟨q, ⟨w₁, hload, hon₁, -⟩, hfalls⟩ := h.loadProvider hattends
  obtain ⟨keeper, w₂, hopen, hon₂, -⟩ := hon₁.openStore hfalls s.kind
  obtain ⟨w₃, hwarn, hon₃, -⟩ := hon₂.warn keeper.store
  obtain ⟨found', w₄, hadd, hon₄⟩ := hon₃.add keeper key s.content
  rw [s.secret_content] at hon₄
  refine ⟨found', _, ?_, hon₄.print s!"Stored {s.kind.typeName} '{key}' in {keeper.store.backendId}\n"⟩
  rw [storeSecret_eq, Call.bind_of_ok hload, hcheck]
  change deposit q key s.content w₁ = _
  rw [deposit, Call.bind_of_ok hopen, Call.bind_of_ok hwarn, addTo, Call.bind_of_ok hadd]
  rfl

theorem findOfKind (h : On p k m found w) {q : Provider Unit} (hq : FallsBack p k q) (kind : SecretKind)
    (key : String) : Passes p k m found (findOfKind q kind key)
      ((m (p.nativeKey kind key)).bind fun blob => (Secret.decode kind blob).toOption) w := by
  rw [findOfKind_eq]
  obtain ⟨keeper, hopen⟩ := h.openStore hq kind
  refine hopen.then fun w hon => ?_
  obtain ⟨a, hget, hvalue⟩ := hon.get keeper key
  rw [← hvalue]
  exact hget.then fun w hon => hon.pure (a.map kind.secret)

theorem showSecret_missing (h : On p k m found w) (hattends : Attends p k e i) {kind : SecretKind}
    {key : String} (hkey : m (p.nativeKey kind key) = none) (format : Format) (reveal : Bool) :
    ∃ w', showSecret e i kind key format reveal w = .error (.missing kind key) w' ∧
      On p k m found w' := by
  obtain ⟨q, ⟨w₁, hload, hon₁, -⟩, hfalls⟩ := h.loadProvider hattends
  obtain ⟨w₂, hfind, hon₂, -⟩ := hon₁.findOfKind hfalls kind key
  rw [hkey] at hfind
  refine ⟨w₂, ?_, hon₂⟩
  rw [showSecret, Call.bind_of_ok hload, Call.bind_of_ok hfind]
  rfl

theorem showSecret (h : On p k m found w) (hattends : Attends p k e i) {key : String} {s : Secret}
    (hkey : m (p.nativeKey s.kind key) = some s.encodeDocument) (format : Format) (reveal : Bool) :
    ∃ w', showSecret e i s.kind key format reveal w = .ok () w' ∧ On p k m found w' ∧
      w'.output = w.output ++ renderSecret format reveal key s.persisted := by
  obtain ⟨q, ⟨w₁, hload, hon₁, houtput₁⟩, hfalls⟩ := h.loadProvider hattends
  obtain ⟨w₂, hfind, hon₂, houtput₂⟩ := hon₁.findOfKind hfalls s.kind key
  rw [hkey, Option.bind_some, s.decode_encodeDocument] at hfind
  refine ⟨_, ?_, hon₂.print (renderSecret format reveal key s.persisted), ?_⟩
  · rw [Command.showSecret, Call.bind_of_ok hload, Call.bind_of_ok hfind]
    rfl
  · exact congrArg (· ++ renderSecret format reveal key s.persisted) (houtput₂.trans houtput₁)

/-- Deleting what is not there ends well, too. -/
theorem deleteSecret (h : On p k m found w) (hattends : Attends p k e i) (kind : SecretKind)
    (key : String) : ∃ found' w', deleteSecret e i kind key w = .ok () w' ∧
      On p k (Function.update m (p.nativeKey kind key) none) found' w' := by
  obtain ⟨q, ⟨w₁, hload, hon₁, -⟩, hfalls⟩ := h.loadProvider hattends
  obtain ⟨keeper, w₂, hopen, hon₂, -⟩ := hon₁.openStore hfalls kind
  obtain ⟨found', w₃, hdelete, hon₃⟩ := hon₂.delete keeper key
  have hdrop : dropOfKind q kind key w₁ = .ok (true, keeper.store.backendId) w₃ := by
    rw [dropOfKind_eq, drop, Call.bind_of_ok hopen, Call.bind_of_ok hdelete]
    rfl
  refine ⟨found', _, ?_, hon₃.print s!"Deleted {kind.typeName} '{key}' from {keeper.store.backendId}\n"⟩
  rw [Command.deleteSecret, Call.bind_of_ok hload, Call.bind_of_ok hdrop]
  rfl

end On
end Command
end Strongbox
