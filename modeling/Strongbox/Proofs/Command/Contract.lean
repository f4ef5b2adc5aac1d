import Strongbox.Proofs.Command.Beginning
import Strongbox.Proofs.Settings.Directory
/-! With which status a run ends when no secure store can be reached. What decides is looked at in one order:
the settings and the provider, then the secret, then the level, and the store last. -/
namespace Strongbox

open Log

namespace Command

/-- No secure store answers, whatever name space is asked for. -/
def Unreachable (e : Environment) (b : Backends Unit) : Prop :=
  ∀ space, ∃ failure,
    ((Detector.keyring e.session? : Detector Unit) .current space b).value = .error failure

/-! ### The conditions -/

section

variable (e : Environment) (i : Invocation)

/-- Settings that a command finds on a disk. -/
def Loads (disk : Disk) (s : Settings) : Prop :=
  ∃ d, directoryOf e i = .ok d ∧ (d.load disk).1.value = .ok s

/-- The settings are loaded, a provider is made from them, and it works at a level: the one on the command
line, or else the configured one. -/
def Effective (disk : Disk) (level : SecurityLevel) : Prop :=
  ∃ s p, Loads e i disk s ∧ (Provider.ofSettings e s : Except SettingsError (Provider Unit)) = .ok p ∧
    i.security.getD s.security = level

/-- The store that a command reads or deletes in. -/
def reach (kind : SecretKind) : Run (SecretStore (Backends Unit) kind.Content) := do
  openStore (← loadProvider e i) kind.format

/-- The store that a command puts a secret in. -/
def approach (kind : SecretKind) : Run (SecretStore (Backends Unit) kind.Content) := do
  let store ← reach e i kind
  warn store
  return store

/-- A store is needed, and only a secure one will do. -/
def Required (disk : Disk) : Prop :=
  Effective e i disk .must ∧ match i.action with
    | .get _ _ _ _ => True
    | .set _ proposal => proposal.Acceptable
    | .delete _ _ => True
    | _ => False

/-- A secret is asked for that the store does not answer with. -/
def Absent (w : Process) : Prop :=
  Effective e i w.backends.disk .optional ∧ match i.action with
    | .get kind key _ _ => ∃ store w', reach e i kind w = .ok store w' ∧
        (store.get key w'.backends).1.value = none
    | _ => False

/-- Settings that are written for a user who has none. -/
def initial (space fallback : Option String) : Settings :=
  { Settings.standard with space := space.getD Settings.standard.space, fallback }

/-- Everything else that can go wrong. -/
def Broken (w : Process) : Prop :=
  match i.action with
  | .status _ => ¬ ∃ level, Effective e i w.backends.disk level
  | .get _ _ _ _ => ¬ ∃ level, Effective e i w.backends.disk level
  | .set key proposal => (¬ ∃ level, Effective e i w.backends.disk level) ∨ ¬ proposal.Acceptable ∨
      ∃ secret store w', proposal.check = .ok secret ∧ approach e i secret.kind w = .ok store w' ∧
        (store.add key secret.content w'.backends).1.value = false
  | .delete kind key => (¬ ∃ level, Effective e i w.backends.disk level) ∨
      ∃ store w', reach e i kind w = .ok store w' ∧ (store.delete key w'.backends).1.value = false
  | .showSettings => (¬ ∃ s, Loads e i w.backends.disk s) ∨
      ∃ s failure, Loads e i w.backends.disk s ∧ s.fallbackPath e = .error failure
  | .initSettings space fallback force => (∃ failure, directoryOf e i = .error failure) ∨
      ∃ d, directoryOf e i = .ok d ∧ ((force = false ∧ w.backends.disk.existsAt d.file = true) ∨
        ∃ failure, (d.save (initial space fallback) w.backends.disk).1.value = .error failure)

end

variable {e : Environment} {i : Invocation} {b : Backends Unit} {w : Process}

theorem Loads.unique {disk : Disk} {s s' : Settings} (h : Loads e i disk s) (h' : Loads e i disk s') :
    s = s' := by
  obtain ⟨d, hd, hload⟩ := h
  obtain ⟨d', hd', hload'⟩ := h'
  cases hd.symm.trans hd'
  cases hload.symm.trans hload'
  rfl

/-- Settings that are loaded bring nothing down. -/
theorem Loads.not_crashes {disk : Disk} {s : Settings} (h : Loads e i disk s) : ¬ Crashes e i disk := by
  rintro ⟨d, reason, hd, hcrash⟩
  obtain ⟨d', hd', hload⟩ := h
  cases hd.symm.trans hd'
  cases hcrash.symm.trans hload

/-- A run that crashes on its settings finds none later, since nothing has changed. -/
theorem Loads.not_crashes_before {stamp : String} {s : Settings}
    (h : Loads e i (begun e stamp i b).backends.disk s) : ¬ Crashes e i b.disk := by
  intro hcrash
  obtain ⟨_, disk, -, hbegun, huntouched⟩ := everything_of_crash hcrash stamp
  obtain ⟨d, reason, hd, hcrash⟩ := hcrash
  rw [hbegun] at h
  obtain ⟨d', hd', hload⟩ := h
  cases hd.symm.trans hd'
  exact SettingsDirectory.load_ne_crash (huntouched.contentAt d.file).symm hload hcrash

theorem Effective.not_crashes {disk : Disk} {level : SecurityLevel} (h : Effective e i disk level) :
    ¬ Crashes e i disk := by
  obtain ⟨s, -, hs, -⟩ := h
  exact hs.not_crashes

theorem Effective.unique {disk : Disk} {level level' : SecurityLevel} (h : Effective e i disk level)
    (h' : Effective e i disk level') : level = level' := by
  obtain ⟨s, p, hs, -, hlevel⟩ := h
  obtain ⟨s', p', hs', -, hlevel'⟩ := h'
  rw [← hlevel, hs.unique hs', hlevel']

/-! ### Settings, provider and store -/

theorem note_eq_ok {α : Type} (l : Logged α) (w : Process) :
    ∃ w', note l w = .ok l.value w' ∧ w'.backends.keyring = w.backends.keyring := ⟨_, rfl, rfl⟩

theorem onDisk_eq_ok {α : Type} (call : Disk → Logged α × Disk) (w : Process) :
    ∃ w', onDisk call w = .ok (call w.backends.disk).1.value w' ∧
      w'.backends.keyring = w.backends.keyring := ⟨_, rfl, rfl⟩

theorem loadSettings_cases (e : Environment) (i : Invocation) (w : Process) :
    ∃ w', w'.backends.keyring = w.backends.keyring ∧
      ((∃ s, Loads e i w.backends.disk s ∧ loadSettings e i w = .ok s w') ∨
        (¬ ∃ s, Loads e i w.backends.disk s) ∧ ∃ failure : Failure,
          (¬ Crashes e i w.backends.disk → failure.exitStatus = 1) ∧ loadSettings e i w = .error failure w') := by
  cases hdirectory : directoryOf e i with
  | error failure =>
      refine ⟨w, rfl, .inr ⟨?_, noDirectory failure, fun _ => rfl, ?_⟩⟩
      · rintro ⟨s, d, hd, -⟩
        cases hdirectory.symm.trans hd
      · rw [loadSettings, hdirectory]
        rfl
  | ok d =>
      obtain ⟨w', hload, hkeyring⟩ := onDisk_eq_ok d.load w
      refine ⟨w', hkeyring, ?_⟩
      have hsettings : loadSettings e i w = orFail notLoaded (d.load w.backends.disk).1.value w' := by
        have hfound : orFail noDirectory (.ok d) w = .ok d w := rfl
        rw [loadSettings, hdirectory, Call.bind_of_ok hfound, Call.bind_of_ok hload]
      cases hvalue : (d.load w.backends.disk).1.value with
      | ok s =>
          rw [hvalue] at hsettings
          exact .inl ⟨s, ⟨d, hdirectory, hvalue⟩, hsettings⟩
      | error failure =>
          rw [hvalue] at hsettings
          refine .inr ⟨?_, notLoaded failure, fun hcalm => ?_, hsettings⟩
          · rintro ⟨s, d', hd', hload'⟩
            cases hdirectory.symm.trans hd'
            cases hvalue.symm.trans hload'
          · cases failure with
            | crash reason => exact absurd ⟨d, reason, hdirectory, hvalue⟩ hcalm
            | _ => rfl

/-- Settings that were loaded make a provider, or there is no place for its file. -/
theorem Loads.ofSettings_eq_error {disk : Disk} {s : Settings} (h : Loads e i disk s) {failure : SettingsError}
    (hmade : (Provider.ofSettings e s : Except SettingsError (Provider Unit)) = .error failure) :
    failure = .notFound Settings.fallbackName := by
  obtain ⟨d, -, hload⟩ := h
  have hvalid := SettingsDirectory.validate_of_load hload
  exact (Settings.fallbackPath_eq_error (Provider.fallbackPath_of_error hvalid hmade)).1

/-- A provider that is made from settings finds no secure store where none is reachable. -/
theorem missing_of_settings (h : Unreachable e b) {s : Settings} {p : Provider Unit}
    (hp : (Provider.ofSettings e s : Except SettingsError (Provider Unit)) = .ok p)
    {b' : Backends Unit} (hb : b'.keyring = b.keyring) :
    ∃ failure, (p.detect p.platform p.space b').value = .error failure := by
  have hfollows := Provider.follows_of_settings hp
  obtain ⟨failure, hfailure⟩ := h p.space
  refine ⟨failure, ?_⟩
  rw [hfollows.detect, hfollows.platform, ← hfailure]
  exact congrArg Logged.value (detect_eq hb.symm _ _ _)

/-- A provider that was loaded finds no secure store where none is reachable. -/
theorem loadProvider_cases (h : Unreachable e b) (hw : w.backends.keyring = b.keyring) :
    ∃ w', w'.backends.keyring = b.keyring ∧
      ((∃ p failure, Effective e i w.backends.disk p.level ∧ loadProvider e i w = .ok p w' ∧
          (p.detect p.platform p.space w'.backends).value = .error failure) ∨
        (¬ ∃ level, Effective e i w.backends.disk level) ∧ ∃ failure : Failure,
          (¬ Crashes e i w.backends.disk → failure.exitStatus = 1) ∧ loadProvider e i w = .error failure w') := by
  obtain ⟨w', hkeyring, ⟨s, hs, hload⟩ | ⟨hnone, failure, hstatus, hload⟩⟩ := loadSettings_cases e i w
  · refine ⟨w', hkeyring.trans hw, ?_⟩
    have hprovider : loadProvider e i w = (do
        return withSecurity i.security (← orFail Failure.ofSettings (Provider.ofSettings e s))) w' :=
      Call.bind_of_ok hload _
    cases hmade : (Provider.ofSettings e s : Except SettingsError (Provider Unit)) with
    | error failure =>
        rw [hmade] at hprovider
        have hstatus : (Failure.ofSettings failure).exitStatus = 1 := by
          rw [hs.ofSettings_eq_error hmade]
          rfl
        refine .inr ⟨?_, Failure.ofSettings failure, fun _ => hstatus, hprovider⟩
        rintro ⟨level, s', p, hs', hp, -⟩
        rw [← hs.unique hs', hmade] at hp
        cases hp
    | ok p =>
        rw [hmade] at hprovider
        obtain ⟨failure, hmissing⟩ := missing_of_settings h hmade (hkeyring.trans hw)
        refine .inl ⟨withSecurity i.security p, failure, ⟨s, p, hs, hmade, ?_⟩, hprovider, ?_⟩
        · rw [withSecurity_eq, (Provider.follows_of_settings hmade).level]
        · rw [withSecurity_eq]
          exact hmissing
  · refine ⟨w', hkeyring.trans hw, .inr ⟨?_, failure, hstatus, ?_⟩⟩
    · rintro ⟨level, s, p, hs, -⟩
      exact hnone ⟨s, hs⟩
    · exact Call.bind_of_error hload _

theorem openStore_eq (p : Provider Unit) (kind : SecretKind) (w : Process) :
    ∃ w', w'.backends.keyring = w.backends.keyring ∧ openStore p kind.format w =
      orFail Failure.ofSecret (p.store p.level kind.format w.backends).value w' := by
  obtain ⟨w', hnote, hkeyring⟩ := note_eq_ok (p.store p.level kind.format w.backends) w
  refine ⟨w', hkeyring, ?_⟩
  rw [openStore, readBackends_bind, Call.bind_of_ok hnote]

/-- How a step ends that asks for a store while no secure one can be reached. The level decides, once the
settings and the provider are there. -/
inductive Asks (e : Environment) (i : Invocation) {α : Type} (step : Run α) (w : Process) : Prop
  | unready {failure : Failure} {w' : Process} : (¬ ∃ level, Effective e i w.backends.disk level) →
      failure.exitStatus = 1 → step w = .error failure w' → Asks e i step w
  | refused {reason : String} {w' : Process} : Effective e i w.backends.disk .must →
      step w = .error (.unavailable reason) w' → Asks e i step w
  | opened {a : α} {w' : Process} : Effective e i w.backends.disk .optional → step w = .ok a w' →
      Asks e i step w

theorem asks_reach (h : Unreachable e b) (hw : w.backends.keyring = b.keyring)
    (hcalm : ¬ Crashes e i w.backends.disk) (kind : SecretKind) : Asks e i (reach e i kind) w := by
  obtain ⟨w', hkeyring, ⟨p, failure, heffective, hload, hmissing⟩ | ⟨hnone, failure, hstatus, hload⟩⟩ :=
    loadProvider_cases (i := i) h hw
  · obtain ⟨w'', -, hopen⟩ := openStore_eq p kind w'
    have hreach : reach e i kind w = openStore p kind.format w' := Call.bind_of_ok hload _
    cases hlevel : p.level with
    | must =>
        rw [hlevel] at heffective hopen
        obtain ⟨reason, hselect⟩ := Provider.select_must_of_missing hmissing
        rw [Provider.store_of_refused hselect] at hopen
        exact .refused heffective (hreach.trans hopen)
    | optional =>
        rw [hlevel] at heffective hopen
        obtain ⟨store, hstore, -⟩ :=
          Provider.store_of_selected (Provider.select_optional_of_missing hmissing) kind
        rw [hstore] at hopen
        exact .opened heffective (hreach.trans hopen)
  · exact .unready hnone (hstatus hcalm) (Call.bind_of_error hload _)

theorem warn_eq_ok {α : Type} (store : SecretStore (Backends Unit) α) (w : Process) :
    ∃ w', warn store w = .ok () w' := by
  unfold warn
  split
  · exact ⟨w, rfl⟩
  · exact ⟨_, rfl⟩

theorem approach_of_reach {kind : SecretKind} {store : SecretStore (Backends Unit) kind.Content}
    {w' : Process} (h : reach e i kind w = .ok store w') :
    ∃ w'', approach e i kind w = .ok store w'' := by
  obtain ⟨w'', hwarn⟩ := warn_eq_ok store w'
  refine ⟨w'', ?_⟩
  rw [approach, Call.bind_of_ok h, Call.bind_of_ok hwarn]
  rfl

/-- What comes before a secret is put into a store does not keep the store from being reached. -/
theorem asks_approach (h : Unreachable e b) (hw : w.backends.keyring = b.keyring)
    (hcalm : ¬ Crashes e i w.backends.disk) (kind : SecretKind) : Asks e i (approach e i kind) w := by
  rcases asks_reach h hw hcalm kind with ⟨hnone, hstatus, hreach⟩ | ⟨hmust, hreach⟩ |
    @⟨store, w', hoptional, hreach⟩
  · exact .unready hnone hstatus (Call.bind_of_error hreach _)
  · exact .refused hmust (Call.bind_of_error hreach _)
  · obtain ⟨w'', happroach⟩ := approach_of_reach hreach
    exact .opened hoptional happroach

/-! ### Commands -/

theorem onStore_eq_ok {α : Type} (call : Backends Unit → Logged α × Backends Unit) (w : Process) :
    ∃ w', onStore call w = .ok (call w.backends).1.value w' := ⟨_, rfl⟩

/-- Status of what a command came to. -/
def status {α : Type} : EStateM.Result Failure Process α → Nat
  | .ok _ _ => 0
  | .error failure _ => failure.exitStatus

theorem showSecret_eq (e : Environment) (i : Invocation) (kind : SecretKind) (key : String)
    (format : Format) (reveal : Bool) : showSecret e i kind key format reveal = (do
      let store ← reach e i kind
      match ← onStore (store.get key) with
      | some a => print (renderSecret format reveal key (kind.secret a))
      | none => throw (.missing kind key)) := by
  simp only [showSecret, findOfKind_eq, find, reach, bind_assoc, pure_bind]
  congr 1
  funext p
  congr 1
  funext store
  congr 1
  funext found
  cases found <;> rfl

theorem deleteSecret_eq (e : Environment) (i : Invocation) (kind : SecretKind) (key : String) :
    deleteSecret e i kind key = (do
      let store ← reach e i kind
      if ← onStore (store.delete key) then
        print s!"Deleted {kind.typeName} '{key}' from {store.backendId}\n"
      else
        throw (.secret (s!"Failed to delete {kind.typeName} '{key}' from {store.backendId}" ++
          " (run with -v for details)"))) := by
  simp only [deleteSecret, dropOfKind_eq, drop, reach, bind_assoc, pure_bind]

theorem storeSecret_of_refused {proposal : Proposal} {failure : Failure}
    (h : proposal.check = .error failure) (e : Environment) (i : Invocation) (key : String) :
    storeSecret e i key proposal = (do
      let _ ← loadProvider e i
      throw failure) := by
  rw [storeSecret_eq, h]
  rfl

theorem storeSecret_of_acceptable {proposal : Proposal} {s : Secret} (h : proposal.check = .ok s)
    (e : Environment) (i : Invocation) (key : String) : storeSecret e i key proposal = (do
      let store ← approach e i s.kind
      addTo store s.kind key s.content) := by
  rw [storeSecret_eq, h]
  simp only [deposit, approach, reach, bind_assoc, pure_bind]
  rfl

/-! ### Each command -/

/-- What the status of a command has to tell. -/
structure Honest (e : Environment) (i : Invocation) (w : Process) (n : Nat) : Prop where
  required : n = 3 ↔ Required e i w.backends.disk
  absent : n = 2 ↔ Absent e i w
  broken : n = 1 ↔ Broken e i w
  small : n ≤ 3

namespace Honest

theorem of_required (h : Required e i w.backends.disk) (ha : ¬ Absent e i w) (hb : ¬ Broken e i w) :
    Honest e i w 3 := by
  constructor <;> simp [h, ha, hb]

theorem of_absent (hr : ¬ Required e i w.backends.disk) (h : Absent e i w) (hb : ¬ Broken e i w) :
    Honest e i w 2 := by
  constructor <;> simp [hr, h, hb]

theorem of_broken (hr : ¬ Required e i w.backends.disk) (ha : ¬ Absent e i w) (h : Broken e i w) :
    Honest e i w 1 := by
  constructor <;> simp [hr, ha, h]

theorem of_done (hr : ¬ Required e i w.backends.disk) (ha : ¬ Absent e i w) (hb : ¬ Broken e i w) :
    Honest e i w 0 := by
  constructor <;> simp [hr, ha, hb]

end Honest

theorem not_required_of_unready (h : ¬ ∃ level, Effective e i w.backends.disk level) :
    ¬ Required e i w.backends.disk := fun hrequired => h ⟨_, hrequired.1⟩

theorem not_required_of_optional (h : Effective e i w.backends.disk .optional) :
    ¬ Required e i w.backends.disk := fun hrequired => by cases h.unique hrequired.1

theorem not_absent_of_unready (h : ¬ ∃ level, Effective e i w.backends.disk level) :
    ¬ Absent e i w := fun habsent => h ⟨_, habsent.1⟩

theorem not_absent_of_must (h : Effective e i w.backends.disk .must) : ¬ Absent e i w :=
  fun habsent => by cases h.unique habsent.1

theorem not_absent_of_other (hi : ∀ kind key format reveal, i.action ≠ .get kind key format reveal) :
    ¬ Absent e i w := by
  rintro ⟨-, ha⟩
  split at ha
  · exact hi _ _ _ _ ‹_›
  · exact ha

theorem not_required_of_notSecret (hi : ¬ i.action.IsOfSecrets) : ¬ Required e i w.backends.disk := by
  rintro ⟨-, hr⟩
  apply hi
  cases haction : i.action <;> rw [haction] at hr <;> first | exact trivial | exact hr

theorem not_absent_of_notSecret (hi : ¬ i.action.IsOfSecrets) : ¬ Absent e i w := by
  apply not_absent_of_other
  intro kind key format reveal hget
  apply hi
  rw [hget]
  trivial

namespace Honest

theorem broken_of_notSecret (hi : ¬ i.action.IsOfSecrets) (h : Broken e i w) : Honest e i w 1 :=
  .of_broken (not_required_of_notSecret hi) (not_absent_of_notSecret hi) h

theorem done_of_notSecret (hi : ¬ i.action.IsOfSecrets) (h : ¬ Broken e i w) : Honest e i w 0 :=
  .of_done (not_required_of_notSecret hi) (not_absent_of_notSecret hi) h

end Honest

/-- A command that asks for a store is honest if it is so with the store that it gets. -/
theorem Asks.honest {α : Type} {step : Run α} {next : α → Run Unit} (hasks : Asks e i step w)
    (hrequired : Effective e i w.backends.disk .must → Required e i w.backends.disk)
    (hbroken : (¬ ∃ level, Effective e i w.backends.disk level) → Broken e i w)
    (hsound : Effective e i w.backends.disk .must → ∀ failure w', step w = .error failure w' →
      ¬ Broken e i w)
    (hopened : ∀ a w', Effective e i w.backends.disk .optional → step w = .ok a w' →
      Honest e i w (status (next a w'))) : Honest e i w (status ((step >>= next) w)) := by
  cases hasks with
  | unready hnone hstatus hstep =>
      rw [Call.bind_of_error hstep, status, hstatus]
      exact .of_broken (not_required_of_unready hnone) (not_absent_of_unready hnone) (hbroken hnone)
  | refused hmust hstep =>
      rw [Call.bind_of_error hstep]
      exact .of_required (hrequired hmust) (not_absent_of_must hmust) (hsound hmust _ _ hstep)
  | opened hoptional hstep =>
      rw [Call.bind_of_ok hstep]
      exact hopened _ _ hoptional hstep

/-- A command that asks for a store, and ends as one answer of the store says. -/
theorem Asks.honest_of_answer {α : Type} {step : Run α} {next : α → Run Unit} (hasks : Asks e i step w)
    {answer : α → Process → Bool} (hanswer : ∀ a w', status (next a w') = if answer a w' then 0 else 1)
    (hrequired : Effective e i w.backends.disk .must → Required e i w.backends.disk)
    (habsent : ¬ Absent e i w) (hbroken : Broken e i w ↔ (¬ ∃ level, Effective e i w.backends.disk level) ∨
      ∃ a w', step w = .ok a w' ∧ answer a w' = false) :
    Honest e i w (status ((step >>= next) w)) := by
  apply hasks.honest hrequired fun hnone => hbroken.2 (.inl hnone)
  · intro hmust failure w' hstep hb
    rcases hbroken.1 hb with hnone | ⟨a, w₁, hstep', -⟩
    · exact hnone ⟨_, hmust⟩
    · cases hstep.symm.trans hstep'
  · intro a w' hoptional hstep
    have hrefused : Broken e i w ↔ answer a w' = false := by
      rw [hbroken]
      constructor
      · rintro (hnone | ⟨a', w₁, hstep', hfalse⟩)
        · exact absurd ⟨_, hoptional⟩ hnone
        · cases hstep.symm.trans hstep'
          exact hfalse
      · exact fun hfalse => .inr ⟨a, w', hstep, hfalse⟩
    rw [hanswer]
    cases hgiven : answer a w' with
    | false => exact .of_broken (not_required_of_optional hoptional) habsent (hrefused.2 hgiven)
    | true =>
        refine .of_done (not_required_of_optional hoptional) habsent fun hb => ?_
        cases hgiven.symm.trans (hrefused.1 hb)

section

variable (h : Unreachable e b) (hw : w.backends.keyring = b.keyring)
variable (hcalm : ¬ Crashes e i w.backends.disk)

include h hw hcalm

theorem honest_get {kind : SecretKind} {key : String} {format : Format} {reveal : Bool}
    (hi : i.action = .get kind key format reveal) :
    Honest e i w (status (showSecret e i kind key format reveal w)) := by
  have hrequired : Required e i w.backends.disk ↔ Effective e i w.backends.disk .must := by
    simp [Required, hi]
  have hbroken : Broken e i w ↔ ¬ ∃ level, Effective e i w.backends.disk level := by
    rw [Broken, hi]
  rw [showSecret_eq]
  apply (asks_reach h hw hcalm kind).honest hrequired.2 hbroken.2
  · exact fun hmust _ _ _ hb => hbroken.1 hb ⟨_, hmust⟩
  · intro store w' hoptional hreach
    obtain ⟨w'', hget⟩ := onStore_eq_ok (store.get key) w'
    have hsound : ¬ Broken e i w := fun hb => hbroken.1 hb ⟨_, hoptional⟩
    have habsent : Absent e i w ↔ (store.get key w'.backends).1.value = none := by
      rw [Absent, hi]
      constructor
      · rintro ⟨-, store', w₁, hreach', hnone⟩
        cases hreach.symm.trans hreach'
        exact hnone
      · exact fun hnone => ⟨hoptional, store, w', hreach, hnone⟩
    rw [Call.bind_of_ok hget]
    cases hfound : (store.get key w'.backends).1.value with
    | none => exact .of_absent (not_required_of_optional hoptional) (habsent.2 hfound) hsound
    | some a =>
        refine .of_done (not_required_of_optional hoptional) (fun ha => ?_) hsound
        cases hfound.symm.trans (habsent.1 ha)

theorem honest_delete {kind : SecretKind} {key : String} (hi : i.action = .delete kind key) :
    Honest e i w (status (deleteSecret e i kind key w)) := by
  have habsent : ¬ Absent e i w := not_absent_of_other (by simp [hi])
  have hrequired : Required e i w.backends.disk ↔ Effective e i w.backends.disk .must := by
    simp [Required, hi]
  have hbroken : Broken e i w ↔ (¬ ∃ level, Effective e i w.backends.disk level) ∨
      ∃ store w', reach e i kind w = .ok store w' ∧ (store.delete key w'.backends).1.value = false := by
    rw [Broken, hi]
  rw [deleteSecret_eq]
  refine (asks_reach h hw hcalm kind).honest_of_answer ?_ hrequired.2 habsent hbroken
  intro store w'
  obtain ⟨w'', hdelete⟩ := onStore_eq_ok (store.delete key) w'
  rw [Call.bind_of_ok hdelete]
  cases (store.delete key w'.backends).1.value <;> rfl

/-- The check of a secret is never a reason for the status that tells of a store that is needed. -/
theorem honest_set_refused {key : String} {proposal : Proposal} {failure : Failure}
    (hi : i.action = .set key proposal) (hcheck : proposal.check = .error failure) :
    Honest e i w (status (storeSecret e i key proposal w)) := by
  have hrefused : ¬ proposal.Acceptable := by
    rw [Proposal.acceptable_iff, hcheck]
    rintro ⟨s, ⟨⟩⟩
  have hrequired : ¬ Required e i w.backends.disk := by
    rw [Required, hi]
    exact fun hr => hrefused hr.2
  have hbroken : Broken e i w := by
    rw [Broken, hi]
    exact .inr (.inl hrefused)
  have hstatus : status (storeSecret e i key proposal w) = 1 := by
    rw [storeSecret_of_refused hcheck]
    obtain ⟨w', -, ⟨p, -, -, hload, -⟩ | ⟨-, failure', hstatus, hload⟩⟩ :=
      loadProvider_cases (i := i) h hw
    · rw [Call.bind_of_ok hload]
      exact Proposal.exitStatus_of_check hcheck
    · rw [Call.bind_of_error hload]
      exact hstatus hcalm
  rw [hstatus]
  exact .of_broken hrequired (not_absent_of_other (by simp [hi])) hbroken

theorem honest_set_checked {key : String} {proposal : Proposal} {s : Secret}
    (hi : i.action = .set key proposal) (hcheck : proposal.check = .ok s) :
    Honest e i w (status (storeSecret e i key proposal w)) := by
  have habsent : ¬ Absent e i w := not_absent_of_other (by simp [hi])
  have hacceptable : proposal.Acceptable := (Proposal.acceptable_iff proposal).2 ⟨s, hcheck⟩
  have hrequired : Required e i w.backends.disk ↔ Effective e i w.backends.disk .must := by
    simp [Required, hi, hacceptable]
  have hbroken : Broken e i w ↔ (¬ ∃ level, Effective e i w.backends.disk level) ∨
      ∃ store w', approach e i s.kind w = .ok store w' ∧
        (store.add key s.content w'.backends).1.value = false := by
    rw [Broken, hi]
    simp [hacceptable, hcheck]
  rw [storeSecret_of_acceptable hcheck]
  refine (asks_approach h hw hcalm s.kind).honest_of_answer ?_ hrequired.2 habsent hbroken
  intro store w'
  obtain ⟨w'', hadd⟩ := onStore_eq_ok (store.add key s.content) w'
  rw [addTo, Call.bind_of_ok hadd]
  cases (store.add key s.content w'.backends).1.value <;> rfl

theorem honest_set {key : String} {proposal : Proposal} (hi : i.action = .set key proposal) :
    Honest e i w (status (storeSecret e i key proposal w)) := by
  cases hcheck : proposal.check with
  | error failure => exact honest_set_refused h hw hcalm hi hcheck
  | ok s => exact honest_set_checked h hw hcalm hi hcheck

theorem honest_status {format : Format} (hi : i.action = .status format) :
    Honest e i w (status (showStatus e i format w)) := by
  have hother : ¬ i.action.IsOfSecrets := by simp [Action.IsOfSecrets, hi]
  have hbroken : Broken e i w ↔ ¬ ∃ level, Effective e i w.backends.disk level := by
    rw [Broken, hi]
  obtain ⟨w', -, ⟨p, -, hlevel, hload, -⟩ | ⟨hnone, failure, hstatus, hload⟩⟩ :=
    loadProvider_cases (i := i) h hw
  · rw [showStatus, Call.bind_of_ok hload]
    exact .done_of_notSecret hother fun hb => hbroken.1 hb ⟨_, hlevel⟩
  · rw [showStatus, Call.bind_of_error hload, status, hstatus hcalm]
    exact .broken_of_notSecret hother (hbroken.2 hnone)

end

theorem orFail_of_ok {ε α β : Type} (failure : ε → Failure) {answer : Except ε α} {a : α}
    (h : answer = .ok a) (next : α → Run β) (w : Process) : (orFail failure answer >>= next) w = next a w := by
  rw [h]
  rfl

theorem honest_showSettings (hcalm : ¬ Crashes e i w.backends.disk) (hi : i.action = .showSettings) :
    Honest e i w (status (showSettings e i w)) := by
  have hother : ¬ i.action.IsOfSecrets := by simp [Action.IsOfSecrets, hi]
  have hbroken : Broken e i w ↔ (¬ ∃ s, Loads e i w.backends.disk s) ∨
      ∃ s failure, Loads e i w.backends.disk s ∧ s.fallbackPath e = .error failure := by
    rw [Broken, hi]
  unfold showSettings
  cases hdirectory : directoryOf e i with
  | error failure =>
      refine .broken_of_notSecret hother (hbroken.2 (.inl ?_))
      rintro ⟨s, d, hd, -⟩
      cases hdirectory.symm.trans hd
  | ok d =>
      obtain ⟨w', hload, -⟩ := onDisk_eq_ok d.load w
      rw [orFail_of_ok noDirectory rfl, Call.bind_of_ok hload]
      cases hvalue : (d.load w.backends.disk).1.value with
      | error failure =>
          have hnone : ¬ ∃ s, Loads e i w.backends.disk s := by
            rintro ⟨s, d', hd', hload'⟩
            cases hdirectory.symm.trans hd'
            cases hvalue.symm.trans hload'
          cases failure with
          | crash reason => exact absurd ⟨d, reason, hdirectory, hvalue⟩ hcalm
          | _ => exact .broken_of_notSecret hother (hbroken.2 (.inl hnone))
      | ok s =>
          have hs : Loads e i w.backends.disk s := ⟨d, hdirectory, hvalue⟩
          rw [orFail_of_ok Failure.ofSettings rfl]
          cases hpath : s.fallbackPath e with
          | error failure =>
              have hbad := hbroken.2 (.inr ⟨s, failure, hs, hpath⟩)
              obtain ⟨rfl, -, -⟩ := Settings.fallbackPath_eq_error hpath
              exact .broken_of_notSecret hother hbad
          | ok path =>
              refine .done_of_notSecret hother fun hb => ?_
              rcases hbroken.1 hb with hnone | ⟨s', failure, hs', herror⟩
              · exact hnone ⟨s, hs⟩
              · rw [← hs.unique hs', hpath] at herror
                cases herror

/-- How the command ends. It is refused, the settings cannot be saved, or they are. -/
inductive Initiates (d : SettingsDirectory) (s : Settings) (force : Bool) (w : Process) :
    EStateM.Result Failure Process Unit → Prop
  | refused {failure : Failure} : force = false → w.backends.disk.existsAt d.file = true →
      failure.exitStatus = 1 → Initiates d s force w (.error failure w)
  | failed {failure : SettingsError} {disk : Disk} : (force = false → w.backends.disk.existsAt d.file = false) →
      d.save s w.backends.disk = (⟨.error failure, []⟩, disk) → (Failure.ofSettings failure).exitStatus = 1 →
      Initiates d s force w (.error (.ofSettings failure) { w with backends := { w.backends with disk } })
  | saved {events : List Event} {disk : Disk} {w' : Process} :
      (force = false → w.backends.disk.existsAt d.file = false) →
      d.save s w.backends.disk = (⟨.ok (), events⟩, disk) →
      w'.backends.disk = (Journal.take events w.journal disk).2 → Initiates d s force w (.ok () w')

/-- Saving settings whose filter is read brings nothing down. -/
theorem exitStatus_of_save {d : SettingsDirectory} {s : Settings}
    (hfilter : ∃ filter, s.logging.config.filter = .ok filter) {disk disk' : Disk} {failure : SettingsError}
    {events : List Event} (hsave : d.save s disk = (⟨.error failure, events⟩, disk')) :
    (Failure.ofSettings failure).exitStatus = 1 := by
  rcases (SettingsDirectory.save_eq_error hsave).2 with ⟨hinvalid, -⟩ | ⟨reason, rfl, -⟩ | ⟨reason, disk₁, rfl, -⟩
  · cases failure with
    | crash reason => exact absurd hinvalid (Settings.validate_ne_crash hfilter)
    | _ => rfl
  · rfl
  · rfl

theorem initiates_initSettings (hd : directoryOf e i = .ok d) (space fallback : Option String) (force : Bool)
    (w : Process) : Initiates d (initial space fallback) force w (initSettings e i space fallback force w) := by
  unfold initSettings
  rw [hd, orFail_of_ok noDirectory rfl, readBackends_bind]
  cases hthere : w.backends.disk.existsAt d.file && !force with
  | true =>
      rw [Bool.and_eq_true, Bool.not_eq_true'] at hthere
      exact .refused hthere.2 hthere.1 rfl
  | false =>
      have hfree : force = false → w.backends.disk.existsAt d.file = false := by
        rintro rfl
        simpa using hthere
      simp only [Bool.false_eq_true, if_false]
      rcases hsave : d.save (initial space fallback) w.backends.disk with ⟨⟨answer, events⟩, disk⟩
      have hcall : onDisk (d.save (initial space fallback)) w =
          note ⟨answer, events⟩ { w with backends := { w.backends with disk } } := by
        rw [onDisk, hsave]
      cases answer with
      | error failure =>
          obtain rfl := (SettingsDirectory.save_eq_error hsave).1
          have hstatus := exitStatus_of_save (s := initial space fallback) ⟨_, rfl⟩ hsave
          unfold initial at hcall
          rw [Call.bind_of_ok hcall]
          exact .failed hfree hsave hstatus
      | ok u =>
          unfold initial at hcall
          rw [Call.bind_of_ok hcall]
          exact .saved hfree hsave rfl

theorem honest_initSettings {space fallback : Option String} {force : Bool}
    (hi : i.action = .initSettings space fallback force) :
    Honest e i w (status (initSettings e i space fallback force w)) := by
  have hother : ¬ i.action.IsOfSecrets := by simp [Action.IsOfSecrets, hi]
  have hbroken : Broken e i w ↔ (∃ failure, directoryOf e i = .error failure) ∨
      ∃ d, directoryOf e i = .ok d ∧ ((force = false ∧ w.backends.disk.existsAt d.file = true) ∨
        ∃ failure, (d.save (initial space fallback) w.backends.disk).1.value = .error failure) := by
    rw [Broken, hi]
  cases hdirectory : directoryOf e i with
  | error failure =>
      rw [initSettings, hdirectory]
      exact .broken_of_notSecret hother (hbroken.2 (.inl ⟨failure, hdirectory⟩))
  | ok d =>
      have hinitiates := initiates_initSettings hdirectory space fallback force w
      generalize initSettings e i space fallback force w = result at hinitiates ⊢
      cases hinitiates with
      | refused hforce hthere hstatus =>
          rw [status, hstatus]
          exact .broken_of_notSecret hother (hbroken.2 (.inr ⟨d, hdirectory, .inl ⟨hforce, hthere⟩⟩))
      | failed hfree hsave hstatus =>
          rw [status, hstatus]
          exact .broken_of_notSecret hother (hbroken.2 (.inr ⟨d, hdirectory, .inr ⟨_, by rw [hsave]⟩⟩))
      | saved hfree hsave hleft =>
          refine .done_of_notSecret hother fun hb => ?_
          rcases hbroken.1 hb with ⟨failure, herror⟩ | ⟨d', hd', ⟨hforce, hthere⟩ | ⟨failure, herror⟩⟩
          · cases hdirectory.symm.trans herror
          · cases hdirectory.symm.trans hd'
            cases hthere.symm.trans (hfree hforce)
          · cases hdirectory.symm.trans hd'
            rw [hsave] at herror
            cases herror

theorem perform_honest (h : Unreachable e b) (hw : w.backends.keyring = b.keyring)
    (hcalm : ¬ Crashes e i w.backends.disk) : Honest e i w (status (perform e i w)) := by
  unfold perform
  cases hi : i.action with
  | status format => exact honest_status h hw hcalm hi
  | get kind key format reveal => exact honest_get h hw hcalm hi
  | set key proposal => exact honest_set h hw hcalm hi
  | delete kind key => exact honest_delete h hw hcalm hi
  | showSettings => exact honest_showSettings hcalm hi
  | initSettings space fallback force => exact honest_initSettings hi

/-! ### What is left -/

theorem StaysSilent.reach (e : Environment) (i : Invocation) (kind : SecretKind) :
    StaysSilent (reach e i kind) :=
  (StaysSilent.loadProvider e i).bind fun p => .openStore p kind.format

theorem StaysSilent.approach (e : Environment) (i : Invocation) (kind : SecretKind) :
    StaysSilent (approach e i kind) := by
  refine (StaysSilent.reach e i kind).bind fun store => StaysSilent.bind ?_ fun _ => .pure store
  unfold warn
  split
  · exact .pure ()
  · exact .note _

theorem reach_of_must (h : Unreachable e b) (hw : w.backends.keyring = b.keyring)
    (hmust : Effective e i w.backends.disk .must) (kind : SecretKind) :
    ∃ reason w', reach e i kind w = .error (.unavailable reason) w' := by
  cases asks_reach h hw hmust.not_crashes kind with
  | unready hnone hstatus hreach => exact absurd ⟨_, hmust⟩ hnone
  | refused hmust hreach => exact ⟨_, _, hreach⟩
  | opened hoptional hreach => cases hmust.unique hoptional

/-- A command that ends for want of a secure store ends before it calls any. -/
theorem silent_of_required {output : Output} (h : Unreachable e b) (hw : Silent output b w)
    (hrequired : Required e i w.backends.disk) : Silent output b (Call.after (perform e i w)) := by
  obtain ⟨hmust, haction⟩ := hrequired
  have hstop : ∀ kind {next : SecretStore (Backends Unit) kind.Content → Run Unit},
      Silent output b (Call.after ((reach e i kind >>= next) w)) := by
    intro kind next
    obtain ⟨reason, w', hreach⟩ := reach_of_must h hw.keyring hmust kind
    have hsilent := StaysSilent.reach e i kind hw
    rw [hreach] at hsilent
    rwa [Call.bind_of_error hreach]
  unfold perform
  cases hi : i.action with
  | get kind key format reveal =>
      dsimp only
      rw [showSecret_eq]
      exact hstop kind
  | delete kind key =>
      dsimp only
      rw [deleteSecret_eq]
      exact hstop kind
  | set key proposal =>
      rw [hi] at haction
      obtain ⟨s, hcheck⟩ := (Proposal.acceptable_iff proposal).1 haction
      dsimp only
      rw [storeSecret_of_acceptable hcheck, approach, bind_assoc]
      exact hstop s.kind
  | status format => rw [hi] at haction; exact haction.elim
  | showSettings => rw [hi] at haction; exact haction.elim
  | initSettings space fallback force => rw [hi] at haction; exact haction.elim

/-- Nothing on a disk has changed but the file that the log of a run goes to. -/
def OnlyLogChanged (e : Environment) (i : Invocation) (d d' : Disk) : Prop :=
  ∀ names, d'.find? names ≠ d.find? names → ∃ path, logOutput e i d = .file path ∧ d.EntryAt path names

/-- What the status of a run tells a script. `w` is the process when the command begins. -/
structure Tells (e : Environment) (i : Invocation) (b : Backends Unit) (w : Process) (o : Outcome) :
    Prop where
  begins : b.disk.Sound → OnlyLogChanged e i b.disk w.backends.disk
  required : o.exit = 3 ↔ Required e i w.backends.disk
  nothing : o.exit = 3 → o.output = "" ∧ (b.disk.Sound → OnlyLogChanged e i b.disk o.backends.disk)
  absent : o.exit = 2 ↔ Absent e i w
  broken : o.exit = 1 ↔ Broken e i w
  done : o.exit = 0 ↔ ¬ Required e i w.backends.disk ∧ ¬ Absent e i w ∧ ¬ Broken e i w
  others : ¬ i.action.IsOfSecrets → o.exit ≠ 2 ∧ o.exit ≠ 3

theorem execute_everything (e : Environment) (stamp : String) (i : Invocation) (b : Backends Unit) :
    (execute e stamp i b).exit = status (everything e i (started stamp b)) ∧
      (execute e stamp i b).output = (Call.after (everything e i (started stamp b))).output ∧
      (execute e stamp i b).backends = (Call.after (everything e i (started stamp b))).backends := by
  have hstarted : everything e i ⟨b, { Journal.empty with stamp }, ""⟩ = everything e i (started stamp b) := rfl
  rw [execute, hstarted]
  cases everything e i (started stamp b) with
  | ok _ w => exact ⟨rfl, rfl, rfl⟩
  | error failure w => exact ⟨rfl, rfl, rfl⟩

theorem execute_eq (hcalm : ¬ Crashes e i b.disk) (stamp : String) :
    (execute e stamp i b).exit = status (perform e i (begun e stamp i b)) ∧
      (execute e stamp i b).output = (Call.after (perform e i (begun e stamp i b))).output ∧
      (execute e stamp i b).backends = (Call.after (perform e i (begun e stamp i b))).backends := by
  rw [← (everything_eq hcalm stamp).1]
  exact execute_everything e stamp i b

/-- A run that crashes on its settings has printed nothing and touched nothing. -/
theorem execute_of_crash (h : Crashes e i b.disk) (stamp : String) : (execute e stamp i b).exit = 101 ∧
    (execute e stamp i b).output = "" ∧ (execute e stamp i b).backends = (begun e stamp i b).backends ∧
      b.disk.Untouched (begun e stamp i b).backends.disk := by
  obtain ⟨reason, disk, hrun, hbegun, huntouched⟩ := everything_of_crash h stamp
  obtain ⟨hexit, houtput, hbackends⟩ := execute_everything e stamp i b
  rw [hrun] at hexit houtput hbackends
  refine ⟨hexit, houtput.trans ?_, hbackends, ?_⟩
  · rw [Call.after_error, hbegun]
    rfl
  · rw [hbegun]
    exact huntouched

/-- Where no secure store can be reached, each status says just what a script may take it for. -/
theorem execute_tells (e : Environment) (stamp : String) (i : Invocation) (b : Backends Unit)
    (h : Unreachable e b) (hcalm : ¬ Crashes e i b.disk)
    (hcalm' : ¬ Crashes e i (begun e stamp i b).backends.disk) :
    Tells e i b (begun e stamp i b) (execute e stamp i b) := by
  obtain ⟨hexit, houtput, hbackends⟩ := execute_eq hcalm stamp
  have hsilent := silent_begun e stamp i b
  have hhonest : Honest e i (begun e stamp i b) (execute e stamp i b).exit :=
    hexit ▸ perform_honest h hsilent.keyring hcalm'
  constructor
  · exact fun hsound => (hsilent.logged hsound).others
  · exact hhonest.required
  · intro hthree
    have hleft := silent_of_required h hsilent (hhonest.required.1 hthree)
    rw [houtput, hbackends]
    exact ⟨hleft.printed, fun hsound => (hleft.logged hsound).others⟩
  · exact hhonest.absent
  · exact hhonest.broken
  · rw [← hhonest.required, ← hhonest.absent, ← hhonest.broken]
    have := hhonest.small
    omega
  · intro hi
    rw [Ne, Ne, hhonest.required, hhonest.absent]
    exact ⟨not_absent_of_notSecret hi, not_required_of_notSecret hi⟩

/-- A user with a data directory, and without a session bus. -/
def alone : Environment := ⟨[("XDG_DATA_HOME", "/data")], none⟩

def bare : Backends Unit := ⟨⟨[], [], [], 0⟩, .empty, ()⟩

def demanding : Invocation := ⟨some "cfg", 0, false, some .must, .get .credential "mail" .table false⟩

theorem exists_provider {s : Settings} (hvalid : s.validate = .ok ()) :
    ∃ p, (Provider.ofSettings alone s : Except SettingsError (Provider Unit)) = .ok p := by
  cases hmade : (Provider.ofSettings alone s : Except SettingsError (Provider Unit)) with
  | ok p => exact ⟨p, rfl⟩
  | error failure =>
      obtain ⟨-, -, hnone⟩ := (Settings.usable_of_validate hvalid).provider alone failure hmade
      exact absurd hnone (by decide +kernel)

theorem provider_alone :
    ∃ p, (Provider.ofSettings alone .standard : Except SettingsError (Provider Unit)) = .ok p :=
  exists_provider SettingsDirectory.validate_standard

theorem effective_demanding :
    Effective alone demanding (begun alone "" demanding bare).backends.disk .must := by
  obtain ⟨p, hp⟩ := provider_alone
  exact ⟨.standard, p, ⟨⟨"cfg"⟩, rfl, by decide +kernel⟩, hp, rfl⟩

theorem execute_tells_demanding : Unreachable alone bare ∧ bare.disk.Sound ∧
    (execute alone "" demanding bare).exit = 3 ∧ (execute alone "" demanding bare).output = "" ∧
    OnlyLogChanged alone demanding bare.disk (execute alone "" demanding bare).backends.disk := by
  have hunreachable : Unreachable alone bare := fun _ => ⟨_, rfl⟩
  have hsound : bare.disk.Sound := Disk.sound_blank []
  have hcalm : ¬ Crashes alone demanding bare.disk :=
    Loads.not_crashes (s := .standard) ⟨⟨"cfg"⟩, rfl, by decide +kernel⟩
  have htells := execute_tells alone "" demanding bare hunreachable hcalm effective_demanding.not_crashes
  have hthree := htells.required.2 ⟨effective_demanding, trivial⟩
  obtain ⟨hprinted, hdisk⟩ := htells.nothing hthree
  exact ⟨hunreachable, hsound, hthree, hprinted, hdisk hsound⟩

/-- A user in the directory of the settings, with nothing else there. -/
def withSettings (text : String) : Backends Unit :=
  ⟨⟨[(["config.toml"], .file text.toUTF8 0o644 0)], [], [], 1⟩, .empty, ()⟩

/-- The log goes into the settings, which ask for a secure store. -/
def entangled : Backends Unit :=
  withSettings "secure_option = \"must\"\n\n[logging]\nlevel = \"debug\"\nfile = \"config.toml\"\n"

/-- The blank after the comma shifts the part before the equals sign, which then ends inside a character. -/
def tearing : Backends Unit := withSettings "[logging]\nfilter = \"warn, é=info\"\n"

def asking : Invocation := ⟨some ".", 0, false, none, .get .credential "mail" .table false⟩

theorem required_entangled : Required alone asking entangled.disk := by
  have hs : ((⟨"."⟩ : SettingsDirectory).load entangled.disk).1.value =
      .ok ⟨"credstore", .must, none, ⟨.debug, none, some "config.toml"⟩⟩ := by decide +kernel
  obtain ⟨p, hp⟩ := exists_provider (SettingsDirectory.validate_of_load hs)
  exact ⟨⟨_, p, ⟨⟨"."⟩, rfl, hs⟩, hp, rfl⟩, trivial⟩

/-- The settings that count are those that are there once the log is open, and a torn filter ends a run
with a status of its own. -/
theorem not_tells :
    (¬ ∀ (e : Environment) (i : Invocation) (b : Backends Unit), Unreachable e b →
      ((execute e "" i b).exit = 3 ↔ Required e i b.disk)) ∧
    ¬ ∀ (e : Environment) (i : Invocation) (b : Backends Unit), Unreachable e b → (execute e "" i b).exit ≤ 3 := by
  constructor
  · intro h
    have hthree := (h alone asking entangled fun _ => ⟨_, rfl⟩).2 required_entangled
    revert hthree
    decide +kernel
  · intro h
    have hsmall := h alone asking tearing fun _ => ⟨_, rfl⟩
    revert hsmall
    decide +kernel

end Command
end Strongbox
