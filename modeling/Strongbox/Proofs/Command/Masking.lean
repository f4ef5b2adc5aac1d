import Strongbox.Proofs.Command.Storing
import Strongbox.Proofs.Log.Journal
import Strongbox.Proofs.Provider.Made
import Strongbox.Proofs.SecretStore.Veil
import Strongbox.Proofs.Settings.Veil
/-! Two runs of a command that shows no secret. Where they start from states that differ in what is
masked, and store secrets that differ in the same way, whoever watches them sees one run. -/
namespace Strongbox.Command

open Call (Agree)
open Disk (Lasting)
open FileStore (Masked Remains Braced)
open Backends (Any Chosen)
open Log
open Secret (SameFace)

/-! ### What is compared -/

namespace Proposal

/-- The same proposals, but for a password or for the values of tokens. -/
inductive SameFace : Proposal → Proposal → Prop
  | credential (username : String) (password password' : Option String) :
      SameFace (.credential username password) (.credential username password')
  | token (typeName : String) (value value' : Option String) (target : Option Uuid) :
      SameFace (.token typeName value target) (.token typeName value' target)
  | tokenPair (access access' refresh refresh' : Option String) :
      SameFace (.tokenPair access refresh) (.tokenPair access' refresh')

theorem SameFace.check {p p' : Proposal} (h : SameFace p p') {s s' : Secret} (hs : p.check = .ok s)
    (hs' : p'.check = .ok s') : s.SameFace s' := by
  have hmakes := makes_of_check hs
  have hmakes' := makes_of_check hs'
  cases h with
  | credential username password password' =>
      cases hmakes
      cases hmakes'
      exact .credential username _ _
  | token typeName value value' target =>
      cases hmakes with
      | token htype htarget =>
          cases hmakes' with
          | token htype' htarget' =>
              rw [htype] at htype'
              exact .token (Except.ok.inj htype').symm (htarget'.trans htarget.symm)
  | tokenPair access access' refresh refresh' =>
      cases hmakes
      cases hmakes'
      exact .tokenPair _ _

end Proposal

/-- No secret is asked for in the clear. -/
def Action.Hides : Action → Prop
  | .get _ _ _ reveal => reveal = false
  | _ => True

/-- The same commands, but for the value of a secret that both store. -/
inductive Action.Alike : Action → Action → Prop
  | same {a : Action} (hides : a.Hides) : Alike a a
  | set (key : String) {p p' : Proposal} (face : p.SameFace p') (fits : p.Acceptable)
      (fits' : p'.Acceptable) : Alike (.set key p) (.set key p')

structure Invocation.Alike (i i' : Invocation) : Prop where
  directory : i'.directory = i.directory
  verbosity : i'.verbosity = i.verbosity
  quiet : i'.quiet = i.quiet
  security : i'.security = i.security
  action : i.action.Alike i'.action

/-- The same surroundings, but for variables that hold secrets. -/
structure SameSurroundings (e e' : Environment) : Prop where
  home : e'.accountHome = e.accountHome
  bindings : ∀ name, name ≠ "CREDSTORE_PASSWORD" → name ≠ "CREDSTORE_TOKEN" →
    e'.get? name = e.get? name

/-- What is seen of a run: how it ends, what it tells, and every file that does not begin as a document,
such as the log. What is left of documents differs in what is masked. -/
structure Outcome.Alike (o o' : Outcome) : Prop where
  exit : o'.exit = o.exit
  output : o'.output = o.output
  errors : o'.errors = o.errors
  files : Disk.Alike (fun _ => Remains) o.backends.disk o'.backends.disk
  logs : ∀ {names bytes mode serial}, ¬ Braced bytes →
    o.backends.disk.find? names = some (.file bytes mode serial) →
      o'.backends.disk.find? names = some (.file bytes mode serial)

/-- Runs that have come equally far. -/
structure Seem (K : Keyring → Keyring → Prop) (C : ByteArray → ByteArray → Prop) (p p' : Process) :
    Prop where
  journal : p'.journal = p.journal
  output : p'.output = p.output
  backends : p.backends.Seem K C p'.backends

theorem Seem.part {p p' : Process} (h : Seem Eq Masked p p') : Seem Any Remains p p' :=
  ⟨h.journal, h.output, h.backends.part⟩

/-! ### Steps -/

section

variable {K : Keyring → Keyring → Prop} {C : ByteArray → ByteArray → Prop} {p p' : Process}
variable {α β : Type} {R : α → β → Prop}

theorem note_agree (hC : Lasting fun _ => C) (h : Seem K C p p') {l : Logged α} {l' : Logged β}
    (hevents : l'.events = l.events) (hvalue : R l.value l'.value) :
    Agree R (Seem K C) (note l p) (note l' p') := by
  obtain ⟨hjournal, hdisk⟩ := Journal.take_agree hC h.backends.disk l.events p.journal
  have hsound := Journal.sound_take l.events p.journal h.backends.sound
  unfold note
  rw [hevents, h.journal]
  exact .ok hvalue ⟨hjournal, h.output, h.backends.keyring, hdisk, hsound⟩

theorem orFail_agree {ε : Type} (h : Seem K C p p') (failure : ε → Failure) (x : Except ε α) :
    Agree Eq (Seem K C) (orFail failure x p) (orFail failure x p') := by
  cases x with
  | ok a => exact .ok rfl h
  | error e => exact .error _ h

theorem print_agree (h : Seem K C p p') (text : String) :
    Agree Eq (Seem K C) (print text p) (print text p') := by
  refine .ok rfl ⟨h.journal, ?_, h.backends⟩
  exact congrArg (· ++ text) h.output

theorem onDisk_agree (hC : Lasting fun _ => C) (h : Seem K C p p')
    {call : Disk → Logged α × Disk} (htold : (call p'.backends.disk).1 = (call p.backends.disk).1)
    (hdisk : Disk.Alike (fun _ => C) (call p.backends.disk).2 (call p'.backends.disk).2)
    (hsound : (call p.backends.disk).2.Sound) :
    Agree Eq (Seem K C) (onDisk call p) (onDisk call p') := by
  have hstep : Seem K C { p with backends := { p.backends with disk := (call p.backends.disk).2 } }
      { p' with backends := { p'.backends with disk := (call p'.backends.disk).2 } } :=
    ⟨h.journal, h.output, h.backends.keyring, hdisk, hsound⟩
  exact note_agree hC hstep (congrArg Logged.events htold) (congrArg Logged.value htold.symm)

theorem onStore_agree {K' : Keyring → Keyring → Prop} {C' : ByteArray → ByteArray → Prop}
    (hC : Lasting fun _ => C') (h : Seem K C p p') {call : Backends Unit → Logged α × Backends Unit}
    {call' : Backends Unit → Logged β × Backends Unit}
    (hevents : (call' p'.backends).1.events = (call p.backends).1.events)
    (hvalue : R (call p.backends).1.value (call' p'.backends).1.value)
    (hafter : (call p.backends).2.Seem K' C' (call' p'.backends).2) :
    Agree R (Seem K' C') (onStore call p) (onStore call' p') := by
  have hstep : Seem K' C' { p with backends := (call p.backends).2 }
      { p' with backends := (call' p'.backends).2 } := ⟨h.journal, h.output, hafter⟩
  exact note_agree hC hstep hevents hvalue

end

/-! ### Settings -/

section

variable {p p' : Process}

theorem loadDirectory_agree (h : Seem Eq Masked p p') (d : SettingsDirectory) :
    Agree Eq (Seem Eq Masked) (onDisk d.load p) (onDisk d.load p') := by
  obtain ⟨htold, hdisk⟩ := d.load_agree h.backends.disk
  have hsound := h.backends.sound.untouched (d.load_untouched p.backends.disk)
  exact onDisk_agree FileStore.lasting_masked h htold hdisk hsound

/-- A provider that looks for the keyring. -/
def LooksForKeyring (q : Provider Unit) : Prop := ∃ session, q.detect = Detector.keyring session

theorem loadSettings_agree (h : Seem Eq Masked p p') (e : Environment) (i : Invocation) :
    Agree Eq (Seem Eq Masked) (loadSettings e i p) (loadSettings e i p') := by
  refine (orFail_agree h noDirectory (directoryOf e i)).bind ?_
  rintro d _ w w' rfl hw
  refine (loadDirectory_agree hw d).bind ?_
  rintro answer _ w w' rfl hw
  exact orFail_agree hw notLoaded answer

theorem looksForKeyring_of_settings {e : Environment} {s : Settings} {q : Provider Unit}
    (h : Provider.ofSettings e s = .ok q) (security : Option SecurityLevel) :
    LooksForKeyring (withSecurity security q) := by
  rw [withSecurity_eq]
  exact ⟨_, (Provider.follows_of_settings h).detect⟩

theorem loadProvider_agree (h : Seem Eq Masked p p') (e : Environment) (i : Invocation) :
    Agree (fun q q' => q = q' ∧ LooksForKeyring q) (Seem Eq Masked) (loadProvider e i p)
      (loadProvider e i p') := by
  refine (loadSettings_agree h e i).bind ?_
  rintro s _ w w' rfl hw
  cases hprovider : (Provider.ofSettings e s : Except SettingsError (Provider Unit)) with
  | error e => exact .error _ hw
  | ok q => exact .ok ⟨rfl, looksForKeyring_of_settings hprovider i.security⟩ hw

end

/-! ### Choosing the store -/

section

variable {q : Provider Unit} {b b' : Backends Unit}

theorem select_eq (h : LooksForKeyring q) (hkeyring : b.keyring = b'.keyring) (level : SecurityLevel) :
    q.select level b' = q.select level b := by
  obtain ⟨session, hdetect⟩ := h
  unfold Provider.select
  rw [hdetect, detect_eq hkeyring]

/-- What is selected is the file of the provider or a store in the keyring. -/
theorem native_of_select (h : LooksForKeyring q) {level : SecurityLevel}
    {native : NativeStore (Backends Unit)} (hselect : (q.select level b).value = .ok native) :
    native = Backends.file q.fallback ∨ ∃ p, native = Backends.secret p := by
  obtain ⟨session, hdetect⟩ := h
  simp only [Provider.select, Logged.inside, Logged.andThen, hdetect] at hselect
  cases hanswer : ((Detector.keyring session : Detector Unit) q.platform q.space b).value with
  | error e =>
      rw [hanswer] at hselect
      cases level with
      | must => cases hselect
      | optional =>
          cases hselect
          exact .inl rfl
  | ok found =>
      rw [hanswer] at hselect
      cases hselect
      unfold Detector.keyring at hanswer
      split at hanswer
      · cases hanswer
      · split at hanswer
        · cases hanswer
        · simp only [Logged.map] at hanswer
          cases hprobe : (Keyring.probe _ q.space b.keyring).value with
          | error e =>
              rw [hprobe] at hanswer
              cases hanswer
          | ok _ =>
              rw [hprobe] at hanswer
              cases hanswer
              exact .inr ⟨_, rfl⟩

theorem chosen_of_select (h : LooksForKeyring q) {level : SecurityLevel}
    {native : NativeStore (Backends Unit)} (hselect : (q.select level b).value = .ok native) :
    Chosen native := by
  rcases native_of_select h hselect with rfl | ⟨p, rfl⟩
  · exact .file q.fallback
  · exact .secret p

/-- The store that was opened is over one of the stores that are ever chosen. -/
def OpensChosen {kind : SecretKind} (s : SecretStore (Backends Unit) kind.Content) : Prop :=
  ∃ native space, Chosen native ∧ SecretStore.make native space kind.format = .ok s

theorem openStore_agree {p p' : Process} (h : Seem Eq Masked p p') (hq : LooksForKeyring q)
    (kind : SecretKind) :
    Agree (fun s s' => s = s' ∧ OpensChosen s) (Seem Eq Masked) (openStore q kind.format p)
      (openStore q kind.format p') := by
  have hsame : q.store q.level kind.format p'.backends = q.store q.level kind.format p.backends := by
    unfold Provider.store
    rw [select_eq hq h.backends.keyring]
  have hopens : ∀ s, (q.store q.level kind.format p.backends).value = .ok s → OpensChosen s := by
    intro s hs
    simp only [Provider.store, Logged.map] at hs
    cases hselect : (q.select q.level p.backends).value with
    | error e =>
        rw [hselect] at hs
        cases hs
    | ok native =>
        rw [hselect] at hs
        exact ⟨native, q.space, chosen_of_select hq hselect, hs⟩
  have hnote : Agree (fun x x' => x = x' ∧ ∀ s, x = .ok s → OpensChosen s) (Seem Eq Masked)
      (note (q.store q.level kind.format p.backends) p)
      (note (q.store q.level kind.format p'.backends) p') := by
    apply note_agree FileStore.lasting_masked h
    · rw [hsame]
    · rw [hsame]
      exact ⟨rfl, hopens⟩
  rw [openStore, readBackends_bind, readBackends_bind]
  refine hnote.bind ?_
  rintro x _ w w' ⟨rfl, hchosen⟩ hw
  cases x with
  | error e => exact .error _ hw
  | ok s => exact .ok ⟨rfl, hchosen s rfl⟩ hw

end

/-! ### Commands -/

section

variable {q : Provider Unit} {p p' : Process}

theorem find_agree (h : Seem Eq Masked p p') (hq : LooksForKeyring q) (kind : SecretKind)
    (key : String) :
    Agree (Option.Rel SameFace) (Seem Eq Masked) (find q kind.format kind.secret key p)
      (find q kind.format kind.secret key p') := by
  refine (openStore_agree h hq kind).bind ?_
  rintro s _ w w' ⟨rfl, native, space, hchosen, hmade⟩ hw
  obtain ⟨hevents, hvalue, hafter⟩ :=
    Opened.get_agree ⟨space, kind, s, hmade⟩ hchosen hw.backends key
  refine (onStore_agree FileStore.lasting_masked hw hevents hvalue hafter).bind ?_
  intro found found' w w' hfaces hw
  cases hfaces with
  | none => exact .ok .none hw
  | some face => exact .ok (.some face) hw

theorem showSecret_agree (h : Seem Eq Masked p p') (e : Environment) (i : Invocation)
    (kind : SecretKind) (key : String) (format : Format) :
    Agree Eq (Seem Eq Masked) (showSecret e i kind key format false p)
      (showSecret e i kind key format false p') := by
  refine (loadProvider_agree h e i).bind ?_
  rintro q _ w w' ⟨rfl, hq⟩ hw
  rw [findOfKind_eq]
  refine (find_agree hw hq kind key).bind ?_
  intro found found' w w' hfaces hw
  cases hfaces with
  | none => exact .error _ hw
  | some face =>
      dsimp only
      rw [face.renderSecret]
      exact print_agree hw _

theorem showStatus_agree (h : Seem Eq Masked p p') (e : Environment) (i : Invocation) (format : Format) :
    Agree Eq (Seem Eq Masked) (showStatus e i format p) (showStatus e i format p') := by
  refine (loadProvider_agree h e i).bind ?_
  rintro q _ w w' ⟨rfl, hq⟩ hw
  have hdetect := detect_eq hw.backends.keyring e.session? q.platform q.space
  have hdetected : Agree Eq (Seem Eq Masked)
      (note (Detector.keyring e.session? q.platform q.space w.backends) w)
      (note (Detector.keyring e.session? q.platform q.space w'.backends) w') := by
    apply note_agree FileStore.lasting_masked hw
    · rw [hdetect]
    · rw [hdetect]
  rw [readBackends_bind, readBackends_bind]
  refine hdetected.bind ?_
  rintro detected _ w w' rfl hw
  have hselect := select_eq hq hw.backends.keyring q.level
  have hselected : Agree Eq (Seem Eq Masked) (note (q.select q.level w.backends) w)
      (note (q.select q.level w'.backends) w') := by
    apply note_agree FileStore.lasting_masked hw
    · rw [hselect]
    · rw [hselect]
  rw [readBackends_bind, readBackends_bind]
  refine hselected.bind ?_
  rintro chosen _ w w' rfl hw
  exact print_agree hw _

theorem warn_agree (h : Seem Eq Masked p p') {α : Type} (s : SecretStore (Backends Unit) α) :
    Agree Eq (Seem Eq Masked) (warn s p) (warn s p') := by
  unfold warn
  cases s.isSecure with
  | true => exact .ok rfl h
  | false => exact note_agree FileStore.lasting_masked h rfl rfl

theorem deposit_agree (h : Seem Eq Masked p p') (hq : LooksForKeyring q) (key : String)
    {kind : SecretKind} {a a' : kind.Content} (face : (kind.secret a).SameFace (kind.secret a')) :
    Agree Eq (Seem Any Remains) (deposit q key a p) (deposit q key a' p') := by
  refine (openStore_agree h hq kind).bindInto (fun _ _ => Seem.part) ?_
  rintro s _ w w' ⟨rfl, native, space, hchosen, hmade⟩ hw
  refine (warn_agree hw s).bindInto (fun _ _ => Seem.part) ?_
  rintro _ _ w w' - hw
  obtain ⟨htold, hafter⟩ := Opened.add_agree ⟨space, kind, s, hmade⟩ hchosen hw.backends key face
  refine (onStore_agree (R := Eq) FileStore.lasting_remains hw (congrArg Logged.events htold)
    (congrArg Logged.value htold.symm) hafter).bind ?_
  rintro answer _ w w' rfl hw
  cases answer with
  | true => exact print_agree hw _
  | false => exact .error _ hw

/-- A secret is deposited as one of any kind that it is of. -/
theorem deposit_as (q : Provider Unit) (key : String) {s : Secret} {kind : SecretKind}
    (h : s.kind = kind) :
    ∃ a : kind.Content, kind.secret a = s ∧ deposit q key s.content = deposit q key a := by
  subst h
  exact ⟨s.content, s.secret_content, rfl⟩

theorem storeSecret_agree (h : Seem Eq Masked p p') (e : Environment) (i : Invocation) (key : String)
    {proposal proposal' : Proposal} (face : proposal.SameFace proposal') (fits : proposal.Acceptable)
    (fits' : proposal'.Acceptable) :
    Agree Eq (Seem Any Remains) (storeSecret e i key proposal p) (storeSecret e i key proposal' p') := by
  obtain ⟨s, hs⟩ := proposal.acceptable_iff.1 fits
  obtain ⟨s', hs'⟩ := proposal'.acceptable_iff.1 fits'
  have hface := face.check hs hs'
  rw [storeSecret_eq, storeSecret_eq]
  refine (loadProvider_agree h e i).bindInto (fun _ _ => Seem.part) ?_
  rintro q _ w w' ⟨rfl, hq⟩ hw
  obtain ⟨a, ha, hdeposit⟩ := deposit_as q key (s := s) rfl
  obtain ⟨a', ha', hdeposit'⟩ := deposit_as q key hface.kind
  rw [← ha, ← ha'] at hface
  have hstored := deposit_agree hw hq key hface
  rw [← hdeposit, ← hdeposit'] at hstored
  rw [hs, hs']
  exact hstored

/-- A proposal that is refused is refused before anything is changed. -/
theorem storeSecret_same_agree (h : Seem Eq Masked p p') (e : Environment) (i : Invocation)
    (key : String) (proposal : Proposal) :
    Agree Eq (Seem Any Remains) (storeSecret e i key proposal p) (storeSecret e i key proposal p') := by
  rw [storeSecret_eq]
  refine (loadProvider_agree h e i).bindInto (fun _ _ => Seem.part) ?_
  rintro q _ w w' ⟨rfl, hq⟩ hw
  refine (orFail_agree hw id proposal.check).bindInto (fun _ _ => Seem.part) ?_
  rintro s _ w w' rfl hw
  exact deposit_agree hw hq key (.refl _)

theorem deleteSecret_agree (h : Seem Eq Masked p p') (e : Environment) (i : Invocation)
    (kind : SecretKind) (key : String) :
    Agree Eq (Seem Any Remains) (deleteSecret e i kind key p) (deleteSecret e i kind key p') := by
  refine (loadProvider_agree h e i).bindInto (fun _ _ => Seem.part) ?_
  rintro q _ w w' ⟨rfl, hq⟩ hw
  have hdrop : Agree Eq (Seem Any Remains) (dropOfKind q kind key w) (dropOfKind q kind key w') := by
    rw [dropOfKind_eq]
    refine (openStore_agree hw hq kind).bindInto (fun _ _ => Seem.part) ?_
    rintro s _ w w' ⟨rfl, native, space, hchosen, hmade⟩ hw
    obtain ⟨htold, hafter⟩ := Opened.delete_agree ⟨space, kind, s, hmade⟩ hchosen hw.backends key
    refine (onStore_agree (R := Eq) FileStore.lasting_remains hw (congrArg Logged.events htold)
      (congrArg Logged.value htold.symm) hafter).bind ?_
    rintro answer _ w w' rfl hw
    exact .ok rfl hw
  refine hdrop.bind ?_
  rintro ⟨deleted, backend⟩ _ w w' rfl hw
  cases deleted with
  | true => exact print_agree hw _
  | false => exact .error _ hw

theorem showSettings_agree (h : Seem Eq Masked p p') (e : Environment) (i : Invocation) :
    Agree Eq (Seem Eq Masked) (showSettings e i p) (showSettings e i p') := by
  refine (orFail_agree h noDirectory (directoryOf e i)).bind ?_
  rintro d _ w w' rfl hw
  refine (loadDirectory_agree hw d).bind ?_
  rintro answer _ w w' rfl hw
  refine (orFail_agree hw Failure.ofSettings answer).bind ?_
  rintro s _ w w' rfl hw
  refine (orFail_agree hw Failure.ofSettings (s.fallbackPath e)).bind ?_
  rintro fallback _ w w' rfl hw
  exact print_agree hw _

theorem initSettings_agree (h : Seem Eq Masked p p') (e : Environment) (i : Invocation)
    (space fallback : Option String) (force : Bool) :
    Agree Eq (Seem Eq Masked) (initSettings e i space fallback force p)
      (initSettings e i space fallback force p') := by
  refine (orFail_agree h noDirectory (directoryOf e i)).bind ?_
  rintro d _ w w' rfl hw
  rw [readBackends_bind, readBackends_bind, hw.backends.disk.existsAt]
  cases (w.backends.disk.existsAt d.file && !force) with
  | true => exact .error _ hw
  | false =>
      obtain ⟨htold, hdisk⟩ := d.save_agree hw.backends.disk hw.backends.sound
        FileStore.lasting_masked.refl
        { Settings.standard with space := space.getD Settings.standard.space, fallback }
      have hsaved := onDisk_agree FileStore.lasting_masked hw htold hdisk
        (d.sound_save hw.backends.sound _)
      refine hsaved.bind ?_
      rintro answer _ w w' rfl hw
      refine (orFail_agree hw Failure.ofSettings answer).bind ?_
      rintro _ _ w w' rfl hw
      exact print_agree hw _

theorem perform_agree (h : Seem Eq Masked p p') (e : Environment) (i : Invocation) {action : Action}
    (halike : i.action.Alike action) :
    Agree Eq (Seem Any Remains) (perform e i p) (perform e { i with action } p') := by
  have hpart : ∀ {r r' : EStateM.Result Failure Process Unit}, Agree Eq (Seem Eq Masked) r r' →
      Agree Eq (Seem Any Remains) r r' := fun h => h.weaken fun _ _ => Seem.part
  unfold perform
  cases haction : i.action with
  | status format =>
      rw [haction] at halike
      cases halike
      exact hpart (showStatus_agree h e i format)
  | get kind key format reveal =>
      rw [haction] at halike
      cases halike with
      | same hides =>
          obtain rfl : reveal = false := hides
          exact hpart (showSecret_agree h e i kind key format)
  | set key proposal =>
      rw [haction] at halike
      cases halike with
      | same hides => exact storeSecret_same_agree h e i key proposal
      | set key face fits fits' => exact storeSecret_agree h e i key face fits fits'
  | delete kind key =>
      rw [haction] at halike
      cases halike
      exact deleteSecret_agree h e i kind key
  | showSettings =>
      rw [haction] at halike
      cases halike
      exact hpart (showSettings_agree h e i)
  | initSettings space fallback force =>
      rw [haction] at halike
      cases halike
      exact hpart (initSettings_agree h e i space fallback force)

end

/-! ### Runs -/

section

variable {p p' : Process}

theorem logConfig_agree (h : Seem Eq Masked p p') (e : Environment) (i : Invocation) :
    Agree Eq (Seem Eq Masked) (logConfig e i p) (logConfig e i p') := by
  unfold logConfig
  cases directoryOf e i with
  | error _ => exact .ok rfl h
  | ok d =>
      refine (loadDirectory_agree h d).bind ?_
      rintro answer _ w w' rfl hw
      cases answer with
      | ok s => exact .ok rfl hw
      | error failure =>
          cases failure with
          | crash reason => exact .error _ hw
          | _ => exact .ok rfl hw

theorem startLog_agree (h : Seem Eq Masked p p') (c : Config) :
    Agree Eq (Seem Eq Masked) (startLog c p) (startLog c p') := by
  obtain ⟨hanswer, hjournal, hdisk⟩ :=
    Journal.start_agree FileStore.lasting_masked h.backends.disk c p.journal
  have hsound := Journal.sound_start h.backends.sound c p.journal
  unfold startLog
  rw [h.journal]
  generalize Journal.start c p.journal p.backends.disk = started at hanswer hjournal hdisk hsound ⊢
  generalize Journal.start c p.journal p'.backends.disk = started' at hanswer hjournal hdisk ⊢
  obtain ⟨answer, journal, disk⟩ := started
  obtain ⟨answer', journal', disk'⟩ := started'
  cases hanswer
  cases hjournal
  have hafter : Seem Eq Masked { p with journal, backends := { p.backends with disk } }
      { p' with journal, backends := { p'.backends with disk := disk' } } :=
    ⟨rfl, h.output, h.backends.keyring, hdisk, hsound⟩
  cases answer with
  | ok _ => exact .ok rfl hafter
  | error e =>
      cases e with
      | crash reason => exact .error _ hafter
      | _ => exact .ok rfl ⟨rfl, hafter.output, hafter.backends⟩

theorem everything_agree (h : Seem Eq Masked p p') (e : Environment) (i : Invocation) {action : Action}
    (halike : i.action.Alike action) :
    Agree Eq (Seem Any Remains) (everything e i p) (everything e { i with action } p') := by
  have hstart : Agree Eq (Seem Eq Masked) ((logConfig e i >>= startLog) p)
      ((logConfig e i >>= startLog) p') := by
    refine (logConfig_agree h e i).bind ?_
    rintro c _ w w' rfl hw
    exact startLog_agree hw c
  have heverything : ∀ action, everything e { i with action } =
      (logConfig e i >>= startLog) >>= fun _ => perform e { i with action } := by
    intro action
    rw [bind_assoc]
    rfl
  have hown : everything e i = (logConfig e i >>= startLog) >>= fun _ => perform e i :=
    heverything i.action
  rw [hown, heverything action]
  refine hstart.bindInto (fun _ _ => Seem.part) ?_
  rintro _ _ w w' - hw
  exact perform_agree hw e i halike

end

/-! ### Surroundings -/

section

variable {e e' : Environment}

theorem SameSurroundings.get? (h : SameSurroundings e e') (name : String)
    (hname : name ≠ "CREDSTORE_PASSWORD" ∧ name ≠ "CREDSTORE_TOKEN") : e'.get? name = e.get? name :=
  h.bindings name hname.1 hname.2

theorem SameSurroundings.directory? (h : SameSurroundings e e') (name below : String)
    (hname : name ≠ "CREDSTORE_PASSWORD" ∧ name ≠ "CREDSTORE_TOKEN") :
    e'.directory? name below = e.directory? name below := by
  have hhome : e'.home? = e.home? := by
    unfold Environment.home?
    rw [h.get? "HOME" (by decide), h.home]
  unfold Environment.directory?
  rw [h.get? name hname, hhome]

/-- A run asks for nothing that may differ. -/
theorem SameSurroundings.everything (h : SameSurroundings e e') (i : Invocation) :
    everything e' i = everything e i := by
  have hdata : e'.dataDirectory? = e.dataDirectory? := h.directory? _ _ (by decide)
  have hsettings : e'.settingsDirectory? = e.settingsDirectory? := h.directory? _ _ (by decide)
  have hsession : e'.session? = e.session? := by
    unfold Environment.session?
    rw [h.get? _ (by decide)]
  have hdirectory : directoryOf e' i = directoryOf e i := by
    unfold directoryOf SettingsDirectory.standard
    rw [hsettings]
  have hfallback : ∀ s : Settings, s.fallbackPath e' = s.fallbackPath e := by
    intro s
    unfold Settings.fallbackPath
    rw [hdata]
  have hload : loadSettings e' i = loadSettings e i := by
    unfold loadSettings
    rw [hdirectory]
  have hprovider : loadProvider e' i = loadProvider e i := by
    have hof : ∀ s, (Provider.ofSettings e' s : Except SettingsError (Provider Unit)) =
        Provider.ofSettings e s := by
      intro s
      unfold Provider.ofSettings
      rw [hfallback, hsession]
    unfold loadProvider
    simp only [hload, hof]
  unfold Command.everything logConfig perform
  simp only [showStatus, showSecret, storeSecret, deleteSecret, showSettings, initSettings, hdirectory,
    hprovider, hsession, hfallback]

end

/-! ### Whole runs -/

theorem Outcome.alike_of_seem {p p' : Process} (exit : Nat) (h : Seem Any Remains p p') :
    Outcome.Alike (.of exit p) (.of exit p') where
  exit := rfl
  output := h.output
  errors := congrArg Journal.lines h.journal
  files := h.backends.disk
  logs := by
    intro names bytes mode serial hplain hfile
    change p'.backends.disk.find? names = _
    have hnode := h.backends.disk.nodes names
    rw [show p.backends.disk.find? names = _ from hfile] at hnode
    generalize p'.backends.disk.find? names = found at hnode ⊢
    cases hnode with
    | some hnode =>
        cases hnode with
        | file _ _ contents => rw [contents.same_of_unbraced hplain]

/-- Without a secret asked for in the clear, nothing that is seen of a run depends on the passwords and
values that are stored, before it or by it. -/
theorem execute_alike {e e' : Environment} (he : SameSurroundings e e') (stamp : String)
    {i i' : Invocation} (hi : i.Alike i') {b b' : Backends Unit} (hb : b.Seem Eq Masked b') :
    (execute e stamp i b).Alike (execute e' stamp i' b') := by
  obtain ⟨directory, verbosity, quiet, security, action⟩ := i'
  obtain ⟨hdirectory, hverbosity, hquiet, hsecurity, haction⟩ := hi
  cases hdirectory
  cases hverbosity
  cases hquiet
  cases hsecurity
  have hstart : Seem Eq Masked ⟨b, { Journal.empty with stamp }, ""⟩ ⟨b', { Journal.empty with stamp }, ""⟩ :=
    ⟨rfl, rfl, hb⟩
  have hrun := everything_agree hstart e i haction
  rw [execute, execute, he.everything]
  generalize everything e i ⟨b, { Journal.empty with stamp }, ""⟩ = result at hrun
  generalize everything e { i with action } ⟨b', { Journal.empty with stamp }, ""⟩ = result' at hrun
  cases hrun with
  | ok answers states => exact Outcome.alike_of_seem 0 states
  | error f states =>
      apply Outcome.alike_of_seem
      refine ⟨?_, states.output, states.backends⟩
      dsimp only
      rw [states.journal]

/-- A document with one credential, in the place where it is looked for. -/
def shelf (password : String) : Backends Unit where
  disk :=
    let document := StoreDocument.empty.insert "credstore:Credential" "mail"
      (Secret.credential ⟨"ann", password⟩).encodeDocument
    ⟨[(["credstore", "insecure-store.json"], .file document.render.toUTF8 0o600 0),
      (["credstore"], .directory)], [], [], 1⟩
  keyring := .empty
  rest := ()

theorem seem_shelf (password password' : String) :
    (shelf password).Seem Eq Masked (shelf password') := by
  let key : NativeKey := ⟨"credstore", "Credential", "mail", by decide, by decide⟩
  have hface : SameFace (.credential ⟨"ann", password⟩) (.credential ⟨"ann", password'⟩) :=
    .credential ..
  have hempty : StoreDocument.Veiled .empty .empty := .refl (Nat.le_refl 1)
  have hveiled := @StoreDocument.Veiled.insert _ _ hempty key _ _ hface rfl
  have hbytes := Masked.stored hveiled ""
  rw [String.append_empty, String.append_empty] at hbytes
  have hroom : Disk.Sound ⟨[(["credstore"], .directory)], [], [], 0⟩ :=
    @Disk.Sound.bind _ [] "credstore" (Disk.sound_blank []) .directory 0 rfl (by decide) (Nat.le_refl _)
      (by simp)
  refine ⟨rfl, ?_, ?_⟩
  · have hbefore := Disk.Alike.refl (fun _ => Masked.same) ⟨[(["credstore"], .directory)], [], [], 0⟩
    exact hbefore.bind (by decide : ["credstore", "insecure-store.json"] ≠ []) (.file 0o600 0 hbytes) 1
  · refine @Disk.Sound.bind _ ["credstore"] "insecure-store.json" hroom _ 1 rfl (by decide) (by decide) ?_
    rintro bytes mode own ⟨⟩
    exact ⟨Nat.one_pos, fun _ _ _ hother => absurd (hroom.fresh hother) (Nat.not_lt_zero _)⟩

/-- Two credentials that only their passwords tell apart, looked at behind the mask. -/
theorem execute_alike_shelf :
    (execute ⟨[("XDG_DATA_HOME", "/"), ("XDG_CONFIG_HOME", "/")], none⟩ ""
      ⟨none, 2, false, none, .get .credential "mail" .table false⟩ (shelf "swordfish")).Alike
    (execute ⟨[("XDG_DATA_HOME", "/"), ("XDG_CONFIG_HOME", "/")], none⟩ ""
      ⟨none, 2, false, none, .get .credential "mail" .table false⟩ (shelf "open sesame")) := by
  apply execute_alike
  · exact ⟨rfl, fun _ _ _ => rfl⟩
  · exact ⟨rfl, rfl, rfl, rfl, .same rfl⟩
  · exact seem_shelf _ _

end Strongbox.Command
