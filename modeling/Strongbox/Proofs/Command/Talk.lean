import Strongbox.Proofs.Command.Initialising
import Strongbox.Proofs.Command.Masking
import Strongbox.Proofs.Command.Reporting
import Strongbox.Proofs.SecretStore.Abreast
/-! Runs of one command that talk more or less. How much of a run is told decides what goes into the log and
nothing else, as long as the log is not a file that the run reads. -/
namespace Strongbox

open Call (Agree)
open Disk (ButFor Nowhere)
open Log

variable {handle? : Option Handle} {P Q : String → Prop}

namespace Log.Journal

/-- Whatever two logs put into what they have open, nothing else comes to differ. -/
theorem take_abreast {j j' : Journal} {disk disk' : Disk} (hj : j.handle? = handle?)
    (hj' : j'.handle? = handle?) (h : disk.Abreast handle? P disk') (events events' : List Event) :
    (take events j disk).2.Abreast handle? P (take events' j' disk').2 := by
  have hline : ∀ {j : Journal} {other : Disk}, j.handle? = handle? → ∀ handle, j.handle? = some handle →
      ∀ (text : String) (disk : Disk), disk.Abreast handle? P other →
        (Disk.extend handle text.toUTF8 disk).Abreast handle? P other := by
    intro j other hj handle hhandle text disk hdisk
    rw [hj] at hhandle
    subst hhandle
    exact hdisk.line text.toUTF8
  have hleft : (take events j disk).2.Abreast handle? P disk' := take_keeps (hline hj) events h
  have hright : (take events' j' disk').2.Abreast handle? P (take events j disk).2 :=
    take_keeps (hline hj') events' hleft.symm
  exact hright.symm

end Log.Journal

namespace SettingsDirectory

variable {disk disk' : Disk}

theorem load_abreast (d : SettingsDirectory) (h : disk.Abreast handle? P disk') (hpath : P d.file) :
    (d.load disk').1 = (d.load disk).1 ∧ (d.load disk).2.Abreast handle? P (d.load disk').2 := by
  have hread := h.readText hpath
  unfold load
  generalize Disk.readText d.file disk = result at hread
  generalize Disk.readText d.file disk' = result' at hread
  cases hread with
  | ok answers states =>
      cases answers
      exact ⟨rfl, states⟩
  | error e states => cases e <;> exact ⟨rfl, states⟩

theorem save_abreast (d : SettingsDirectory) (h : disk.Abreast handle? P disk') (s : Settings) :
    (d.save s disk').1 = (d.save s disk).1 ∧ (d.save s disk).2.Abreast handle? Nowhere (d.save s disk').2 := by
  obtain ⟨htold, halike⟩ := d.save_agree h.alike h.sound (fun _ _ => .inr rfl) s
  exact ⟨htold, halike, d.sound_save h.sound s, fun _ => False.elim⟩

end SettingsDirectory

namespace Command

open Backends (Among)

/-- Runs that have come equally far, over disks that differ in what is open for the log. -/
structure Abreast (handle? : Option Handle) (P : String → Prop) (w w' : Process) : Prop where
  output : w'.output = w.output
  opened : w.journal.handle? = handle?
  opened' : w'.journal.handle? = handle?
  backends : w.backends.Abreast handle? P w'.backends

variable {e : Environment} {i : Invocation} {b : Backends Unit} {w w' : Process} {q : Provider Unit}
variable {α β ε : Type}

theorem Abreast.nowhere (h : Abreast handle? P w w') : Abreast handle? Nowhere w w' :=
  ⟨h.output, h.opened, h.opened', h.backends.nowhere⟩

theorem abreast_nowhere {R : α → β → Prop} {result : EStateM.Result Failure Process α}
    {result' : EStateM.Result Failure Process β} (h : Agree R (Abreast handle? P) result result') :
    Agree R (Abreast handle? Nowhere) result result' :=
  h.weaken fun _ _ => Abreast.nowhere

/-! ### Steps -/

/-- The logs may even be told different events. -/
theorem note_abreast {R : α → β → Prop} (h : Abreast handle? P w w') {l : Logged α} {l' : Logged β}
    (hvalue : R l.value l'.value) : Agree R (Abreast handle? P) (note l w) (note l' w') := by
  have hdisk := Journal.take_abreast h.opened h.opened' h.backends.disk l.events l'.events
  exact .ok hvalue ⟨h.output, (Journal.handle?_take ..).trans h.opened,
    (Journal.handle?_take ..).trans h.opened', h.backends.keyring, hdisk⟩

theorem orFail_abreast (h : Abreast handle? P w w') (failure : ε → Failure) (answer : Except ε α) :
    Agree Eq (Abreast handle? P) (orFail failure answer w) (orFail failure answer w') := by
  cases answer with
  | ok a => exact .ok rfl h
  | error e => exact .error _ h

theorem print_abreast (h : Abreast handle? P w w') (text : String) :
    Agree Eq (Abreast handle? P) (print text w) (print text w') :=
  .ok rfl ⟨congrArg (· ++ text) h.output, h.opened, h.opened', h.backends⟩

theorem onDisk_abreast (h : Abreast handle? P w w') {call : Disk → Logged α × Disk}
    (hcall : (call w'.backends.disk).1 = (call w.backends.disk).1 ∧
      (call w.backends.disk).2.Abreast handle? Q (call w'.backends.disk).2) :
    Agree (fun a a' => a = a' ∧ a = (call w.backends.disk).1.value) (Abreast handle? Q) (onDisk call w)
      (onDisk call w') := by
  have hstep : Abreast handle? Q { w with backends := { w.backends with disk := (call w.backends.disk).2 } }
      { w' with backends := { w'.backends with disk := (call w'.backends.disk).2 } } :=
    ⟨h.output, h.opened, h.opened', h.backends.keyring, hcall.2⟩
  exact note_abreast hstep ⟨congrArg Logged.value hcall.1.symm, rfl⟩

theorem onStore_abreast (h : Abreast handle? P w w') {call : Backends Unit → Logged α × Backends Unit}
    (hcall : SecretStore.Keeps handle? Q call w.backends w'.backends) :
    Agree Eq (Abreast handle? Q) (onStore call w) (onStore call w') := by
  have hstep : Abreast handle? Q { w with backends := (call w.backends).2 }
      { w' with backends := (call w'.backends).2 } := ⟨h.output, h.opened, h.opened', hcall.2⟩
  exact note_abreast hstep (congrArg Logged.value hcall.1.symm)

/-! ### Settings, provider and store -/

/-- What a command reads: the settings, and the file of the store that they name. -/
inductive Reads (e : Environment) (i : Invocation) (disk : Disk) : String → Prop
  | settings {d : SettingsDirectory} (hd : directoryOf e i = .ok d) : Reads e i disk d.file
  | store {s : Settings} {path : String} (hs : Loads e i disk s) (hpath : s.fallbackPath e = .ok path) :
      Reads e i disk path

theorem loadSettings_abreast (h : Abreast handle? P w w')
    (hreads : ∀ path, Reads e i w.backends.disk path → P path) :
    Agree (fun s s' => s = s' ∧ Loads e i w.backends.disk s) (Abreast handle? P) (loadSettings e i w)
      (loadSettings e i w') := by
  unfold loadSettings
  cases hd : directoryOf e i with
  | error failure => exact .error _ h
  | ok d =>
      rw [orFail_of_ok noDirectory rfl, orFail_of_ok noDirectory rfl]
      refine (onDisk_abreast h (d.load_abreast h.backends.disk (hreads _ (.settings hd)))).bind ?_
      rintro answer _ w₁ w₁' ⟨rfl, hanswer⟩ hw
      cases answer with
      | error failure => exact .error _ hw
      | ok s => exact .ok ⟨rfl, d, hd, hanswer.symm⟩ hw

theorem loadProvider_abreast (h : Abreast handle? P w w')
    (hreads : ∀ path, Reads e i w.backends.disk path → P path) :
    Agree (fun q q' => q = q' ∧ LooksForKeyring q ∧ P q.fallback) (Abreast handle? P) (loadProvider e i w)
      (loadProvider e i w') := by
  refine (loadSettings_abreast h hreads).bind ?_
  rintro s _ w₁ w₁' ⟨rfl, hs⟩ hw
  cases hprovider : (Provider.ofSettings e s : Except SettingsError (Provider Unit)) with
  | error failure => exact .error _ hw
  | ok q =>
      refine .ok ⟨rfl, looksForKeyring_of_settings hprovider i.security, ?_⟩ hw
      rw [withSecurity_eq]
      exact hreads _ (.store hs (Provider.follows_of_settings hprovider).fallback)

theorem among_of_store (hq : LooksForKeyring q) (hpath : P q.fallback) {format : SecretFormat α}
    {s : SecretStore (Backends Unit) α} (h : (q.store q.level format b).value = .ok s) :
    Among P s.native := by
  simp only [Provider.store, Logged.map] at h
  cases hselect : (q.select q.level b).value with
  | error e =>
      rw [hselect] at h
      cases h
  | ok native =>
      rw [hselect] at h
      rw [(SecretStore.make_eq_ok h).1]
      rcases native_of_select hq hselect with rfl | ⟨p, rfl⟩
      · exact .file hpath
      · exact .secret p

theorem openStore_abreast (h : Abreast handle? P w w') (hq : LooksForKeyring q) (hpath : P q.fallback)
    (format : SecretFormat α) :
    Agree (fun s s' => s = s' ∧ Among P s.native) (Abreast handle? P) (openStore q format w)
      (openStore q format w') := by
  have hsame : q.store q.level format w'.backends = q.store q.level format w.backends := by
    unfold Provider.store
    rw [select_eq hq h.backends.keyring.symm]
  have hnote : Agree (fun x x' => x = x' ∧ x = (q.store q.level format w.backends).value)
      (Abreast handle? P) (note (q.store q.level format w.backends) w)
      (note (q.store q.level format w'.backends) w') := by
    apply note_abreast h
    rw [hsame]
    exact ⟨rfl, rfl⟩
  rw [openStore, readBackends_bind, readBackends_bind]
  refine hnote.bind ?_
  rintro answer _ w₁ w₁' ⟨rfl, hanswer⟩ hw
  cases answer with
  | error failure => exact .error _ hw
  | ok s => exact .ok ⟨rfl, among_of_store hq hpath hanswer.symm⟩ hw

theorem reach_abreast (h : Abreast handle? P w w')
    (hreads : ∀ path, Reads e i w.backends.disk path → P path) (kind : SecretKind) :
    Agree (fun s s' => s = s' ∧ Among P s.native) (Abreast handle? P) (reach e i kind w)
      (reach e i kind w') := by
  refine (loadProvider_abreast h hreads).bind ?_
  rintro q _ w₁ w₁' ⟨rfl, hq, hpath⟩ hw
  exact openStore_abreast hw hq hpath kind.format

theorem warn_abreast (h : Abreast handle? P w w') (s : SecretStore (Backends Unit) α) :
    Agree Eq (Abreast handle? P) (warn s w) (warn s w') := by
  unfold warn
  split
  · exact .ok rfl h
  · exact note_abreast h rfl

/-! ### Commands -/

section

variable (h : Abreast handle? P w w') (hreads : ∀ path, Reads e i w.backends.disk path → P path)

include h hreads

theorem showStatus_abreast (format : Format) :
    Agree Eq (Abreast handle? P) (showStatus e i format w) (showStatus e i format w') := by
  refine (loadProvider_abreast h hreads).bind ?_
  rintro q _ w₁ w₁' ⟨rfl, hq, -⟩ hw
  have hdetected : Agree Eq (Abreast handle? P)
      (note (Detector.keyring e.session? q.platform q.space w₁.backends) w₁)
      (note (Detector.keyring e.session? q.platform q.space w₁'.backends) w₁') := by
    apply note_abreast hw
    rw [detect_eq hw.backends.keyring.symm]
  rw [readBackends_bind, readBackends_bind]
  refine hdetected.bind ?_
  rintro detected _ w₂ w₂' rfl hw
  have hselected : Agree Eq (Abreast handle? P) (note (q.select q.level w₂.backends) w₂)
      (note (q.select q.level w₂'.backends) w₂') := by
    apply note_abreast hw
    rw [select_eq hq hw.backends.keyring.symm]
  rw [readBackends_bind, readBackends_bind]
  refine hselected.bind ?_
  rintro chosen _ w₃ w₃' rfl hw
  exact print_abreast hw _

theorem showSecret_abreast (kind : SecretKind) (key : String) (format : Format) (reveal : Bool) :
    Agree Eq (Abreast handle? P) (showSecret e i kind key format reveal w)
      (showSecret e i kind key format reveal w') := by
  rw [showSecret_eq]
  refine (reach_abreast h hreads kind).bind ?_
  rintro s _ w₁ w₁' ⟨rfl, hs⟩ hw
  refine (onStore_abreast hw (SecretStore.get_keeps hs hw.backends key)).bind ?_
  rintro found _ w₂ w₂' rfl hw
  cases found with
  | none => exact .error _ hw
  | some a => exact print_abreast hw _

theorem storeSecret_abreast (key : String) (proposal : Proposal) :
    Agree Eq (Abreast handle? Nowhere) (storeSecret e i key proposal w)
      (storeSecret e i key proposal w') := by
  rw [storeSecret_eq]
  refine (loadProvider_abreast h hreads).bindInto (fun _ _ => Abreast.nowhere) ?_
  rintro q _ w₁ w₁' ⟨rfl, hq, hpath⟩ hw
  refine (orFail_abreast hw id proposal.check).bindInto (fun _ _ => Abreast.nowhere) ?_
  rintro secret _ w₁ w₁' rfl hw
  refine (openStore_abreast hw hq hpath secret.kind.format).bindInto (fun _ _ => Abreast.nowhere) ?_
  rintro s _ w₂ w₂' ⟨rfl, hs⟩ hw
  refine (warn_abreast hw s).bindInto (fun _ _ => Abreast.nowhere) ?_
  rintro _ _ w₃ w₃' - hw
  refine (onStore_abreast hw (SecretStore.add_keeps hs hw.backends key secret.content)).bind ?_
  rintro added _ w₄ w₄' rfl hw
  cases added with
  | true => exact print_abreast hw _
  | false => exact .error _ hw

theorem deleteSecret_abreast (kind : SecretKind) (key : String) :
    Agree Eq (Abreast handle? Nowhere) (deleteSecret e i kind key w) (deleteSecret e i kind key w') := by
  rw [deleteSecret_eq]
  refine (reach_abreast h hreads kind).bindInto (fun _ _ => Abreast.nowhere) ?_
  rintro s _ w₁ w₁' ⟨rfl, hs⟩ hw
  refine (onStore_abreast hw (SecretStore.delete_keeps hs hw.backends key)).bind ?_
  rintro deleted _ w₂ w₂' rfl hw
  cases deleted with
  | true => exact print_abreast hw _
  | false => exact .error _ hw

theorem showSettings_abreast :
    Agree Eq (Abreast handle? P) (showSettings e i w) (showSettings e i w') := by
  unfold showSettings
  cases hd : directoryOf e i with
  | error failure => exact .error _ h
  | ok d =>
      rw [orFail_of_ok noDirectory rfl, orFail_of_ok noDirectory rfl]
      refine (onDisk_abreast h (d.load_abreast h.backends.disk (hreads _ (.settings hd)))).bind ?_
      rintro answer _ w₁ w₁' ⟨rfl, -⟩ hw
      refine (orFail_abreast hw Failure.ofSettings answer).bind ?_
      rintro s _ w₂ w₂' rfl hw
      refine (orFail_abreast hw Failure.ofSettings (s.fallbackPath e)).bind ?_
      rintro fallback _ w₃ w₃' rfl hw
      exact print_abreast hw _

omit hreads in
theorem initSettings_abreast (space fallback : Option String) (force : Bool) :
    Agree Eq (Abreast handle? Nowhere) (initSettings e i space fallback force w)
      (initSettings e i space fallback force w') := by
  refine (orFail_abreast h.nowhere noDirectory (directoryOf e i)).bind ?_
  rintro d _ w₁ w₁' rfl hw
  rw [readBackends_bind, readBackends_bind, hw.backends.disk.alike.existsAt]
  cases (w₁.backends.disk.existsAt d.file && !force) with
  | true => exact .error _ hw
  | false =>
      refine (onDisk_abreast hw (d.save_abreast hw.backends.disk _)).bind ?_
      rintro answer _ w₂ w₂' ⟨rfl, -⟩ hw
      refine (orFail_abreast hw Failure.ofSettings answer).bind ?_
      rintro _ _ w₃ w₃' - hw
      exact print_abreast hw _

theorem perform_abreast : Agree Eq (Abreast handle? Nowhere) (perform e i w) (perform e i w') := by
  unfold perform
  cases i.action with
  | status format => exact abreast_nowhere (showStatus_abreast h hreads format)
  | get kind key format reveal => exact abreast_nowhere (showSecret_abreast h hreads kind key format reveal)
  | set key proposal => exact storeSecret_abreast h hreads key proposal
  | delete kind key => exact deleteSecret_abreast h hreads kind key
  | showSettings => exact abreast_nowhere (showSettings_abreast h hreads)
  | initSettings space fallback force => exact initSettings_abreast h space fallback force

end

/-! ### Beginning -/

/-- The same command with other wishes about what is told. -/
def retold (i : Invocation) (verbosity : Nat) (quiet : Bool) : Invocation := { i with verbosity, quiet }

/-- What the settings say about the log does not depend on what the command line says about it. -/
theorem logConfig_retold (hcalm : ¬ Crashes e i b.disk) (stamp : String) :
    ∃ c disk, b.disk.Untouched disk ∧ (∃ filter, c.filter = .ok filter) ∧ ∀ verbosity quiet,
      logConfig e (retold i verbosity quiet) (started stamp b) =
        .ok (adjust (retold i verbosity quiet) c) (started stamp { b with disk }) := by
  cases hd : directoryOf e i with
  | error failure =>
      refine ⟨.standard, b.disk, .refl b.disk, ⟨_, rfl⟩, fun verbosity quiet => ?_⟩
      rw [logConfig, show directoryOf e (retold i verbosity quiet) = _ from hd]
      rfl
  | ok d =>
      cases hs : (d.load b.disk).1.value with
      | error failure =>
          refine ⟨.standard, _, d.load_untouched b.disk, ⟨_, rfl⟩, fun verbosity quiet => ?_⟩
          rw [logConfig, show directoryOf e (retold i verbosity quiet) = _ from hd]
          dsimp only
          rw [Call.bind_of_ok (load_started d stamp b), hs]
          cases failure with
          | crash reason => exact absurd ⟨d, reason, hd, hs⟩ hcalm
          | _ => rfl
      | ok s =>
          have hvalid := SettingsDirectory.validate_of_load hs
          refine ⟨s.logging.config, _, d.load_untouched b.disk,
            LogSettings.filter_of_validate (Settings.logging_of_validate hvalid), fun verbosity quiet => ?_⟩
          exact logConfig_of_loads (i := retold i verbosity quiet) hd hs stamp

/-- Two logs with one output open the same, whatever they are to show. -/
theorem startLog_abreast (hunset : w.journal.Unset) (hsound : w.backends.disk.Sound) {c c' : Config}
    {filter filter' : Filter} (hfilter : c.filter = .ok filter) (hfilter' : c'.filter = .ok filter')
    (houtput : c'.output = c.output) :
    ∃ handle?, Agree Eq (Abreast handle? Nowhere) (startLog c w) (startLog c' w) := by
  have hsame : ∀ {disk : Disk}, disk.Sound → ∀ handle?, disk.Abreast handle? Nowhere disk :=
    fun hsound _ => ⟨.refl Disk.butFor_refl _, hsound, fun _ => False.elim⟩
  have hevolves := Journal.openOutput_evolves hsound c.output
  have hstarts := starts_startLog hunset hfilter
  have hstarts' := starts_startLog hunset hfilter'
  generalize startLog c w = result at hstarts ⊢
  generalize startLog c' w = result' at hstarts' ⊢
  cases hstarts with
  | unopened hopen =>
      cases hstarts' with
      | unopened hopen' =>
          rw [houtput, hopen] at hopen'
          rw [hopen] at hevolves
          cases hopen'
          exact ⟨none, .ok rfl ⟨rfl, hunset.handle?, hunset.handle?, rfl, hsame (hevolves.sound hsound) none⟩⟩
      | opened hopen' =>
          rw [houtput, hopen] at hopen'
          cases hopen'
  | @opened handle disk hopen =>
      cases hstarts' with
      | unopened hopen' =>
          rw [houtput, hopen] at hopen'
          cases hopen'
      | opened hopen' =>
          rw [houtput, hopen] at hopen'
          rw [hopen] at hevolves
          cases hopen'
          have hlogged : Abreast handle Nowhere (logged w filter handle disk) (logged w filter' handle disk) :=
            ⟨rfl, rfl, rfl, rfl, hsame (hevolves.sound hsound) handle⟩
          exact ⟨handle, note_abreast hlogged rfl⟩

/-- A run that crashes on its settings does so whatever it is to tell. -/
theorem everything_retold_of_crash (h : Crashes e i b.disk) (stamp : String) (verbosity : Nat) (quiet : Bool) :
    everything e (retold i verbosity quiet) (started stamp b) = everything e i (started stamp b) ∧
      begun e stamp (retold i verbosity quiet) b = begun e stamp i b := by
  obtain ⟨d, reason, hd, hs⟩ := h
  have hconfig := logConfig_of_crash hd hs stamp
  have hconfig' := logConfig_of_crash (i := retold i verbosity quiet) hd hs stamp
  constructor
  · rw [everything, everything, Call.bind_of_error hconfig, Call.bind_of_error hconfig']
  · rw [begun, begun, Call.bind_of_error hconfig, Call.bind_of_error hconfig']

/-- Runs that are to tell more or less begin alike. -/
theorem begun_abreast (stamp : String) (i : Invocation) (hsound : b.disk.Sound) (verbosity : Nat)
    (quiet : Bool) : ∃ handle?, Abreast handle? Nowhere (begun e stamp i b)
      (begun e stamp (retold i verbosity quiet) b) := by
  by_cases hcrash : Crashes e i b.disk
  · obtain ⟨_, disk, -, hbegun, huntouched⟩ := everything_of_crash hcrash stamp
    rw [(everything_retold_of_crash hcrash stamp verbosity quiet).2, hbegun]
    exact ⟨none, rfl, rfl, rfl, rfl, .refl Disk.butFor_refl _, hsound.untouched huntouched, fun _ => False.elim⟩
  obtain ⟨c, disk, huntouched, ⟨filter, hfilter⟩, hconfig⟩ := logConfig_retold hcrash stamp
  obtain ⟨filter₁, hfilter₁⟩ := adjust_filter i hfilter
  obtain ⟨filter₂, hfilter₂⟩ := adjust_filter (retold i verbosity quiet) hfilter
  have houtput : (adjust (retold i verbosity quiet) c).output = (adjust i c).output := by
    rw [adjust_output, adjust_output]
  obtain ⟨handle?, hstart⟩ := startLog_abreast (w := started stamp { b with disk }) ⟨rfl, rfl⟩
    (hsound.untouched huntouched) hfilter₁ hfilter₂ houtput
  refine ⟨handle?, ?_⟩
  have hown : logConfig e i (started stamp b) = .ok (adjust i c) (started stamp { b with disk }) :=
    hconfig i.verbosity i.quiet
  rw [begun, begun, Call.bind_of_ok hown, Call.bind_of_ok (hconfig verbosity quiet)]
  exact hstart.after

/-- The log goes to no file that the command reads. -/
def LogApart (e : Environment) (i : Invocation) (disk : Disk) : Prop :=
  ∀ file, logOutput e i disk = .file file → ∀ path, Reads e i disk path → disk.Elsewhere path file

section

variable {disk : Disk} {file path : String} (hapart : LogApart e i b.disk)
variable (hlogged : OnlyLogged (logOutput e i b.disk) handle? b.disk disk)
variable (hfile : logOutput e i b.disk = .file file)

include hapart hlogged hfile

/-- The settings that have sent the log to a file are found as they were. -/
theorem contentAt_of_logged {d : SettingsDirectory} (hd : directoryOf e i = .ok d) :
    disk.contentAt d.file = b.disk.contentAt d.file := by
  obtain ⟨names, node, hentry, hfind⟩ := entryAt_of_logOutput hd hfile
  have hsame : disk.find? names = some node := by
    rw [← hfind]
    by_contra hne
    obtain ⟨path, houtput, hpath⟩ := hlogged.others names hne
    exact (hapart path houtput _ (.settings hd)).ne hentry hpath rfl
  rw [Disk.contentAt, (hlogged.evolves.keeps.entryAt hentry).status hsame, Disk.contentAt, hentry.status hfind]

theorem reads_of_logged (h : Reads e i disk path) : Reads e i b.disk path := by
  cases h with
  | settings hd => exact .settings hd
  | @store s _ hs hpath =>
      obtain ⟨d, hd, hload⟩ := hs
      have houtput := hfile
      rw [logOutput, hd] at houtput
      dsimp only at houtput
      cases hbefore : (d.load b.disk).1.value with
      | error failure =>
          rw [hbefore] at houtput
          cases houtput
      | ok s₀ =>
          obtain rfl := SettingsDirectory.load_unique (contentAt_of_logged hapart hlogged hfile hd) hbefore hload
          exact .store ⟨d, hd, hbefore⟩ hpath

end

/-- When the command begins, nothing that it reads leads to the log. -/
theorem reads_clear (hsound : b.disk.Sound) (hapart : LogApart e i b.disk) (stamp : String) (path : String)
    (h : Reads e i (begun e stamp i b).backends.disk path) :
    (begun e stamp i b).backends.disk.Clear (begun e stamp i b).journal.handle? path := by
  have hlogged := (silent_begun e stamp i b).logged hsound
  refine Disk.clear_of_elsewhere (hlogged.evolves.sound hsound) fun own hopen => ?_
  obtain ⟨file, names, bytes, mode, hfile, hentry, hfind⟩ := hlogged.opened _ hopen own rfl
  have helsewhere := hapart file hfile path (reads_of_logged hapart hlogged hfile h)
  exact ⟨file, names, bytes, mode, hlogged.back.elsewhere helsewhere, hentry, hfind⟩

/-! ### Whole runs -/

/-- The same was done, whatever was told of it: the disks are the same but for what the file holds that is open
for the log. -/
structure Outcome.SameDeed (handle? : Option Handle) (o o' : Outcome) : Prop where
  exit : o'.exit = o.exit
  output : o'.output = o.output
  keyring : o'.backends.keyring = o.backends.keyring
  files : Disk.Alike (ButFor handle?) o.backends.disk o'.backends.disk

theorem everything_abreast (hsound : b.disk.Sound) (hapart : LogApart e i b.disk) (stamp : String)
    (verbosity : Nat) (quiet : Bool) :
    Agree Eq (Abreast (begun e stamp i b).journal.handle? Nowhere) (everything e i (started stamp b))
      (everything e (retold i verbosity quiet) (started stamp b)) := by
  obtain ⟨handle?, hbegun⟩ := begun_abreast stamp i hsound verbosity quiet
  obtain rfl := hbegun.opened
  by_cases hcrash : Crashes e i b.disk
  · obtain ⟨hsame, hbegun'⟩ := everything_retold_of_crash hcrash stamp verbosity quiet
    obtain ⟨reason, _, hrun, -⟩ := everything_of_crash hcrash stamp
    rw [hbegun'] at hbegun
    rw [hsame, hrun]
    exact .error _ hbegun
  have hclear : Abreast (begun e stamp i b).journal.handle? (Reads e i (begun e stamp i b).backends.disk)
      (begun e stamp i b) (begun e stamp (retold i verbosity quiet) b) :=
    ⟨hbegun.output, hbegun.opened, hbegun.opened', hbegun.backends.keyring,
      hbegun.backends.disk.alike, hbegun.backends.disk.sound, reads_clear hsound hapart stamp⟩
  rw [(everything_eq hcrash stamp).1, (everything_eq (i := retold i verbosity quiet) hcrash stamp).1]
  exact perform_abreast hclear fun _ hpath => hpath

/-- How much of a run is told makes no difference to what is done. -/
theorem sameDeed_retold (hsound : b.disk.Sound) (hapart : LogApart e i b.disk) (stamp : String)
    (verbosity : Nat) (quiet : Bool) :
    (execute e stamp i b).SameDeed (begun e stamp i b).journal.handle?
      (execute e stamp (retold i verbosity quiet) b) := by
  have hrun := everything_abreast hsound hapart stamp verbosity quiet
  obtain ⟨hexit, houtput, hbackends⟩ := execute_everything e stamp i b
  obtain ⟨hexit', houtput', hbackends'⟩ := execute_everything e stamp (retold i verbosity quiet) b
  have hafter := hrun.after
  constructor
  · rw [hexit, hexit']
    generalize everything e i (started stamp b) = result at hrun
    generalize everything e (retold i verbosity quiet) (started stamp b) = result' at hrun
    cases hrun with
    | ok answers states => rfl
    | error f states => rfl
  · rw [houtput, houtput']
    exact hafter.output
  · rw [hbackends, hbackends']
    exact hafter.backends.keyring
  · rw [hbackends, hbackends']
    exact hafter.backends.disk.alike

end Command
end Strongbox
