import Strongbox.Proofs.Command.Steps
/-! What a run does before its command calls a store: it reads the settings, sets up the log and reports.
Whatever strikes its calls, nothing on the disk changes by this but the file of the log. -/
namespace Strongbox

open Log

/-- On the second disk nothing is new but the file of an output, to which `handle` leads if it is open. -/
structure OnlyLogged (output : Output) (handle? : Option Handle) (d d' : Disk) : Prop where
  evolves : d.Evolves d'
  back : d'.KeepsDirectories d
  others : ∀ names, d'.find? names ≠ d.find? names →
    ∃ path, output = .file path ∧ d.EntryAt path names
  opened : ∀ handle, handle? = some handle → Journal.OpenAt output d' handle

namespace OnlyLogged

variable {output : Output} {handle? : Option Handle} {d d₁ d₂ : Disk} {path : String}
variable {names : List String}

theorem refl (output : Output) (d : Disk) : OnlyLogged output none d d :=
  ⟨(Disk.Untouched.refl d).evolves, (Disk.Untouched.refl d).keeps, fun _ h => absurd rfl h, by simp⟩

theorem openAt_of_untouched (h : d₁.Untouched d₂) {handle : Handle}
    (hopen : Journal.OpenAt output d₁ handle) : Journal.OpenAt output d₂ handle := by
  intro serial hserial
  obtain ⟨file, names, bytes, mode, houtput, hentry, hfile⟩ := hopen serial hserial
  exact ⟨file, names, bytes, mode, houtput, h.keeps.entryAt hentry, (h.find? names).trans hfile⟩

theorem untouched (h : OnlyLogged output handle? d d₁) (h' : d₁.Untouched d₂) :
    OnlyLogged output handle? d d₂ where
  evolves := h.evolves.trans h'.evolves
  back := by
    obtain ⟨later, -, rfl⟩ := h'
    exact ⟨h.back.here, h.back.directories⟩
  others names hne := h.others names (by rwa [h'.find? names] at hne)
  opened handle hhandle := openAt_of_untouched h' (h.opened handle hhandle)

/-- The file of the output may be changed, and another handle may lead to it. -/
theorem changedAt (h : OnlyLogged output handle? d d₁) (houtput : output = .file path)
    (hentry : d₁.EntryAt path names) (hchanged : Disk.ChangedAt names d₁ d₂) {handle?' : Option Handle}
    (hopened : ∀ handle, handle?' = some handle → Journal.OpenAt output d₂ handle) :
    OnlyLogged output handle?' d d₂ where
  evolves := h.evolves.trans hchanged.evolves
  back := hchanged.back.trans h.back
  others names' hne := by
    by_cases heq : names' = names
    · rw [heq]
      exact ⟨path, houtput, h.back.entryAt hentry⟩
    · rw [hchanged.others heq] at hne
      exact h.others names' hne
  opened := hopened

theorem extend (h : OnlyLogged output handle? d d₁) (hsound : d.Sound) {handle : Handle}
    (hhandle : handle? = some handle) (bytes : ByteArray) :
    OnlyLogged output handle? d (Disk.extend handle bytes d₁) := by
  cases handle with
  | void => exact h
  | file serial =>
      obtain ⟨file, names, old, mode, houtput, hentry, hfile⟩ := h.opened _ hhandle serial rfl
      obtain ⟨hchanged, hthere⟩ := (h.evolves.sound hsound).changedAt_extend hfile bytes
      refine h.changedAt houtput hentry hchanged ?_
      intro handle' hhandle'
      rw [hhandle] at hhandle'
      cases hhandle'
      rintro serial' ⟨⟩
      exact ⟨file, names, old ++ bytes, mode, houtput, hchanged.evolves.keeps.entryAt hentry, hthere⟩

theorem take {j : Journal} (h : OnlyLogged output j.handle? d d₁) (hsound : d.Sound)
    (events : List Event) : OnlyLogged output j.handle? d (Journal.take events j d₁).2 :=
  Journal.take_keeps (fun _ hhandle text _ hdisk => hdisk.extend hsound hhandle text.toUTF8) events h

theorem openOutput (h : OnlyLogged output none d d₁) (hsound : d.Sound) :
    OnlyLogged output ((Journal.openOutput output d₁).1.toOption.bind id) d
      (Journal.openOutput output d₁).2 := by
  have hsound₁ := h.evolves.sound hsound
  have hopened : ∀ handle, (Journal.openOutput output d₁).1.toOption.bind id = some handle →
      Journal.OpenAt output (Journal.openOutput output d₁).2 handle := by
    intro handle hhandle
    cases hopen : (Journal.openOutput output d₁).1 with
    | error e =>
        rw [hopen] at hhandle
        cases hhandle
    | ok handle? =>
        rw [hopen] at hhandle
        obtain rfl : handle? = some handle := hhandle
        exact Journal.openAt_of_openOutput hsound₁ hopen
  cases output with
  | standardError => exact ⟨h.evolves, h.back, h.others, hopened⟩
  | file path =>
      have hleft : (Journal.openOutput (.file path) d₁).2 = Call.after (Disk.openAppend path d₁) := by
        rw [Journal.openOutput]
        cases Disk.openAppend path d₁ <;> rfl
      rw [hleft] at hopened ⊢
      have hsame : d₁.Untouched (Call.after (Disk.openAppend path d₁)) →
          OnlyLogged (.file path) ((Journal.openOutput (.file path) d₁).1.toOption.bind id) d
            (Call.after (Disk.openAppend path d₁)) := by
        intro huntouched
        obtain ⟨hevolves, hback, hothers, -⟩ := h.untouched huntouched
        exact ⟨hevolves, hback, hothers, hopened⟩
      cases hopen : Disk.openAppend path d₁ with
      | error e d' =>
          rw [hopen] at hsame
          exact hsame (Disk.openFile_eq_error hopen)
      | ok handle d' =>
          rw [hopen] at hsame hopened
          rcases Disk.openAppend_cases hsound₁ hopen with ⟨-, huntouched⟩ |
            ⟨names, mode, serial, -, hentry, ⟨-, huntouched⟩ | ⟨-, hchanged, -⟩⟩
          · exact hsame huntouched
          · exact hsame huntouched
          · exact h.changedAt rfl hentry hchanged hopened

/-- A path that does not lead to the log finds what it found. -/
theorem nodeAt? {other : String} (h : OnlyLogged output handle? d d₁)
    (helsewhere : ∀ path, output = .file path → d.Elsewhere other path) :
    d₁.nodeAt? other = d.nodeAt? other := by
  refine Disk.nodeAt?_of_same h.evolves.keeps h.back fun above name slash hspot => ?_
  by_contra hne
  obtain ⟨path, houtput, hentry⟩ := h.others _ hne
  exact helsewhere path houtput above name slash _ hspot hentry rfl

end OnlyLogged

namespace Command

/-- A process that has printed nothing and changed nothing but its log. -/
structure Silent (output : Output) (b : Backends Unit) (w : Process) : Prop where
  keyring : w.backends.keyring = b.keyring
  printed : w.output = ""
  logged : b.disk.Sound → OnlyLogged output w.journal.handle? b.disk w.backends.disk

/-- A step after which a silent process is silent still, whether it goes on or not. -/
def StaysSilent {α : Type} (step : Run α) : Prop :=
  ∀ ⦃output b w⦄, Silent output b w → Silent output b (Call.after (step w))

namespace StaysSilent

variable {α β ε : Type}

theorem pure (a : α) : StaysSilent (pure a) := fun _ _ _ h => h

theorem orFail (failure : ε → Failure) (answer : Except ε α) : StaysSilent (orFail failure answer) := by
  cases answer with
  | ok a => exact fun _ _ _ h => h
  | error e => exact fun _ _ _ h => h

theorem bind {step : Run α} {next : α → Run β} (h : StaysSilent step)
    (hnext : ∀ a, StaysSilent (next a)) : StaysSilent (step >>= next) := by
  intro output b w
  exact Call.Moves.bind (R := fun w w' => Silent output b w → Silent output b w')
    (fun h h' hw => h' (h hw)) (fun _ hw => h hw) (fun a _ hw => hnext a hw) w

theorem note (l : Logged α) : StaysSilent (note l) := by
  intro output b w h
  refine ⟨h.keyring, h.printed, fun hsound => ?_⟩
  have htaken := (h.logged hsound).take hsound l.events
  rwa [← Journal.handle?_take l.events] at htaken

theorem readBackends_bind {next : Backends Unit → Run α} (hnext : ∀ b, StaysSilent (next b)) :
    StaysSilent (readBackends >>= next) := by
  intro output b w h
  rw [Command.readBackends_bind]
  exact hnext w.backends h

theorem load (d : SettingsDirectory) : StaysSilent (onDisk d.load) := by
  intro output b w h
  refine note (d.load w.backends.disk).1 ⟨h.keyring, h.printed, fun hsound => ?_⟩
  exact (h.logged hsound).untouched (d.load_untouched w.backends.disk)

theorem loadProvider (e : Environment) (i : Invocation) : StaysSilent (loadProvider e i) := by
  refine bind (bind (orFail _ _) fun d => bind (load d) fun answer => orFail _ answer) fun s => ?_
  exact bind (orFail _ _) fun p => pure _

theorem openStore (p : Provider Unit) (format : SecretFormat α) : StaysSilent (openStore p format) :=
  readBackends_bind fun _ => bind (note _) fun answer => orFail _ answer

end StaysSilent

/-! ### Setting up the log -/

/-- Where the log of a run goes: where the settings say, if they can be loaded. -/
def logOutput (e : Environment) (i : Invocation) (disk : Disk) : Output :=
  match directoryOf e i with
  | .error _ => .standardError
  | .ok d => match (d.load disk).1.value with
    | .ok s => s.logging.config.output
    | .error _ => .standardError

/-- To load its settings brings a run down: their filter is torn. -/
def Crashes (e : Environment) (i : Invocation) (disk : Disk) : Prop :=
  ∃ d reason, directoryOf e i = .ok d ∧ (d.load disk).1.value = .error (.crash reason)

/-- The settings that a run crashes on are in their file, with a filter that is torn. -/
theorem torn_of_crashes {e : Environment} {i : Invocation} {disk : Disk} (h : Crashes e i disk) :
    ∃ d text s, directoryOf e i = .ok d ∧ disk.contentAt d.file = .ok text.toUTF8 ∧
      Settings.read? text = some s ∧ s.logging.config.Torn := by
  obtain ⟨d, reason, hd, hload⟩ := h
  obtain ⟨text, hcontent, hsettings⟩ := SettingsDirectory.content_of_crash hload
  rw [SettingsDirectory.settingsOf] at hsettings
  cases hread : Settings.read? text with
  | none =>
      rw [hread] at hsettings
      cases hsettings
  | some s =>
      rw [hread] at hsettings
      dsimp only at hsettings
      cases hvalid : s.validate with
      | ok u =>
          rw [hvalid] at hsettings
          cases hsettings
      | error e =>
          rw [hvalid] at hsettings
          cases hsettings
          exact ⟨d, text, s, hd, hcontent, hread, Settings.torn_of_crash hvalid⟩

theorem logConfig_eq_ok {e : Environment} {i : Invocation} {b : Backends Unit} (h : ¬ Crashes e i b.disk)
    (stamp : String) : ∃ c disk filter,
      logConfig e i (started stamp b) = .ok c (started stamp { b with disk }) ∧ b.disk.Untouched disk ∧
        c.output = logOutput e i b.disk ∧ c.filter = .ok filter := by
  have hstandard : Config.standard.filter = .ok (.ofLevel Config.ownTarget .warn) := rfl
  unfold logOutput
  cases hd : directoryOf e i with
  | error failure =>
      obtain ⟨filter, hfilter⟩ := adjust_filter i hstandard
      rw [logConfig, hd]
      exact ⟨_, b.disk, filter, rfl, .refl b.disk, adjust_output i .standard, hfilter⟩
  | ok d =>
      dsimp only
      cases hs : (d.load b.disk).1.value with
      | ok s =>
          have hvalid := SettingsDirectory.validate_of_load hs
          obtain ⟨_, hread⟩ := LogSettings.filter_of_validate (Settings.logging_of_validate hvalid)
          obtain ⟨filter, hfilter⟩ := adjust_filter i hread
          exact ⟨_, _, filter, logConfig_of_loads hd hs stamp, d.load_untouched b.disk,
            adjust_output i s.logging.config, hfilter⟩
      | error failure =>
          obtain ⟨filter, hfilter⟩ := adjust_filter i hstandard
          refine ⟨_, _, filter, ?_, d.load_untouched b.disk, adjust_output i .standard, hfilter⟩
          rw [logConfig, hd]
          dsimp only
          rw [Call.bind_of_ok (load_started d stamp b), hs]
          cases failure with
          | crash reason => exact absurd ⟨d, reason, hd, hs⟩ h
          | _ => rfl

theorem logConfig_of_crash {e : Environment} {i : Invocation} {b : Backends Unit} {d : SettingsDirectory}
    {reason : String} (hd : directoryOf e i = .ok d) (hs : (d.load b.disk).1.value = .error (.crash reason))
    (stamp : String) : logConfig e i (started stamp b) =
      .error (.crash reason) (started stamp { b with disk := (d.load b.disk).2 }) := by
  rw [logConfig, hd]
  dsimp only
  rw [Call.bind_of_ok (load_started d stamp b), hs]
  rfl

/-- A process that goes on without a log. -/
def unlogged (w : Process) (reason : LogError) (disk : Disk) : Process where
  backends := { w.backends with disk }
  journal := { w.journal with lines := w.journal.lines ++ ["Warning: logging disabled: " ++ reason.message] }
  output := w.output

/-- A process whose log is open. -/
def logged (w : Process) (filter : Filter) (handle : Option Handle) (disk : Disk) : Process where
  backends := { w.backends with disk }
  journal := { w.journal with claimed := true, sink := some ⟨filter, handle⟩ }
  output := w.output

/-- How the log of a process is set up: not at all, or with a first event. -/
inductive Starts (c : Config) (filter : Filter) (w : Process) : EStateM.Result Failure Process Unit → Prop
  | unopened {reason : LogError} {disk : Disk}
      (hopen : Journal.openOutput c.output w.backends.disk = (.error reason, disk)) :
      Starts c filter w (.ok () (unlogged w reason disk))
  | opened {handle : Option Handle} {disk : Disk}
      (hopen : Journal.openOutput c.output w.backends.disk = (.ok handle, disk)) :
      Starts c filter w (note ⟨(), [Journal.opened c]⟩ (logged w filter handle disk))

theorem starts_startLog {w : Process} (hunset : w.journal.Unset) {c : Config} {filter : Filter}
    (hfilter : c.filter = .ok filter) : Starts c filter w (startLog c w) := by
  have hstart := Journal.start_of_unset hunset c w.backends.disk
  rw [hfilter] at hstart
  dsimp only at hstart
  unfold startLog
  cases hopen : Journal.openOutput c.output w.backends.disk with
  | mk answer disk =>
      rw [hopen] at hstart
      rw [hstart]
      cases answer with
      | ok handle => exact .opened hopen
      | error reason =>
          obtain ⟨text, rfl⟩ := Journal.openOutput_eq_error (congrArg Prod.fst hopen)
          exact .unopened hopen

/-- A log whose file cannot be opened keeps its process from nothing. -/
theorem startLog_eq_ok {w : Process} {b : Backends Unit} (hunset : w.journal.Unset) {c : Config}
    {filter : Filter} (hfilter : c.filter = .ok filter) (h : Silent c.output b w) :
    ∃ w', startLog c w = .ok () w' ∧ Silent c.output b w' := by
  have hnone := hunset.handle?
  have hopened : b.disk.Sound → OnlyLogged c.output
      ((Journal.openOutput c.output w.backends.disk).1.toOption.bind id) b.disk
      (Journal.openOutput c.output w.backends.disk).2 :=
    fun hsound => (hnone ▸ h.logged hsound).openOutput hsound
  have hstarts := starts_startLog hunset hfilter
  generalize startLog c w = result at hstarts ⊢
  cases hstarts with
  | @unopened reason disk hopen =>
      rw [hopen] at hopened
      have hunlogged : (unlogged w reason disk).journal.handle? = none := hnone
      refine ⟨_, rfl, h.keyring, h.printed, fun hsound => ?_⟩
      rw [hunlogged]
      exact hopened hsound
  | @opened handle disk hopen =>
      rw [hopen] at hopened
      have hlogged : Silent c.output b (logged w filter handle disk) := ⟨h.keyring, h.printed, hopened⟩
      exact ⟨_, rfl, StaysSilent.note ⟨(), [Journal.opened c]⟩ hlogged⟩

/-- A process at the time when its command begins. -/
def begun (e : Environment) (stamp : String) (i : Invocation) (b : Backends Unit) : Process :=
  Call.after ((logConfig e i >>= startLog) (started stamp b))

variable {e : Environment} {i : Invocation} {b : Backends Unit}

/-- A run that does not crash on its settings comes to its command. -/
theorem everything_eq (h : ¬ Crashes e i b.disk) (stamp : String) :
    everything e i (started stamp b) = perform e i (begun e stamp i b) ∧
      Silent (logOutput e i b.disk) b (begun e stamp i b) := by
  obtain ⟨c, disk, filter, hconfig, huntouched, houtput, hfilter⟩ := logConfig_eq_ok h stamp
  have hsilent : Silent c.output b (started stamp { b with disk }) :=
    ⟨rfl, rfl, fun _ => (OnlyLogged.refl c.output b.disk).untouched huntouched⟩
  obtain ⟨w, hlog, hw⟩ := startLog_eq_ok ⟨rfl, rfl⟩ hfilter hsilent
  have hbegun : begun e stamp i b = w := by
    rw [begun, Call.bind_of_ok hconfig, hlog]
    rfl
  rw [hbegun, ← houtput]
  refine ⟨?_, hw⟩
  rw [everything, Call.bind_of_ok hconfig, Call.bind_of_ok hlog]

/-- A run that crashes on its settings does so before there is a log. -/
theorem everything_of_crash (h : Crashes e i b.disk) (stamp : String) : ∃ reason disk,
    everything e i (started stamp b) = .error (.crash reason) (begun e stamp i b) ∧
      begun e stamp i b = started stamp { b with disk } ∧ b.disk.Untouched disk := by
  obtain ⟨d, reason, hd, hs⟩ := h
  have hconfig := logConfig_of_crash hd hs stamp
  have hbegun : begun e stamp i b = started stamp { b with disk := (d.load b.disk).2 } := by
    rw [begun, Call.bind_of_error hconfig]
    rfl
  refine ⟨reason, _, ?_, hbegun, d.load_untouched b.disk⟩
  rw [everything, Call.bind_of_error hconfig, hbegun]

theorem silent_begun (e : Environment) (stamp : String) (i : Invocation) (b : Backends Unit) :
    Silent (logOutput e i b.disk) b (begun e stamp i b) := by
  by_cases h : Crashes e i b.disk
  · obtain ⟨_, disk, -, hbegun, huntouched⟩ := everything_of_crash h stamp
    rw [hbegun]
    exact ⟨rfl, rfl, fun _ => (OnlyLogged.refl _ b.disk).untouched huntouched⟩
  · exact (everything_eq h stamp).2

end Command
end Strongbox
