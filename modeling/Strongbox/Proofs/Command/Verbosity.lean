import Strongbox.Proofs.Command.Reporting
/-! How much of a run its log shows. The command line changes the level; where the settings have directives
that is not enough to make a run quiet, and more than enough to make it louder. -/
namespace Strongbox.Command

open Log

/-- The same command without a word about the log. -/
def plain (i : Invocation) : Invocation := { i with verbosity := 0, quiet := false }

/-- The same command with one more request for verbosity. -/
def louder (i : Invocation) : Invocation := { i with verbosity := i.verbosity + 1 }

/-- Nothing but errors goes into the log of a run. -/
def Hushed (e : Environment) (stamp : String) (i : Invocation) (b : Backends Unit) : Prop :=
  ∀ event, Reaches e stamp i b event → event.level = .error

/-- One more request for verbosity takes no event of the program out of the log of a run. -/
def Rises (e : Environment) (stamp : String) (i : Invocation) (b : Backends Unit) : Prop :=
  ∀ event, event.IsOwn → Reaches e stamp i b event → Reaches e stamp (louder i) b event

variable {e : Environment} {stamp : String} {i : Invocation} {b : Backends Unit} {s : Settings}
variable {d : SettingsDirectory} {event : Event} {c : Config}

/-! ### What a command line changes -/

theorem adjust_plain (i : Invocation) (c : Config) : adjust (plain i) c = c := rfl

theorem adjust_quiet (h : i.quiet = true) (c : Config) : adjust i c = { c with level := .error } := by
  rw [adjust, if_pos h]

/-- Any request for verbosity leaves nothing but a level. -/
theorem shows_adjust_verbose (hloud : i.quiet = false) (h : 0 < i.verbosity) (c : Config) :
    (adjust i c).shows event = true ↔
      event.IsOwn ∧ event.level.rank ≤ min (c.level.rank + i.verbosity) 4 := by
  have hadjust : adjust i c = { c with level := c.level.raisedBy i.verbosity, directives := none } := by
    rw [adjust, if_neg (by simp [hloud]), if_pos h]
  rw [hadjust, Config.shows_of_level rfl, Level.rank_raisedBy]

/-- Directives show in a quiet run what they show in any other. -/
theorem shows_adjust_quiet (hquiet : i.quiet = true) (h : c.directives ≠ none) :
    (adjust i c).shows event = (adjust (plain i) c).shows event := by
  rw [adjust_quiet hquiet, adjust_plain, Config.shows, Config.filter_of_directives h, Config.shows]

/-! ### Quiet runs -/

/-- A quiet run is hushed just if the level decides, or if it would be hushed anyway. -/
theorem hushed_iff (hquiet : i.quiet = true) (hloads : Loads e i b.disk s) : Hushed e stamp i b ↔
    s.logging.directives = none ∨ Hushed e stamp (plain i) b := by
  obtain ⟨d, hd, hs⟩ := hloads
  by_cases hlevel : s.logging.directives = none
  · refine iff_of_true ?_ (.inl hlevel)
    intro event hevent
    have hshows := ((reaches_iff hd hs).1 hevent).2
    rw [adjust_quiet hquiet, Config.shows_of_level hlevel] at hshows
    exact Level.eq_error_of_rank hshows.2
  · have hsame : ∀ event, Reaches e stamp i b event ↔ Reaches e stamp (plain i) b event := by
      intro event
      rw [reaches_iff hd hs, reaches_iff (i := plain i) hd hs, shows_adjust_quiet hquiet hlevel]
    rw [or_iff_right hlevel]
    exact forall_congr' fun event => imp_congr_left (hsame event)

/-- A user whose settings are in a file. -/
def configured (text : String) : Backends Unit where
  disk := ⟨[(["cfg", "config.toml"], .file text.toUTF8 0o644 0), (["cfg"], .directory)], [], [], 1⟩
  keyring := .empty
  rest := ()

def deleting : Invocation := ⟨some "cfg", 0, false, none, .delete .credential "mail"⟩

def muted : Invocation := { deleting with quiet := true }

def leveled : Backends Unit := configured "[logging]\nlevel = \"debug\"\n"

def levelSettings : Settings := { Settings.standard with logging := ⟨.debug, none, none⟩ }

theorem load_leveled : ((SettingsDirectory.mk "cfg").load leveled.disk).1.value = .ok levelSettings := by
  decide +kernel

def erased : Event := ⟨.debug, storeTarget, "Secret deleted", [], none⟩

theorem hushed_leveled : muted.quiet = true ∧ Loads alone muted leveled.disk levelSettings ∧
    Hushed alone "" muted leveled ∧ ¬ Hushed alone "" (plain muted) leveled := by
  refine ⟨rfl, ⟨_, rfl, load_leveled⟩, (hushed_iff rfl ⟨_, rfl, load_leveled⟩).2 (.inl rfl), fun h => ?_⟩
  have hreaches : Reaches alone "" (plain muted) leveled erased :=
    (reaches_iff_shows rfl load_leveled rfl).2 (by decide +kernel)
  cases h erased hreaches

def directed : Backends Unit := configured "[logging]\nfilter = \"credstore::store=debug\"\n"

def directedSettings : Settings :=
  { Settings.standard with logging := ⟨.warn, some "credstore::store=debug", none⟩ }

theorem load_directed : ((SettingsDirectory.mk "cfg").load directed.disk).1.value = .ok directedSettings := by
  decide +kernel

/-- A quiet run tells what the directives ask for. -/
theorem not_hushed :
    (execute alone "" muted directed).errors.map (·.startsWith "WARN ") = [true, false] ∧
    (execute alone "" muted directed).errors.map (·.startsWith "DEBUG ") = [false, true] ∧
    ¬ ∀ (e : Environment) (stamp : String) (i : Invocation) (b : Backends Unit) (s : Settings),
      i.quiet = true → Loads e i b.disk s → Hushed e stamp i b := by
  refine ⟨by decide +kernel, by decide +kernel, fun h => ?_⟩
  have hreaches : Reaches alone "" muted directed erased :=
    (reaches_iff_shows rfl load_directed rfl).2 (by decide +kernel)
  cases h alone "" muted directed _ rfl ⟨_, rfl, load_directed⟩ erased hreaches

/-! ### Verbose runs -/

theorem reaches_louder (hloud : i.quiet = false) (hd : directoryOf e i = .ok d)
    (hs : (d.load b.disk).1.value = .ok s) (hown : event.IsOwn) (hevent : Reaches e stamp i b event) :
    Reaches e stamp (louder i) b event ↔
      event.level.rank ≤ s.logging.level.rank + (i.verbosity + 1) := by
  have hopen := ((reaches_iff hd hs).1 hevent).1
  rw [reaches_iff (i := louder i) hd hs, and_iff_right hopen,
    shows_adjust_verbose (i := louder i) hloud (Nat.succ_pos i.verbosity), and_iff_right hown, Nat.le_min]
  exact and_iff_left event.level.rank_le

/-- Verbosity takes nothing away just if it was asked for before, or the level decides, or the directives show
no more than the level shows once it is raised. -/
theorem rises_iff (hloud : i.quiet = false) (hloads : Loads e i b.disk s) : Rises e stamp i b ↔
    (i.verbosity = 0 → s.logging.directives = none ∨
      ∀ event, event.IsOwn → Reaches e stamp i b event → event.level.rank ≤ s.logging.level.rank + 1) := by
  obtain ⟨d, hd, hs⟩ := hloads
  constructor
  · intro hrises hzero
    refine .inr fun event hown hevent => ?_
    have hrank := (reaches_louder hloud hd hs hown hevent).1 (hrises event hown hevent)
    rwa [hzero] at hrank
  · intro h event hown hevent
    rw [reaches_louder hloud hd hs hown hevent]
    have hshows := ((reaches_iff hd hs).1 hevent).2
    rcases Nat.eq_zero_or_pos i.verbosity with hzero | hpos
    · rcases h hzero with hlevel | hmost
      · have hadjust : adjust i s.logging.config = s.logging.config := by
          simp [adjust, hloud, hzero]
        rw [hadjust, Config.shows_of_level hlevel] at hshows
        exact hshows.2.trans (Nat.le_add_right _ _)
      · rw [hzero]
        exact hmost event hown hevent
    · rw [shows_adjust_verbose hloud hpos, Nat.le_min] at hshows
      exact hshows.2.1.trans (Nat.le_succ _)

theorem rises_leveled : deleting.quiet = false ∧ Loads alone deleting leveled.disk levelSettings ∧
    Rises alone "" deleting leveled :=
  ⟨rfl, ⟨_, rfl, load_leveled⟩, (rises_iff rfl ⟨_, rfl, load_leveled⟩).2 fun _ => .inl rfl⟩

/-- Directives that show more than the raised level are lost to the first request for verbosity. -/
theorem not_rises :
    (execute alone "" deleting directed).errors.map (·.startsWith "DEBUG ") = [false, true] ∧
    (execute alone "" (louder deleting) directed).errors.map (·.startsWith "DEBUG ") = [false] ∧
    ¬ ∀ (e : Environment) (stamp : String) (i : Invocation) (b : Backends Unit) (s : Settings),
      i.quiet = false → Loads e i b.disk s → Rises e stamp i b := by
  refine ⟨by decide +kernel, by decide +kernel, fun h => ?_⟩
  have hreaches : Reaches alone "" deleting directed erased :=
    (reaches_iff_shows rfl load_directed rfl).2 (by decide +kernel)
  have hlost := h alone "" deleting directed _ rfl ⟨_, rfl, load_directed⟩ erased (by decide +kernel) hreaches
  have hshows := (reaches_iff_shows rfl load_directed rfl).1 hlost
  exact absurd hshows (by decide +kernel)

end Strongbox.Command
