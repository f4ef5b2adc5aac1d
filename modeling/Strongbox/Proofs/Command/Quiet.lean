import Strongbox.Proofs.Command.Printing
import Strongbox.Proofs.Command.Talk
import Strongbox.Proofs.Command.Verbosity
/-! Quiet runs. The command line keeps from them the one line that says why a run failed, and nothing that
commands print; what they do is what they do without being quiet. -/
namespace Strongbox.Command

open Log

variable {e : Environment} {stamp : String} {i : Invocation} {b : Backends Unit} {w : Process} {f : Failure}

/-! ### Complaints -/

theorem label_of_line (filter : Filter) (event : Event) :
    ∃ rest, filter.line event = event.level.label ++ rest := by
  simp only [Filter.line, String.append_assoc]
  exact ⟨_, rfl⟩

/-- How a run tells why it failed. -/
def complaint (f : Failure) : String := "Error: " ++ f.message

/-- A line that begins as complaints do. -/
def Complains (line : String) : Prop := ['E', 'r'] <+: line.toList

theorem complains_complaint (f : Failure) : Complains (complaint f) := by
  rw [Complains, complaint, String.toList_append]
  exact (show ['E', 'r'] <+: "Error: ".toList by decide).trans (List.prefix_append _ _)

/-- Labels are in capitals. -/
theorem not_complains_label (level : Level) (rest : String) : ¬ Complains (level.label ++ rest) := by
  rw [Complains, String.toList_append]
  cases level <;> simp [Level.label]

/-- A stamp that is no complaint either, such as a time. -/
def Stampable (stamp : String) : Prop := stamp.toList.head? ≠ some 'E'

instance (stamp : String) : Decidable (Stampable stamp) :=
  inferInstanceAs (Decidable (stamp.toList.head? ≠ some 'E'))

theorem not_complains_stamped {stamp rest : String} (hstamp : Stampable stamp) (hempty : stamp ≠ "") :
    ¬ Complains (stamp ++ rest) := by
  rw [Complains, String.toList_append]
  unfold Stampable at hstamp
  cases hchars : stamp.toList with
  | nil => exact absurd (String.toList_eq_nil_iff.1 hchars) hempty
  | cons c cs =>
      rw [hchars] at hstamp
      rw [List.cons_append, List.cons_prefix_cons]
      rintro ⟨rfl, -⟩
      exact hstamp rfl

/-- A log in which nobody complains. -/
structure Uncomplaining (j : Journal) : Prop where
  stamp : Stampable j.stamp
  lines : ∀ line ∈ j.lines, ¬ Complains line

theorem not_complains_linesOf {j : Journal} (hstamp : Stampable j.stamp) (events : List Event) :
    ∀ line ∈ j.linesOf events, ¬ Complains line := by
  intro line hline
  unfold Journal.linesOf at hline
  split at hline
  · obtain ⟨event, -, rfl⟩ := List.mem_map.1 hline
    unfold Journal.stamped
    split
    · obtain ⟨rest, hrest⟩ := label_of_line _ event
      rw [hrest]
      exact not_complains_label event.level rest
    · rw [String.append_assoc]
      exact not_complains_stamped hstamp ‹_›
  · cases hline

theorem Uncomplaining.hear {j : Journal} (h : Uncomplaining j) (events : List Event) :
    Uncomplaining (j.hear events) := by
  refine ⟨h.stamp, fun line hline => ?_⟩
  rcases List.mem_append.1 hline with hold | hnew
  · exact h.lines line hold
  · exact not_complains_linesOf h.stamp events line hnew

theorem uncomplaining_unlogged (hstamp : Stampable stamp) (b : Backends Unit) (reason : LogError) (disk : Disk) :
    Uncomplaining (unlogged (started stamp b) reason disk).journal := by
  refine ⟨hstamp, fun line hline => ?_⟩
  obtain rfl := List.mem_singleton.1 hline
  rw [Complains, String.toList_append]
  simp

theorem uncomplaining_started (hstamp : Stampable stamp) (b : Backends Unit) :
    Uncomplaining (started stamp b).journal :=
  ⟨hstamp, by simp [started, Journal.empty]⟩

theorem uncomplaining_begun (hstamp : Stampable stamp) (e : Environment) (i : Invocation)
    (b : Backends Unit) : Uncomplaining (begun e stamp i b).journal := by
  by_cases hcrash : Crashes e i b.disk
  · obtain ⟨_, disk, -, hbegun, -⟩ := everything_of_crash hcrash stamp
    rw [hbegun]
    exact uncomplaining_started hstamp _
  obtain ⟨c, disk, filter, hconfig, -, -, hfilter⟩ := logConfig_eq_ok hcrash stamp
  have hstarts := starts_startLog (w := started stamp { b with disk }) ⟨rfl, rfl⟩ hfilter
  rw [begun, Call.bind_of_ok hconfig]
  generalize startLog c (started stamp { b with disk }) = result at hstarts ⊢
  cases hstarts with
  | unopened _ => exact uncomplaining_unlogged hstamp _ _ _
  | @opened handle disk' _ =>
      have hempty := uncomplaining_started hstamp { b with disk }
      have hlogged : Uncomplaining (logged (started stamp { b with disk }) filter handle disk').journal :=
        ⟨hempty.stamp, hempty.lines⟩
      obtain ⟨events, hevents⟩ := OnlyReports.note ⟨(), [Journal.opened c]⟩
        (logged (started stamp { b with disk }) filter handle disk')
      rw [hevents]
      exact hlogged.hear events

theorem uncomplaining_everything (hstamp : Stampable stamp) (e : Environment) (i : Invocation)
    (b : Backends Unit) : Uncomplaining (Call.after (everything e i (started stamp b))).journal := by
  obtain ⟨events, hjournal⟩ := journal_everything e stamp i b
  rw [hjournal]
  exact (uncomplaining_begun hstamp e i b).hear events

/-! ### What a quiet run tells -/

/-- Why a run fails, if it does. -/
def failure? (e : Environment) (stamp : String) (i : Invocation) (b : Backends Unit) : Option Failure :=
  match everything e i (started stamp b) with
  | .ok _ _ => none
  | .error f _ => some f

/-- Nothing is told of a run but why it failed, if it did. -/
structure TellsErrorsOnly (e : Environment) (stamp : String) (i : Invocation) (b : Backends Unit) : Prop where
  output : (execute e stamp i b).output = ""
  errors : ∀ f, failure? e stamp i b = some f → complaint f ∈ (execute e stamp i b).errors

/-- The same command, without being quiet. -/
def aloud (i : Invocation) : Invocation := retold i i.verbosity false

/-- What being quiet comes to: a run that succeeds prints what it prints without being quiet, one that fails
does not tell why, and the same is done where the log is not a file that the run reads. -/
structure OnlyUntold (e : Environment) (stamp : String) (i : Invocation) (b : Backends Unit) : Prop where
  succeeds : failure? e stamp i b = none →
    (execute e stamp i b).exit = 0 ∧ (execute e stamp i b).output ≠ ""
  fails : ∀ f, failure? e stamp i b = some f → (execute e stamp i b).exit = f.exitStatus ∧
    (execute e stamp i b).output = "" ∧ complaint f ∉ (execute e stamp i b).errors
  deed : b.disk.Sound → LogApart e i b.disk →
    (execute e stamp i b).SameDeed (begun e stamp i b).journal.handle? (execute e stamp (aloud i) b) ∧
      ∀ f, failure? e stamp i b = some f → (∀ reason, f ≠ .crash reason) →
        complaint f ∈ (execute e stamp (aloud i) b).errors

theorem Failure.mem_told (f : Failure) (h : ∀ reason, f ≠ .crash reason) : complaint f ∈ f.told := by
  cases f with
  | crash reason => exact absurd rfl (h reason)
  | _ => exact List.mem_singleton_self _

theorem execute_of_error (h : everything e i (started stamp b) = .error f w) :
    (execute e stamp i b).exit = f.exitStatus ∧ (execute e stamp i b).output = w.output ∧
      (execute e stamp i b).errors = w.journal.lines ++ if i.quiet then [] else f.told := by
  have hstarted : everything e i ⟨b, { Journal.empty with stamp }, ""⟩ = .error f w := h
  rw [execute, hstarted]
  exact ⟨rfl, rfl, rfl⟩

theorem execute_of_ok (h : everything e i (started stamp b) = .ok () w) :
    (execute e stamp i b).exit = 0 ∧ (execute e stamp i b).output = w.output := by
  have hstarted : everything e i ⟨b, { Journal.empty with stamp }, ""⟩ = .ok () w := h
  rw [execute, hstarted]
  exact ⟨rfl, rfl⟩

theorem everything_of_failure (h : failure? e stamp i b = some f) :
    ∃ w, everything e i (started stamp b) = .error f w := by
  unfold failure? at h
  split at h
  · cases h
  · cases h
    exact ⟨_, ‹_›⟩

/-- A run has printed something just if it has succeeded. -/
theorem spoken_everything (e : Environment) (stamp : String) (i : Invocation) (b : Backends Unit) :
    Spoken (started stamp b) (everything e i (started stamp b)) := by
  by_cases hcrash : Crashes e i b.disk
  · obtain ⟨reason, disk, hrun, hbegun, -⟩ := everything_of_crash hcrash stamp
    rw [hrun, hbegun]
    rfl
  obtain ⟨hrun, hsilent⟩ := everything_eq hcrash stamp
  have hspoken := (Composed.perform e i).spoken (begun e stamp i b)
  rw [hrun]
  unfold Spoken at hspoken ⊢
  rwa [hsilent.printed] at hspoken

/-- A quiet user whose log goes to a file. -/
def clearing : Invocation := { muted with directory := some "." }

def filed : Settings := { Settings.standard with logging := ⟨.warn, none, some "app.log"⟩ }

theorem logApart_logging : LogApart alone clearing logging.disk := by
  intro file hfile path hreads
  cases hreads with
  | settings hd =>
      cases hd
      exact logging_elsewhere clearing rfl file hfile
  | store hs hpath =>
      obtain ⟨d, hd, hload⟩ := hs
      cases hd
      have hfiled : ((SettingsDirectory.mk ".").load logging.disk).1.value = .ok filed := by decide +kernel
      cases hload.symm.trans hfiled
      have hfallback : filed.fallbackPath alone = .ok "/data/credstore/insecure-store.json" := by
        decide +kernel
      cases hpath.symm.trans hfallback
      have hmissing : logging.disk.spot "/data/credstore/insecure-store.json" = .error .notFound := by
        decide +kernel
      intro above name slash names hspot
      rw [hmissing] at hspot
      cases hspot

def seeking : Invocation := { muted with action := .get .credential "mail" .table false }

/-- A log that goes into the settings. -/
def tangled : Backends Unit := configured "[logging]\nlevel = \"debug\"\nfile = \"cfg/config.toml\"\n"

end Strongbox.Command
