import Strongbox.Proofs.Command.Printing
import Strongbox.Proofs.Log.Setup
import Strongbox.Proofs.Log.Showing
/-! What a run does to its log. Before the command begins the log is set up as the settings and the command
line say, or not at all; from then on the run does nothing to it but report. -/
namespace Strongbox.Command

open Log
open Call (Moves)

variable {α β : Type}

/-- A step that does nothing to the log but report. -/
def OnlyReports (step : Run α) : Prop :=
  Moves (fun w w' => ∃ events, w'.journal = w.journal.hear events) step

namespace OnlyReports

/-- A step that leaves the log alone. -/
theorem of_same {step : Run α} (h : ∀ w, (Call.after (step w)).journal = w.journal) : OnlyReports step :=
  fun w => ⟨[], (h w).trans w.journal.hear_nil.symm⟩

theorem bind {step : Run α} {next : α → Run β} (h : OnlyReports step)
    (hnext : ∀ a, OnlyReports (next a)) : OnlyReports (step >>= next) := by
  refine Moves.bind ?_ h hnext
  rintro w₁ w₂ w₃ ⟨events, hevents⟩ ⟨later, hlater⟩
  refine ⟨events ++ later, ?_⟩
  rw [hlater, hevents, Journal.hear_append]

theorem note (l : Logged α) : OnlyReports (note l) :=
  fun w => ⟨l.events, Journal.take_eq_hear l.events w.journal w.backends.disk⟩

theorem onDisk (call : Disk → Logged α × Disk) : OnlyReports (onDisk call) :=
  fun w => note (call w.backends.disk).1 { w with backends := { w.backends with disk := (call w.backends.disk).2 } }

theorem onStore (call : Backends Unit → Logged α × Backends Unit) : OnlyReports (onStore call) :=
  fun w => note (call w.backends).1 { w with backends := (call w.backends).2 }

theorem of_tacit {step : Run α} (h : Tacit step) : OnlyReports step := by
  induction h with
  | pure | throw | readBackends => exact of_same fun _ => rfl
  | note l => exact note l
  | onDisk call => exact onDisk call
  | onStore call => exact onStore call
  | bind _ _ ih ihnext => exact ih.bind ihnext

theorem of_composed {step : Run Unit} (h : Composed step) : OnlyReports step := by
  induction h with
  | print | throw => exact of_same fun _ => rfl
  | bind hfirst _ ih => exact (of_tacit hfirst).bind ih

end OnlyReports

/-! ### Setting up the log -/

section

variable {e : Environment} {stamp : String} {i : Invocation} {b : Backends Unit} {s : Settings}
variable {d : SettingsDirectory} {sink : Sink} {event : Event}

theorem sink_startLog (c : Config) (w : Process) : (Call.after (startLog c w)).journal.sink =
    (Journal.start c w.journal w.backends.disk).2.1.sink := by
  cases hstart : Journal.start c w.journal w.backends.disk with
  | mk answer left =>
      cases answer with
      | ok u => rw [startLog_of_ok hstart, Call.after_ok]
      | error reason =>
          simp only [startLog, hstart]
          cases reason with
          | _ => rfl

/-- What is in force when the command begins. -/
theorem sink_begun (hd : directoryOf e i = .ok d) (hs : (d.load b.disk).1.value = .ok s) :
    (begun e stamp i b).journal.sink = some sink ↔
      Journal.Opens (adjust i s.logging.config) (d.load b.disk).2 sink := by
  rw [begun, Call.bind_of_ok (logConfig_of_loads hd hs stamp), sink_startLog]
  exact Journal.sink_start ⟨rfl, rfl⟩ _ _

/-- The log of a run is the one that it sets up, with what the run reports. -/
theorem journal_everything (e : Environment) (stamp : String) (i : Invocation) (b : Backends Unit) :
    ∃ events, (Call.after (everything e i (started stamp b))).journal =
      (begun e stamp i b).journal.hear events := by
  by_cases hcrash : Crashes e i b.disk
  · obtain ⟨_, _, hrun, -⟩ := everything_of_crash hcrash stamp
    rw [hrun]
    exact ⟨[], (begun e stamp i b).journal.hear_nil.symm⟩
  · rw [(everything_eq hcrash stamp).1]
    exact OnlyReports.of_composed (.perform e i) (begun e stamp i b)

/-- An event goes into the log of a run, whether it is reported when the command begins or at its end. -/
structure Reaches (e : Environment) (stamp : String) (i : Invocation) (b : Backends Unit) (event : Event) :
    Prop where
  begins : (begun e stamp i b).journal.shows event = true
  ends : (Call.after (everything e i (started stamp b))).journal.shows event = true

theorem reaches_iff_begun : Reaches e stamp i b event ↔ (begun e stamp i b).journal.shows event = true := by
  obtain ⟨events, hjournal⟩ := journal_everything e stamp i b
  constructor
  · exact Reaches.begins
  · intro h
    exact ⟨h, by rw [hjournal]; exact h⟩

theorem reaches_iff (hd : directoryOf e i = .ok d) (hs : (d.load b.disk).1.value = .ok s) :
    Reaches e stamp i b event ↔
      (∃ handle, (Journal.openOutput s.logging.config.output (d.load b.disk).2).1 = .ok handle) ∧
        (adjust i s.logging.config).shows event = true := by
  have hshows : (begun e stamp i b).journal.shows event = true ↔
      ∃ sink, (begun e stamp i b).journal.sink = some sink ∧ sink.filter.shows event = true := by
    rw [Journal.shows]
    cases (begun e stamp i b).journal.sink <;> simp
  rw [reaches_iff_begun, hshows]
  simp only [sink_begun hd hs, Journal.Opens, adjust_output, Config.shows]
  constructor
  · rintro ⟨⟨filter, handle⟩, ⟨hfilter, hopen⟩, hevent⟩
    rw [hfilter]
    exact ⟨⟨handle, hopen⟩, hevent⟩
  · rintro ⟨⟨handle, hopen⟩, hevent⟩
    cases hfilter : (adjust i s.logging.config).filter with
    | error reason =>
        rw [hfilter] at hevent
        cases hevent
    | ok filter =>
        rw [hfilter] at hevent
        exact ⟨⟨filter, handle⟩, ⟨rfl, hopen⟩, hevent⟩

/-- Standard error is always open. -/
theorem reaches_iff_shows (hd : directoryOf e i = .ok d) (hs : (d.load b.disk).1.value = .ok s)
    (hfile : s.logging.file = none) :
    Reaches e stamp i b event ↔ (adjust i s.logging.config).shows event = true := by
  have houtput : s.logging.config.output = .standardError := by
    rw [LogSettings.config, hfile]
  rw [reaches_iff hd hs, houtput]
  exact and_iff_right ⟨none, rfl⟩

end
end Strongbox.Command
