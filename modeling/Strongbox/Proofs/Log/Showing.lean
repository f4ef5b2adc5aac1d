import Strongbox.Proofs.Log.Journal
/-! Which events go into a log. A level alone shows what is no more verbose and begins with the name of the
program; directives show what they say, whatever the level is. -/
namespace Strongbox.Log

namespace Level

theorem rank_le (l : Level) : l.rank ≤ 4 := by
  cases l <;> decide

theorem eq_error_of_rank {l : Level} (h : l.rank ≤ error.rank) : l = error := by
  cases l with
  | error => rfl
  | _ => cases h

/-- Raising stops at the most verbose level. -/
theorem rank_raisedBy (l : Level) (steps : Nat) : (l.raisedBy steps).rank = min (l.rank + steps) 4 := by
  unfold raisedBy
  match l.rank + steps with
  | 0 => rfl
  | 1 => rfl
  | 2 => rfl
  | 3 => rfl
  | n + 4 => exact (Nat.min_eq_right (Nat.le_add_left 4 n)).symm

end Level

/-- An event whose target begins with the name of the program. -/
def Event.IsOwn (event : Event) : Prop := Config.ownTarget.toList <+: event.target.toList

instance (event : Event) : Decidable event.IsOwn :=
  inferInstanceAs (Decidable (Config.ownTarget.toList <+: event.target.toList))

theorem Threshold.allows_some (level level' : Level) :
    Threshold.allows (some level) level' = true ↔ level'.rank ≤ level.rank := by
  exact decide_eq_true_iff.trans Nat.lt_succ_iff

theorem Filter.shows_ofLevel (target : String) (level : Level) (event : Event) :
    (Filter.ofLevel target level).shows event = true ↔
      target.toList <+: event.target.toList ∧ event.level.rank ≤ level.rank := by
  have hceiling : (Filter.ofLevel target level).ceiling = some level := by
    simp [Filter.ceiling, Filter.ofLevel, Threshold.max, Threshold.rank]
  have hinside : (Filter.ofLevel target level).dynamicCeiling = none := rfl
  have hmatters : Directive.mattersTo ⟨some target, none, [], some level⟩ event =
      target.toList.isPrefixOf event.target.toList := by
    simp [Directive.mattersTo, Directive.isStatic, Directive.targets]
  have hpermits : Filter.permits ((Filter.ofLevel target level).directives.filter (·.mattersTo event))
      event.level = true ↔ target.toList <+: event.target.toList ∧ event.level.rank ≤ level.rank := by
    rw [Filter.ofLevel, List.filter_cons, hmatters, ← List.isPrefixOf_iff_prefix]
    by_cases htarget : target.toList.isPrefixOf event.target.toList = true
    · simp [htarget, Filter.permits, Filter.decisive, Threshold.allows_some]
    · simp [htarget, Filter.permits, Filter.decisive]
  have hnothing : Threshold.allows none event.level = false := by
    simp [Threshold.allows, Threshold.rank]
  rw [Filter.shows, hceiling, hinside, hnothing, Bool.false_and, Bool.or_false, Bool.and_eq_true,
    Threshold.allows_some, hpermits]
  exact and_iff_right_of_imp And.right

namespace Config

variable {c : Config} {event : Event}

/-- Whether a log that is set up in this way shows an event. -/
def shows (c : Config) (event : Event) : Bool :=
  match c.filter with
  | .ok filter => filter.shows event
  | .error _ => false

theorem shows_of_level (h : c.directives = none) :
    c.shows event = true ↔ event.IsOwn ∧ event.level.rank ≤ c.level.rank := by
  rw [shows, filter, h]
  exact Filter.shows_ofLevel ownTarget c.level event

/-- Directives make the level irrelevant. -/
theorem filter_of_directives (h : c.directives ≠ none) (level : Level) :
    ({ c with level } : Config).filter = c.filter := by
  obtain ⟨text, htext⟩ := Option.ne_none_iff_exists'.1 h
  rw [filter, filter]
  dsimp only
  rw [htext]

end Config

namespace Journal

/-- Whether an event that is reported now goes into the log. -/
def shows (j : Journal) (event : Event) : Bool :=
  match j.sink with
  | some sink => sink.filter.shows event
  | none => false

/-- Lines that some events put on standard error. -/
def linesOf (j : Journal) (events : List Event) : List String :=
  match j.sink with
  | some ⟨filter, none⟩ => (events.filter filter.shows).map fun e => j.stamped e.level (filter.line e)
  | _ => []

/-- The log after some events. -/
def hear (j : Journal) (events : List Event) : Journal := { j with lines := j.lines ++ j.linesOf events }

theorem linesOf_append (j : Journal) (events later : List Event) :
    j.linesOf (events ++ later) = j.linesOf events ++ j.linesOf later := by
  unfold linesOf
  split
  · rw [List.filter_append, List.map_append]
  · rfl

theorem hear_of_nothing {j : Journal} {events : List Event} (h : j.linesOf events = []) :
    j.hear events = j := by
  rw [hear, h, List.append_nil]

theorem hear_nil (j : Journal) : j.hear [] = j := by
  apply hear_of_nothing
  unfold linesOf
  split <;> rfl

theorem hear_of_silent {j : Journal} (h : j.sink = none) (events : List Event) : j.hear events = j :=
  hear_of_nothing (by rw [linesOf, h])

theorem hear_of_hidden {j : Journal} {sink : Sink} (h : j.sink = some sink) {event : Event}
    (hhidden : sink.filter.shows event = false) : j.hear [event] = j := by
  obtain ⟨filter, handle⟩ := sink
  apply hear_of_nothing
  rw [linesOf, h]
  cases handle with
  | none => exact congrArg (List.map _) (List.filter_cons_of_neg (by simpa using hhidden))
  | some handle => rfl

theorem hear_append (j : Journal) (events later : List Event) :
    j.hear (events ++ later) = (j.hear events).hear later := by
  have hsame : (j.hear events).linesOf later = j.linesOf later := rfl
  rw [hear, hear, hsame, linesOf_append, ← List.append_assoc]
  rfl

theorem put_eq_hear {j : Journal} {sink : Sink} (h : j.sink = some sink) {event : Event}
    (hshows : sink.filter.shows event = true) (disk : Disk) : (put event sink j disk).1 = j.hear [event] := by
  obtain ⟨filter, handle⟩ := sink
  cases handle with
  | none =>
      have hline : j.linesOf [event] = [j.stamped event.level (filter.line event)] := by
        rw [linesOf, h]
        exact congrArg (List.map _) (List.filter_cons_of_pos hshows)
      rw [put_eq, hear, hline]
  | some handle =>
      rw [put_eq, hear_of_nothing (by rw [linesOf, h])]

/-- What becomes of the log does not depend on the disk. -/
theorem take_eq_hear (events : List Event) (j : Journal) (disk : Disk) :
    (take events j disk).1 = j.hear events := by
  induction events generalizing j disk with
  | nil => exact j.hear_nil.symm
  | cons event later ih =>
      have hlater := j.hear_append [event] later
      rw [List.singleton_append] at hlater
      rw [hlater, take]
      cases hsink : j.sink with
      | none =>
          rw [hear_of_silent hsink, hear_of_silent hsink]
      | some sink =>
          dsimp only
          cases hshows : sink.filter.shows event with
          | true =>
              rw [if_pos rfl, ih, put_eq_hear hsink hshows]
          | false =>
              rw [if_neg Bool.false_ne_true, hear_of_hidden hsink hshows]
              exact ih j disk

end Journal
end Strongbox.Log
