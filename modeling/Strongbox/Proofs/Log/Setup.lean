import Mathlib.Control.Monad.Basic
import Strongbox.Proofs.Log.Journal
import Strongbox.Proofs.Log.Reading
/-! Setting up a log again and again. Of all attempts at most one succeeds, and what it has put in force stays.
An attempt that is refused leaves neither the log nor the disk changed; one that crashes keeps the log for
itself, so that nobody sets it up any more. -/
namespace Strongbox.Log

namespace Config

/-- There are directives, and to read them brings the process down. -/
def Torn (c : Config) : Prop := ∃ text, c.directives = some text ∧ Filter.parse text = .error .torn

theorem not_torn_of_ascii {c : Config} (h : ∀ text, c.directives = some text → Text.IsAscii text.toList) :
    ¬ c.Torn := by
  rintro ⟨text, hdirectives, htorn⟩
  exact Filter.parse_ne_torn_of_ascii (h text hdirectives) htorn

/-- There are directives, and they are refused. -/
def Unreadable (c : Config) : Prop :=
  ∃ text e, c.directives = some text ∧ Filter.parse text = .error e ∧ e ≠ .torn

/-- The log is to go to a file that cannot be opened for appending. -/
def Unopenable (c : Config) (disk : Disk) : Prop :=
  ∃ path e disk', c.output = .file path ∧ Disk.openAppend path disk = .error e disk'

/-- What comes of the directives of a configuration. -/
inductive Filters (c : Config) : Except LogError Filter → Prop
  | ready (filter : Filter) (htorn : ¬ c.Torn) (hc : ¬ c.Unreadable) : Filters c (.ok filter)
  | refused (reason : String) (htorn : ¬ c.Torn) (hc : c.Unreadable) :
      Filters c (.error (.initialization reason))
  | torn (reason : String) (htorn : c.Torn) (hc : ¬ c.Unreadable) : Filters c (.error (.crash reason))

theorem unfiltered_of_ne {e : FilterError} (h : e ≠ .torn) : unfiltered e = .initialization e.message := by
  cases e with
  | torn => exact absurd rfl h
  | _ => rfl

theorem filters (c : Config) : Filters c c.filter := by
  cases hdirectives : c.directives with
  | none =>
      rw [filter, hdirectives]
      exact .ready _ (by simp [Torn, hdirectives]) (by simp [Unreadable, hdirectives])
  | some text =>
      rw [filter, hdirectives]
      dsimp only
      cases hparse : Filter.parse text with
      | ok filter =>
          exact .ready filter (by simp [Torn, hdirectives, hparse]) (by simp [Unreadable, hdirectives, hparse])
      | error e =>
          by_cases he : e = .torn
          · subst he
            exact .torn _ ⟨text, hdirectives, hparse⟩ (by simp [Unreadable, hdirectives, hparse])
          · rw [Except.mapError, unfiltered_of_ne he]
            exact .refused _ (by simp [Torn, hdirectives, hparse, he]) ⟨text, e, hdirectives, hparse, he⟩

end Config

namespace Journal

/-- What is in force has been claimed. -/
def Kept (j : Journal) : Prop := j.sink ≠ none → j.claimed = true

/-- What one attempt answers and leaves. -/
inductive Attempt (c : Config) (j : Journal) (disk : Disk) :
    Except LogError Unit × Journal × Disk → Prop
  | again (hdone : j.claimed = true) : Attempt c j disk (.error .alreadyInitialized, j, disk)
  | torn (hnew : j.claimed = false) (hc : c.Torn) (hreadable : ¬ c.Unreadable) (reason : String) :
      Attempt c j disk (.error (.crash reason), j.claim, disk)
  | unreadable (hnew : j.claimed = false) (htorn : ¬ c.Torn) (hc : c.Unreadable) (reason : String) :
      Attempt c j disk (.error (.initialization reason), j, disk)
  | unopenable {disk' : Disk} (hnew : j.claimed = false) (htorn : ¬ c.Torn) (hc : ¬ c.Unreadable)
      (hdisk : c.Unopenable disk) (hsame : disk.Untouched disk') (reason : String) :
      Attempt c j disk (.error (.fileCreation reason), j, disk')
  | done (sink : Sink) {disk' : Disk} (hnew : j.claimed = false) (hsink : j.sink = none) (htorn : ¬ c.Torn)
      (hc : ¬ c.Unreadable) (hfilter : c.filter = .ok sink.filter)
      (hopen : openOutput c.output disk = (.ok sink.handle, disk')) :
      Attempt c j disk
        (.ok (), take [opened c] { j with claimed := true, sink := some sink } disk')

theorem start_of_claimed {j : Journal} (h : j.claimed = true) (c : Config) (disk : Disk) :
    start c j disk = (.error .alreadyInitialized, j, disk) := by
  obtain ⟨stamp, claimed, sink, lines⟩ := j
  cases h
  rfl

theorem unclaim_claim {j : Journal} (h : j.claimed = false) : j.claim.unclaim = j := by
  obtain ⟨stamp, claimed, sink, lines⟩ := j
  cases h
  rfl

/-- The claim is given back by each attempt that is refused, so that the log is left as it was. -/
theorem attempt_start {j : Journal} (h : j.Kept) (c : Config) (disk : Disk) :
    Attempt c j disk (start c j disk) := by
  cases hclaimed : j.claimed with
  | true =>
      rw [start_of_claimed hclaimed]
      exact .again hclaimed
  | false =>
      have hsink : j.sink = none := by
        by_contra hforce
        cases hclaimed.symm.trans (h hforce)
      rw [start_of_unset ⟨hclaimed, hsink⟩]
      have hfilters := c.filters
      cases hfilter : c.filter with
      | error e =>
          rw [hfilter] at hfilters
          cases hfilters with
          | refused reason htorn hc =>
              dsimp only [release]
              rw [unclaim_claim hclaimed]
              exact .unreadable hclaimed htorn hc reason
          | torn reason hc hreadable => exact .torn hclaimed hc hreadable reason
      | ok filter =>
          rw [hfilter] at hfilters
          obtain ⟨_, htorn, hc⟩ := hfilters
          dsimp only
          cases houtput : c.output with
          | standardError =>
              exact .done ⟨filter, none⟩ hclaimed hsink htorn hc hfilter (by rw [houtput]; rfl)
          | file path =>
              rw [openOutput]
              cases hopen : Disk.openAppend path disk with
              | error e disk' =>
                  exact .unopenable hclaimed htorn hc ⟨path, e, disk', houtput, hopen⟩
                    (Disk.openFile_eq_error hopen) _
              | ok handle disk' =>
                  refine .done ⟨filter, some handle⟩ hclaimed hsink htorn hc hfilter ?_
                  rw [houtput, openOutput, hopen]

/-- The process goes down in an attempt; whoever asks gets no answer. -/
def IsCrash (answer : Except LogError Unit) : Prop := ∃ reason, answer = .error (.crash reason)

namespace Attempt

variable {c : Config} {j : Journal} {disk : Disk} {result : Except LogError Unit × Journal × Disk}

theorem kept (h : Attempt c j disk result) (hj : j.Kept) : result.2.1.Kept := by
  cases h with
  | again | unreadable | unopenable => exact hj
  | torn => exact fun _ => rfl
  | done => exact fun _ => by rw [claimed_take]

/-- An attempt that is refused leaves the log as it is; one that crashes does not even touch the disk. -/
theorem clean (h : Attempt c j disk result) {e : LogError} (he : result.1 = .error e) :
    disk.Untouched result.2.2 ∧ (¬ IsCrash result.1 → result.2.1 = j) := by
  cases h with
  | again => exact ⟨.refl disk, fun _ => rfl⟩
  | torn _ _ _ reason => exact ⟨.refl disk, fun hcrash => absurd ⟨reason, rfl⟩ hcrash⟩
  | unreadable => exact ⟨.refl disk, fun _ => rfl⟩
  | unopenable _ _ _ _ hsame => exact ⟨hsame, fun _ => rfl⟩
  | done => cases he

/-- What is in force after an attempt was so before, or else the attempt has opened it. -/
theorem sink_eq_some (h : Attempt c j disk result) {sink : Sink} : result.2.1.sink = some sink ↔
    j.sink = some sink ∨ result.1 = .ok () ∧ c.filter = .ok sink.filter ∧
      (openOutput c.output disk).1 = .ok sink.handle := by
  cases h with
  | again | unreadable | unopenable => simp
  | torn => simp [claim]
  | done sink' _ hnone _ _ hfilter hopen =>
      rw [sink_take, hnone, hfilter, hopen]
      obtain ⟨filter, handle⟩ := sink
      obtain ⟨filter', handle'⟩ := sink'
      simp

/-- An attempt that succeeds keeps the claim, and so does one that crashes. -/
theorem claimed_iff (h : Attempt c j disk result) : result.2.1.claimed = true ↔
    j.claimed = true ∨ result.1 = .ok () ∨ IsCrash result.1 := by
  cases h with
  | again hdone => simp [hdone]
  | torn hnew _ _ reason => simp [claim, IsCrash]
  | unreadable hnew => simp [hnew, IsCrash]
  | unopenable hnew => simp [hnew, IsCrash]
  | done sink hnew => simp [claimed_take]

theorem not_unopenable {handle? : Option Handle} {disk' : Disk}
    (h : openOutput c.output disk = (.ok handle?, disk')) : ¬ c.Unopenable disk := by
  rintro ⟨path, e, disk'', houtput, hopen⟩
  rw [houtput, openOutput, hopen] at h
  cases h

/-- Which answer is given, by the first reason that applies. -/
theorem answer (h : Attempt c j disk result) :
    (result.1 = .error .alreadyInitialized ↔ j.claimed = true) ∧
    (IsCrash result.1 ↔ ¬ j.claimed = true ∧ c.Torn) ∧
    ((∃ reason, result.1 = .error (.initialization reason)) ↔ ¬ j.claimed = true ∧ c.Unreadable) ∧
    ((∃ reason, result.1 = .error (.fileCreation reason)) ↔
      ¬ j.claimed = true ∧ ¬ c.Torn ∧ ¬ c.Unreadable ∧ c.Unopenable disk) ∧
    (result.1 = .ok () ↔ ¬ j.claimed = true ∧ ¬ c.Torn ∧ ¬ c.Unreadable ∧ ¬ c.Unopenable disk) := by
  cases h with
  | again hdone => simp [hdone, IsCrash]
  | torn hnew hc hreadable => simp [hnew, hc, hreadable, IsCrash]
  | unreadable hnew htorn hc => simp [hnew, htorn, hc, IsCrash]
  | unopenable hnew htorn hc hdisk => simp [hnew, htorn, hc, hdisk, IsCrash]
  | done sink hnew _ htorn hc _ hopen => simp [hnew, htorn, hc, not_unopenable hopen, IsCrash]

end Attempt

/-! ### Histories -/

/-- What happens to a log and to the disk below it. -/
inductive Move where
  | setUp (c : Config)
  | report (events : List Event)
  /-- Others change the disk. -/
  | meddle (change : Disk → Disk)

def Move.apply (w : Journal × Disk) : Move → Journal × Disk
  | setUp c => (start c w.1 w.2).2
  | report events => take events w.1 w.2
  | meddle change => (w.1, change w.2)

/-- The log and the disk after some moves. -/
def replay (w : Journal × Disk) : List Move → Journal × Disk
  | [] => w
  | m :: moves => replay (m.apply w) moves

/-- Answer to an attempt that comes after some moves. -/
def answerAfter (w : Journal × Disk) (before : List Move) (c : Config) : Except LogError Unit :=
  (start c (replay w before).1 (replay w before).2).1

/-- One of the moves is an attempt that succeeds. -/
def Done (w : Journal × Disk) (moves : List Move) : Prop :=
  ∃ before c later, moves = before ++ .setUp c :: later ∧ answerAfter w before c = .ok ()

/-- One of the moves is an attempt that crashes. -/
def Crashed (w : Journal × Disk) (moves : List Move) : Prop :=
  ∃ before c later, moves = before ++ .setUp c :: later ∧ IsCrash (answerAfter w before c)

/-- What an attempt with some configuration puts in force. -/
def Opens (c : Config) (disk : Disk) (sink : Sink) : Prop :=
  c.filter = .ok sink.filter ∧ (openOutput c.output disk).1 = .ok sink.handle

variable {w : Journal × Disk} {sink : Sink} {c : Config}

theorem replay_append (w : Journal × Disk) (moves later : List Move) :
    replay w (moves ++ later) = replay (replay w moves) later := by
  induction moves generalizing w with
  | nil => rfl
  | cons m moves ih => exact ih (m.apply w)

theorem kept_apply (h : w.1.Kept) (m : Move) : (m.apply w).1.Kept := by
  cases m with
  | setUp c => exact (attempt_start h c w.2).kept h
  | report events =>
      intro hforce
      rw [Move.apply, sink_take] at hforce
      rw [Move.apply, claimed_take]
      exact h hforce
  | meddle change => exact h

theorem kept_replay (h : w.1.Kept) (moves : List Move) : (replay w moves).1.Kept := by
  induction moves generalizing w with
  | nil => exact h
  | cons m moves ih => exact ih (kept_apply h m)

/-- What only attempts bring about was so at first, or one of the attempts has brought it about. -/
theorem replay_iff {S : Journal × Disk → Prop} {R : Config → Journal × Disk → Prop}
    (hstep : ∀ w : Journal × Disk, w.1.Kept → ∀ m : Move, S (m.apply w) ↔ S w ∨ ∃ c, m = .setUp c ∧ R c w)
    (h : w.1.Kept) (moves : List Move) : S (replay w moves) ↔
      S w ∨ ∃ before c later, moves = before ++ .setUp c :: later ∧ R c (replay w before) := by
  induction moves generalizing w with
  | nil => simp [replay]
  | cons m moves ih =>
      rw [replay, ih (kept_apply h m), hstep w h, or_assoc]
      refine or_congr_right ?_
      constructor
      · rintro (⟨c, rfl, hattempt⟩ | ⟨before, c, later, rfl, hattempt⟩)
        · exact ⟨[], c, moves, rfl, hattempt⟩
        · exact ⟨m :: before, c, later, rfl, hattempt⟩
      · rintro ⟨_ | ⟨m', before⟩, c, later, hmoves, hattempt⟩
        · cases hmoves
          exact .inl ⟨c, rfl, hattempt⟩
        · cases hmoves
          exact .inr ⟨before, c, later, rfl, hattempt⟩

/-- What is in force after a history was so before, or one of the attempts has put it in force. -/
theorem sink_replay (h : w.1.Kept) (moves : List Move) : (replay w moves).1.sink = some sink ↔
    w.1.sink = some sink ∨ ∃ before c later, moves = before ++ .setUp c :: later ∧
      answerAfter w before c = .ok () ∧ Opens c (replay w before).2 sink := by
  refine replay_iff (S := fun w => w.1.sink = some sink)
    (R := fun c w => (start c w.1 w.2).1 = .ok () ∧ Opens c w.2 sink) ?_ h moves
  intro w h m
  cases m with
  | setUp c =>
      rw [Move.apply, (attempt_start h c w.2).sink_eq_some]
      simp [Opens]
  | report events =>
      have hsame : (Move.apply w (.report events)).1.sink = w.1.sink := sink_take events w.1 w.2
      simp [hsame]
  | meddle change => simp [Move.apply]

/-- A log is claimed by attempts that succeed or crash, and never given back. -/
theorem claimed_replay (h : w.1.Kept) (moves : List Move) : (replay w moves).1.claimed = true ↔
    w.1.claimed = true ∨ Done w moves ∨ Crashed w moves := by
  have hreplay := replay_iff (S := fun w => w.1.claimed = true)
    (R := fun c w => (start c w.1 w.2).1 = .ok () ∨ IsCrash (start c w.1 w.2).1) ?_ h moves
  · rw [hreplay, Done, Crashed]
    simp only [answerAfter, and_or_left, exists_or]
  · intro w h m
    cases m with
    | setUp c =>
        rw [Move.apply, (attempt_start h c w.2).claimed_iff]
        simp
    | report events =>
        have hsame : (Move.apply w (.report events)).1.claimed = w.1.claimed := claimed_take events w.1 w.2
        simp [hsame]
    | meddle change => simp [Move.apply]

/-- An attempt that succeeds has opened something. -/
theorem exists_opens (h : w.1.Kept) {before : List Move} (hanswer : answerAfter w before c = .ok ()) :
    ∃ sink, Opens c (replay w before).2 sink := by
  rw [answerAfter] at hanswer
  have hattempt := attempt_start (kept_replay h before) c (replay w before).2
  generalize start c (replay w before).1 (replay w before).2 = result at hanswer hattempt
  cases hattempt with
  | done sink _ _ _ _ hfilter hopen => exact ⟨sink, hfilter, by rw [hopen]⟩
  | _ => cases hanswer

/-- The first attempt puts in force what it can open, and nothing else. -/
theorem sink_start {j : Journal} (h : j.Unset) (c : Config) (disk : Disk) :
    (start c j disk).2.1.sink = some sink ↔ Opens c disk sink := by
  have hkept : j.Kept := fun hforce => absurd h.sink hforce
  have hattempt := attempt_start hkept c disk
  rw [hattempt.sink_eq_some, h.sink, Opens]
  constructor
  · rintro (hnone | ⟨-, hopens⟩)
    · cases hnone
    · exact hopens
  · intro hopens
    refine .inr ⟨?_, hopens⟩
    rw [start_of_unset h, hopens.1]
    dsimp only
    obtain ⟨-, hopen⟩ := hopens
    generalize openOutput c.output disk = opened at hopen ⊢
    obtain ⟨answer, disk'⟩ := opened
    cases hopen
    rfl

/-- What can be said of a log that was not set up at first, after some moves. -/
structure OneShot (w : Journal × Disk) (moves : List Move) : Prop where
  again : ∀ c, answerAfter w moves c = .error .alreadyInitialized ↔ Done w moves ∨ Crashed w moves
  crashes : ∀ c, IsCrash (answerAfter w moves c) ↔ ¬ (Done w moves ∨ Crashed w moves) ∧ c.Torn
  unreadable : ∀ c, (∃ reason, answerAfter w moves c = .error (.initialization reason)) ↔
    ¬ (Done w moves ∨ Crashed w moves) ∧ c.Unreadable
  unopenable : ∀ c, (∃ reason, answerAfter w moves c = .error (.fileCreation reason)) ↔
    ¬ (Done w moves ∨ Crashed w moves) ∧ ¬ c.Torn ∧ ¬ c.Unreadable ∧ c.Unopenable (replay w moves).2
  succeeds : ∀ c, answerAfter w moves c = .ok () ↔
    ¬ (Done w moves ∨ Crashed w moves) ∧ ¬ c.Torn ∧ ¬ c.Unreadable ∧ ¬ c.Unopenable (replay w moves).2
  initialized : (replay w moves).1.isInitialized = true ↔ Done w moves ∨ Crashed w moves
  untouched : ∀ c e, answerAfter w moves c = .error e →
    (replay w moves).2.Untouched (replay w (moves ++ [.setUp c])).2
  clean : ∀ c e, answerAfter w moves c = .error e → ¬ IsCrash (answerAfter w moves c) →
    (replay w (moves ++ [.setUp c])).1 = (replay w moves).1
  inForce : ∀ before c later, moves = before ++ .setUp c :: later → answerAfter w before c = .ok () →
    ∃ sink, (replay w moves).1.sink = some sink ∧ Opens c (replay w before).2 sink
  nothing : ¬ Done w moves → (replay w moves).1.sink = none

/-- Whatever comes between them, attempts fail cleanly until one succeeds or crashes, and after that they are
refused. -/
theorem set_up_once (stamp : String) (lines : List String) (disk : Disk) (moves : List Move) :
    OneShot (⟨stamp, false, none, lines⟩, disk) moves := by
  generalize hw : ((⟨stamp, false, none, lines⟩, disk) : Journal × Disk) = w
  have hkept : w.1.Kept := by
    rw [← hw]
    exact fun hforce => absurd rfl hforce
  have hclaimed : (replay w moves).1.claimed = true ↔ Done w moves ∨ Crashed w moves := by
    rw [claimed_replay hkept, ← hw]
    simp
  have hattempt := fun c => attempt_start (kept_replay hkept moves) c (replay w moves).2
  have hanswer := fun c => (hattempt c).answer
  simp only [hclaimed] at hanswer
  constructor
  · exact fun c => (hanswer c).1
  · exact fun c => (hanswer c).2.1
  · exact fun c => (hanswer c).2.2.1
  · exact fun c => (hanswer c).2.2.2.1
  · exact fun c => (hanswer c).2.2.2.2
  · exact hclaimed
  · intro c e he
    rw [replay_append]
    exact ((hattempt c).clean he).1
  · intro c e he hcrash
    rw [replay_append]
    exact ((hattempt c).clean he).2 hcrash
  · rintro before c later rfl hanswer
    obtain ⟨sink, hsink⟩ := exists_opens hkept hanswer
    exact ⟨sink, (sink_replay hkept _).2 (.inr ⟨before, c, later, rfl, hanswer, hsink⟩), hsink⟩
  · intro hnone
    by_contra hforce
    obtain ⟨sink, hsink⟩ := Option.ne_none_iff_exists'.1 hforce
    rcases (sink_replay hkept _).1 hsink with hbefore | ⟨before, c, later, hmoves, hdone, -⟩
    · rw [← hw] at hbefore
      cases hbefore
    · exact hnone ⟨before, c, later, hmoves, hdone⟩

/-- The blank before the first character shifts the part in front of the bracket, so that it would end inside
that character. -/
def tearing : Config := ⟨.warn, .standardError, some " é[x]"⟩

/-- An attempt that crashes leaves the log claimed, as if it had been set up. -/
theorem not_set_up_once : tearing.Torn ∧
    answerAfter (empty, ⟨[], [], [], 0⟩) [.setUp tearing] .standard = .error .alreadyInitialized ∧
    ¬ ∀ (disk : Disk) (moves : List Move),
      (replay (empty, disk) moves).1.isInitialized = true ↔ Done (empty, disk) moves := by
  refine ⟨⟨_, rfl, by decide +kernel⟩, by decide +kernel, fun h => ?_⟩
  have hset : (replay (empty, ⟨[], [], [], 0⟩) [.setUp tearing]).1.isInitialized = true := by decide +kernel
  obtain ⟨before, c, later, hmoves, hdone⟩ := (h _ _).1 hset
  cases before with
  | nil =>
      cases hmoves
      revert hdone
      decide +kernel
  | cons m before => simp at hmoves

end Journal
end Strongbox.Log
