import Strongbox.Log.Journal
import Strongbox.Proofs.Disk.Alike
/-! What a log does to the disk: it opens its file once, and then puts lines at the end of what is open.
Which lines these are does not depend on the disk. -/
namespace Strongbox.Log.Journal

open Disk (Alike Lasting)

/-- What lines go to, if it is open. -/
def handle? (j : Journal) : Option Handle := j.sink.bind (·.handle)

variable {C : Nat → ByteArray → ByteArray → Prop} {disk disk' : Disk}

theorem put_eq (e : Event) (sink : Sink) (j : Journal) (disk : Disk) :
    put e sink j disk = match sink.handle with
      | none => ({ j with lines := j.lines ++ [j.stamped e.level (sink.filter.line e)] }, disk)
      | some handle =>
        (j, Disk.extend handle (j.stamped e.level (sink.filter.line e) ++ "\n").toUTF8 disk) := rfl

theorem put_lines (e : Event) (sink : Sink) (j : Journal) (disk : Disk) :
    ∃ lines, (put e sink j disk).1 = { j with lines } := by
  rw [put_eq]
  cases sink.handle with
  | none => exact ⟨_, rfl⟩
  | some handle => exact ⟨j.lines, rfl⟩

theorem take_of_silent {j : Journal} (h : j.sink = none) (events : List Event) (disk : Disk) :
    take events j disk = (j, disk) := by
  cases events with
  | nil => rfl
  | cons e later =>
      rw [take, h]

/-- A log that takes events changes in nothing but its lines. -/
theorem take_lines (events : List Event) (j : Journal) (disk : Disk) :
    ∃ lines, (take events j disk).1 = { j with lines } := by
  induction events generalizing j disk with
  | nil => exact ⟨j.lines, rfl⟩
  | cons e later ih =>
      obtain ⟨stamp, claimed, sink?, lines⟩ := j
      cases sink? with
      | none => exact ⟨lines, rfl⟩
      | some sink =>
          rw [take]
          dsimp only
          split
          · obtain ⟨lines', hput⟩ := put_lines e sink ⟨stamp, claimed, some sink, lines⟩ disk
            rw [hput]
            exact ih _ _
          · exact ih _ disk

theorem sink_put (e : Event) (sink : Sink) (j : Journal) (disk : Disk) :
    (put e sink j disk).1.sink = j.sink := by
  obtain ⟨lines, hput⟩ := put_lines e sink j disk
  rw [hput]

theorem sink_take (events : List Event) (j : Journal) (disk : Disk) :
    (take events j disk).1.sink = j.sink := by
  obtain ⟨lines, htake⟩ := take_lines events j disk
  rw [htake]

theorem handle?_take (events : List Event) (j : Journal) (disk : Disk) :
    (take events j disk).1.handle? = j.handle? := by
  rw [handle?, sink_take, handle?]

theorem claimed_take (events : List Event) (j : Journal) (disk : Disk) :
    (take events j disk).1.claimed = j.claimed := by
  obtain ⟨lines, htake⟩ := take_lines events j disk
  rw [htake]

/-- What every line keeps, all of them keep. -/
theorem take_keeps {P : Disk → Prop} {j : Journal}
    (hline : ∀ handle, j.handle? = some handle → ∀ (text : String) disk, P disk →
      P (Disk.extend handle text.toUTF8 disk))
    (events : List Event) (hdisk : P disk) : P (take events j disk).2 := by
  induction events generalizing j disk with
  | nil => exact hdisk
  | cons e later ih =>
      rw [take]
      cases hsink : j.sink with
      | none => exact hdisk
      | some sink =>
          dsimp only
          split
          · have hsame : (put e sink j disk).1.handle? = j.handle? := by
              rw [handle?, sink_put, handle?]
            apply ih
            · rw [hsame]
              exact hline
            · rw [put_eq]
              cases hhandle : sink.handle with
              | none => exact hdisk
              | some handle =>
                  apply hline
                  · rw [handle?, hsink]
                    exact hhandle
                  · exact hdisk
          · exact ih hline hdisk

theorem sound_take (events : List Event) (j : Journal) (hsound : disk.Sound) :
    (take events j disk).2.Sound := by
  apply take_keeps _ events hsound
  intro handle _ text disk h
  exact h.extend handle _

/-- Over disks that are alike the same lines are written. -/
theorem take_agree (hC : Lasting C) (h : Alike C disk disk') (events : List Event) (j : Journal) :
    (take events j disk').1 = (take events j disk).1 ∧
      Alike C (take events j disk).2 (take events j disk').2 := by
  induction events generalizing j disk disk' with
  | nil => exact ⟨rfl, h⟩
  | cons e later ih =>
      rw [take, take]
      cases j.sink with
      | none => exact ⟨rfl, h⟩
      | some sink =>
          dsimp only
          split
          · rw [put_eq, put_eq]
            cases sink.handle with
            | none => exact ih h _
            | some handle => exact ih (h.extend hC handle _) _
          · exact ih h j

/-! ### Setting up -/

theorem openOutput_agree (hC : ∀ serial bytes, C serial bytes bytes) (h : Alike C disk disk')
    (output : Output) : (openOutput output disk').1 = (openOutput output disk).1 ∧
      Alike C (openOutput output disk).2 (openOutput output disk').2 := by
  cases output with
  | standardError => exact ⟨rfl, h⟩
  | file path =>
      have hopen := Disk.openFile_agree h (fun serial => hC serial _) path 0o644 false
      simp only [openOutput, Disk.openAppend]
      generalize Disk.openFile path 0o644 false disk = result at hopen
      generalize Disk.openFile path 0o644 false disk' = result' at hopen
      cases hopen with
      | ok answers states =>
          cases answers
          exact ⟨rfl, states⟩
      | error e states => exact ⟨rfl, states⟩

theorem openOutput_evolves (hsound : disk.Sound) (output : Output) :
    disk.Evolves (openOutput output disk).2 := by
  cases output with
  | standardError => exact (Disk.Untouched.refl disk).evolves
  | file path =>
      have hevolves := Disk.openAppend_evolves hsound path
      rw [openOutput]
      cases hopen : Disk.openAppend path disk with
      | ok handle disk' =>
          rw [hopen] at hevolves
          exact hevolves
      | error e disk' =>
          rw [hopen] at hevolves
          exact hevolves

theorem openOutput_eq_error {output : Output} {reason : LogError} (h : (openOutput output disk).1 = .error reason) :
    ∃ text, reason = .fileCreation text := by
  cases output with
  | standardError => cases h
  | file path =>
      rw [openOutput] at h
      cases hopen : Disk.openAppend path disk with
      | ok handle disk' =>
          rw [hopen] at h
          cases h
      | error e disk' =>
          rw [hopen] at h
          cases h
          exact ⟨_, rfl⟩

/-- Nobody has set up the log. -/
structure Unset (j : Journal) : Prop where
  claimed : j.claimed = false
  sink : j.sink = none

theorem Unset.handle? {j : Journal} (h : j.Unset) : j.handle? = none := by
  rw [Journal.handle?, h.sink]
  rfl

/-- How a log is set up that is not set up yet. -/
theorem start_of_unset {j : Journal} (h : j.Unset) (c : Config) (disk : Disk) :
    start c j disk = match c.filter with
      | .error e => (.error e, j.claim.release e, disk)
      | .ok filter => match openOutput c.output disk with
        | (.error e, disk) => (.error e, j, disk)
        | (.ok handle, disk) =>
          (.ok (), take [opened c] { j with claimed := true, sink := some ⟨filter, handle⟩ } disk) := by
  obtain ⟨stamp, claimed, sink, lines⟩ := j
  obtain ⟨rfl, rfl⟩ := h
  rfl

theorem start_agree (hC : Lasting C) (h : Alike C disk disk') (c : Config) (j : Journal) :
    (start c j disk').1 = (start c j disk).1 ∧ (start c j disk').2.1 = (start c j disk).2.1 ∧
      Alike C (start c j disk).2.2 (start c j disk').2.2 := by
  unfold start
  split
  · exact ⟨rfl, rfl, h⟩
  · cases c.filter with
    | error e => exact ⟨rfl, rfl, h⟩
    | ok filter =>
        dsimp only
        obtain ⟨hanswer, hopened⟩ := openOutput_agree hC.refl h c.output
        generalize openOutput c.output disk = result at hanswer hopened
        generalize openOutput c.output disk' = result' at hanswer hopened
        obtain ⟨answer, disk₁⟩ := result
        obtain ⟨answer', disk₁'⟩ := result'
        obtain rfl : answer' = answer := hanswer
        cases answer' with
        | error e => exact ⟨rfl, rfl, hopened⟩
        | ok handle =>
            dsimp only
            cases j.claim.install ⟨filter, handle⟩ with
            | error e => exact ⟨rfl, rfl, hopened⟩
            | ok j' =>
                obtain ⟨hjournal, htaken⟩ := take_agree hC hopened [opened c] j'
                exact ⟨rfl, hjournal, htaken⟩

theorem sound_start (hsound : disk.Sound) (c : Config) (j : Journal) : (start c j disk).2.2.Sound := by
  unfold start
  split
  · exact hsound
  · cases c.filter with
    | error e => exact hsound
    | ok filter =>
        dsimp only
        have hopened := (openOutput_evolves hsound c.output).sound hsound
        generalize openOutput c.output disk = result at hopened
        obtain ⟨answer, disk₁⟩ := result
        cases answer with
        | error e => exact hopened
        | ok handle =>
            dsimp only
            cases j.claim.install ⟨filter, handle⟩ with
            | error e => exact hopened
            | ok j' => exact sound_take _ _ hopened

end Strongbox.Log.Journal
