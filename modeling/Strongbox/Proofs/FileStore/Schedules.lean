import Strongbox.Proofs.FileStore.Interleaving
/-! Orders in which the steps of several changes can come: one change after the other, which loses
nothing, and two stores crossing each other, which does. -/
namespace Strongbox.FileStore

variable {path : String} {jobs : List Job} {w w' : World} {disk disk' : Disk}

/-- The file can be read and replaced. -/
structure Usable (path : String) (disk : Disk) : Prop where
  saves : Saves path disk
  loads : ∃ d, load path disk = .ok d disk ∧ d.version ≤ StoreDocument.currentVersion

theorem usable_of_missing (hsaves : Saves path disk)
    (hmissing : disk.contentAt path = .error .notFound) : Usable path disk :=
  ⟨hsaves, .empty, load_of_missing hsaves.1 hmissing, Nat.le_refl _⟩

theorem Usable.save (h : Usable path disk) {d : StoreDocument}
    (hversion : d.version ≤ StoreDocument.currentVersion) :
    ∃ disk', save path d disk = .ok () disk' ∧ Usable path disk' ∧ Holds path disk' d := by
  obtain ⟨disk', hsave, hsaves, hbytes⟩ := h.saves.save d
  exact ⟨disk', hsave, ⟨hsaves, d, load_of_document hsaves.1 (Disk.contentAt_of_bytesAt? hbytes)
    hversion, hversion⟩, holds_of_bytesAt? hversion hbytes⟩

def blank : Disk := ⟨[], [], [], 0⟩

theorem usable_blank : Usable "store.json" blank :=
  usable_of_missing ready_blank.saves (by decide +kernel)

/-- Two puts through two stores. -/
def twoStores : List Job :=
  [⟨0, .put ⟨"app", "User", "a", by decide, by decide⟩ "x"⟩,
    ⟨1, .put ⟨"app", "User", "b", by decide, by decide⟩ "y"⟩]

/-- One job after the other: those below a number are done, the others wait. -/
def World.Queued (w : World) (k : Nat) : Prop :=
  ∀ n, w.phase n = if n < k then .done else .waiting

/-- Only the job that moves is on its way. -/
def World.Alone (w : World) (k : Nat) : Prop :=
  ∀ n, n ≠ k → ∀ d, w.phase n ≠ .loaded d

theorem World.Alone.move {k : Nat} (h : w.Alone k) (disk : Disk) (phase : Phase) :
    (w.move k disk phase).Alone k := by
  intro n hne d
  rw [World.phase_move_of_ne hne]
  exact h n hne d

theorem World.Alone.apart {k : Nat} (h : w.Alone k) : Apart jobs w := by
  intro n m job other d d' hjob hother hn hm
  have hat : ∀ {i e}, w.phase i = .loaded e → i = k := fun {i e} hi =>
    by_contra fun hne => h i hne e hi
  rw [hat hn] at hjob
  rw [hat hm, hjob] at hother
  cases hother
  rfl

theorem Undisturbed.move {k : Nat} {job : Job} (halone : w.Alone k) (hjob : jobs[k]? = some job)
    {phase phase' : Phase} (hmoves : Moves path job.change disk phase disk' phase')
    (hlocked : phase ≠ .waiting) :
    Undisturbed path jobs (w.move k disk phase) (w.move k disk' phase') := by
  have hmoves' : Moves path job.change (w.move k disk phase).disk ((w.move k disk phase).phase k)
      disk' phase' := by rwa [World.phase_move_self]
  have hstep := Step.of_moves hjob hmoves' fun hphase => by
    rw [World.phase_move_self] at hphase
    exact absurd hphase hlocked
  rw [World.move_move] at hstep
  exact .single ⟨hstep, (halone.move disk phase).apart⟩

/-- A job with its lock runs to its end on a file that can be used. -/
theorem Undisturbed.finish {k : Nat} {job : Job} (halone : w.Alone k) (hjob : jobs[k]? = some job)
    (husable : Usable path disk) : ∃ disk', Usable path disk' ∧
      Undisturbed path jobs (w.move k disk .locked) (w.move k disk' .done) := by
  obtain ⟨d, hload, hversion⟩ := husable.loads
  have hread := Undisturbed.move halone hjob (.read hload) (by simp)
  have hunlock : ∀ disk, Undisturbed path jobs (w.move k disk .written) (w.move k disk .done) :=
    fun _ => Undisturbed.move halone hjob .unlock (by simp)
  cases hrewrite : job.change.rewrite d with
  | none =>
      have hkeep : Moves path job.change disk (.loaded d) disk .written := .keep hrewrite
      have hkept := Undisturbed.move halone hjob hkeep (by simp)
      exact ⟨disk, husable, (hread.trans hkept).trans (hunlock disk)⟩
  | some d' =>
      obtain ⟨disk', hsave, husable', -⟩ := husable.save (Change.version_of_rewrite hversion hrewrite)
      have hreplace := Undisturbed.move halone hjob (.replace hrewrite hsave) (by simp)
      exact ⟨disk', husable', (hread.trans hreplace).trans (hunlock disk')⟩

/-- The job at the head of the queue. -/
theorem Undisturbed.next {k : Nat} {job : Job} (husable : Usable path w.disk) (hqueued : w.Queued k)
    (hjob : jobs[k]? = some job) :
    ∃ w', Undisturbed path jobs w w' ∧ Usable path w'.disk ∧ w'.Queued (k + 1) := by
  have halone : w.Alone k := by
    intro n _ d
    rw [hqueued n]
    split <;> simp
  have hwaiting : w.phase k = .waiting := (hqueued k).trans (if_neg (Nat.lt_irrefl k))
  have hfree : w.Free jobs job := by
    intro m other _ _ hholding
    rw [hqueued m] at hholding
    split at hholding <;> exact hholding
  have hlock : Undisturbed path jobs w (w.move k w.disk .locked) :=
    .single ⟨.of_moves hjob (hwaiting ▸ .lock) fun _ => hfree, halone.apart⟩
  obtain ⟨disk', husable', hfinish⟩ := Undisturbed.finish halone hjob husable
  refine ⟨_, hlock.trans hfinish, husable', fun n => ?_⟩
  by_cases hn : n = k
  · rw [hn, World.phase_move_self, if_pos (Nat.lt_succ_self k)]
  · rw [World.phase_move_of_ne hn, hqueued n]
    simp only [Nat.lt_succ_iff_lt_or_eq, hn, or_false]

/-- Jobs that run one after the other all come to their end. -/
theorem exists_undisturbed (husable : Usable path disk) (jobs : List Job) :
    ∃ w, Undisturbed path jobs (.start disk) w ∧ w.Finished jobs := by
  have hqueue : ∀ k, k ≤ jobs.length →
      ∃ w, Undisturbed path jobs (.start disk) w ∧ Usable path w.disk ∧ w.Queued k := by
    intro k
    induction k with
    | zero => exact fun _ => ⟨_, .refl, husable, fun n => (if_neg (Nat.not_lt_zero n)).symm⟩
    | succ k ih =>
        intro hk
        obtain ⟨w, hrun, husable', hqueued⟩ := ih (Nat.le_of_succ_le hk)
        obtain ⟨w', hnext, husable'', hqueued'⟩ := Undisturbed.next husable' hqueued
          (List.getElem?_eq_getElem (Nat.lt_of_succ_le hk))
        exact ⟨w', hrun.trans hnext, husable'', hqueued'⟩
  obtain ⟨w, hrun, -, hqueued⟩ := hqueue jobs.length (Nat.le_refl _)
  refine ⟨w, hrun, fun n job hjob => ?_⟩
  rw [hqueued n, if_pos (List.getElem?_eq_some_iff.1 hjob).1]

/-- Changes through any number of stores on one file all show in the end, if no store replaces what
another one has read. -/
theorem complete_of_undisturbed (hsound : disk.Sound) (hforward : Forward path disk)
    (hkeys : (jobs.map fun job => job.change.key).Nodup)
    (hrun : Undisturbed path jobs (.start disk) w) (hfinished : w.Finished jobs) :
    Complete path jobs w.disk :=
  (orderly_of_undisturbed hkeys (orderly_start hsound hforward) hrun).complete hfinished

theorem complete_of_undisturbed_in_turn : ∃ w,
    Undisturbed "store.json" twoStores (.start blank) w ∧ w.Finished twoStores ∧
      Complete "store.json" twoStores w.disk := by
  obtain ⟨w, hrun, hfinished⟩ := exists_undisturbed usable_blank twoStores
  exact ⟨w, hrun, hfinished, complete_of_undisturbed (Disk.sound_blank [])
    (forward_of_plain (by decide +kernel) _) (by decide) hrun hfinished⟩

/-- A job of each of two stores. -/
def World.pair (disk : Disk) (phase phase' : Phase) : World where
  disk := disk
  phase
    | 0 => phase
    | 1 => phase'
    | _ => .waiting

section
variable {job job' : Job} {p p' q : Phase}

theorem World.pair_waiting (disk : Disk) : World.pair disk .waiting .waiting = .start disk := by
  refine congrArg (World.mk disk) (funext fun n => ?_)
  rcases n with _ | _ | _ <;> rfl

theorem Step.first (hstores : job.store ≠ job'.store) (hmoves : Moves path job.change disk p disk' p') :
    Step path [job, job'] (.pair disk p q) (.pair disk' p' q) := by
  have hmove : (World.pair disk p q).move 0 disk' p' = .pair disk' p' q := by
    refine congrArg (World.mk disk') (funext fun n => ?_)
    rcases n with _ | _ | _ <;> rfl
  rw [← hmove]
  refine .of_moves (n := 0) rfl hmoves fun hwaiting m other hother hstore hholding => ?_
  rcases m with _ | _ | _
  · exact (hwaiting ▸ hholding : Phase.Holding .waiting)
  · cases hother
    exact hstores hstore.symm
  · cases hother

theorem Step.second (hstores : job.store ≠ job'.store) (hmoves : Moves path job'.change disk p disk' p') :
    Step path [job, job'] (.pair disk q p) (.pair disk' q p') := by
  have hmove : (World.pair disk q p).move 1 disk' p' = .pair disk' q p' := by
    refine congrArg (World.mk disk') (funext fun n => ?_)
    rcases n with _ | _ | _ <;> rfl
  rw [← hmove]
  refine .of_moves (n := 1) rfl hmoves fun hwaiting m other hother hstore hholding => ?_
  rcases m with _ | _ | _
  · cases hother
    exact hstores hstore
  · exact (hwaiting ▸ hholding : Phase.Holding .waiting)
  · cases hother

/-- Both stores read the file before the first one replaces it, and then the second one does. -/
theorem Run.crossed (hstores : job.store ≠ job'.store) {d d₁ d₂ : StoreDocument} {disk₁ disk₂ : Disk}
    (hload : load path disk = .ok d disk) (hrewrite : job.change.rewrite d = some d₁)
    (hrewrite' : job'.change.rewrite d = some d₂) (hsave : save path d₁ disk = .ok () disk₁)
    (hsave' : save path d₂ disk₁ = .ok () disk₂) :
    Run path [job, job'] (.start disk) (.pair disk₂ .done .done) := by
  rw [← World.pair_waiting]
  have hlocked : Run path [job, job'] (.pair disk .waiting .waiting) (.pair disk .locked .locked) :=
    .tail (.single (.first hstores .lock)) (.second hstores .lock)
  have hloaded : Run path [job, job'] (.pair disk .locked .locked)
      (.pair disk (.loaded d) (.loaded d)) :=
    .tail (.single (.first hstores (.read hload))) (.second hstores (.read hload))
  have hwritten : Run path [job, job'] (.pair disk (.loaded d) (.loaded d))
      (.pair disk₂ .written .written) :=
    .tail (.single (.first hstores (.replace hrewrite hsave)))
      (.second hstores (.replace hrewrite' hsave'))
  have hdone : Run path [job, job'] (.pair disk₂ .written .written) (.pair disk₂ .done .done) :=
    .tail (.single (.first hstores .unlock)) (.second hstores .unlock)
  exact ((hlocked.trans hloaded).trans hwritten).trans hdone

end

/-- Two puts through two stores can both be answered well while the first of them is lost, unless the
file held that very entry before. -/
theorem not_lossless_of_two_stores (husable : Usable path disk) {a b : Nat} (hstores : a ≠ b)
    {key key' : NativeKey} (hkeys : key ≠ key') {blob : String}
    (hnew : ∀ d, Holds path disk d → d.get? key.service key.key ≠ some blob) (blob' : String) :
    ¬ Lossless path [⟨a, .put key blob⟩, ⟨b, .put key' blob'⟩] disk := by
  intro hlossless
  obtain ⟨d, hload, hversion⟩ := husable.loads
  have hholds : Holds path disk d := by
    have hcases := load_cases path disk
    rw [hload] at hcases
    exact hcases.2
  have hrewrite : (Change.put key blob).rewrite d = some _ := rfl
  have hrewrite' : (Change.put key' blob').rewrite d = some _ := rfl
  obtain ⟨disk₁, hsave, husable₁, -⟩ := husable.save (Change.version_of_rewrite hversion hrewrite)
  obtain ⟨disk₂, hsave', -, hholds₂⟩ := husable₁.save (Change.version_of_rewrite hversion hrewrite')
  have hrun : Run path [⟨a, .put key blob⟩, ⟨b, .put key' blob'⟩] (.start disk)
      (.pair disk₂ .done .done) := .crossed hstores hload hrewrite hrewrite' hsave hsave'
  have hfinished : (World.pair disk₂ .done .done).Finished
      [⟨a, .put key blob⟩, ⟨b, .put key' blob'⟩] := by
    intro n job hjob
    rcases n with _ | _ | _
    · rfl
    · rfl
    · cases hjob
  obtain ⟨d', hholds', hkept⟩ := hlossless _ hrun hfinished _ (List.mem_cons_self ..)
  obtain rfl := hholds₂.unique hholds'
  exact hnew d hholds (((get?_insert_key _ key' key blob').trans (if_neg hkeys)).symm.trans hkept)

end Strongbox.FileStore
