import Mathlib.Logic.Relation
import Strongbox.Proofs.FileStore.Atomicity
import Strongbox.Proofs.FileStore.Change
/-! Changes that run at the same time. A store takes its own lock, reads the whole file and replaces it.
Every selection that falls back to the file makes a store, so that a file has as many locks as there were
selections, and one store may read what another is about to replace. Nothing is lost as long as no change
is made to what a change through another store has read. -/
namespace Strongbox.FileStore

/-- A change through a store, which is known by its lock. -/
structure Job where
  store : Nat
  change : Change

/-- How far a job has come. -/
inductive Phase where
  | waiting
  | locked
  | loaded (d : StoreDocument)
  | written
  | done
  | failed

/-- Its store is locked by the job. -/
def Phase.Holding : Phase → Prop
  | locked | loaded _ | written => True
  | waiting | done | failed => False

/-- The file, and how far each of the jobs has come. -/
structure World where
  disk : Disk
  phase : Nat → Phase

namespace World

def start (disk : Disk) : World := ⟨disk, fun _ => .waiting⟩

def move (w : World) (n : Nat) (disk : Disk) (phase : Phase) : World :=
  ⟨disk, Function.update w.phase n phase⟩

@[simp] theorem phase_move_self (w : World) (n : Nat) (disk : Disk) (phase : Phase) :
    (w.move n disk phase).phase n = phase := Function.update_self ..

@[simp] theorem move_move (w : World) (n : Nat) (disk disk' : Disk) (phase phase' : Phase) :
    (w.move n disk phase).move n disk' phase' = w.move n disk' phase' := by
  simp [move]

@[simp] theorem phase_move_of_ne {n m : Nat} (h : m ≠ n) (w : World) (disk : Disk) (phase : Phase) :
    (w.move n disk phase).phase m = w.phase m := Function.update_of_ne h ..

end World

/-- What a job does next, apart from waiting for its lock. One that fails lets go of its lock. -/
inductive Moves (path : String) (c : Change) (disk : Disk) : Phase → Disk → Phase → Prop
  | lock : Moves path c disk .waiting disk .locked
  | read {d : StoreDocument} {disk' : Disk} (hload : load path disk = .ok d disk') :
      Moves path c disk .locked disk' (.loaded d)
  | unread {e : SecretError} {disk' : Disk} (hload : load path disk = .error e disk') :
      Moves path c disk .locked disk' .failed
  | replace {d d' : StoreDocument} {disk' : Disk} (hrewrite : c.rewrite d = some d')
      (hsave : save path d' disk = .ok () disk') : Moves path c disk (.loaded d) disk' .written
  | unwritten {d d' : StoreDocument} {e : SecretError} {disk' : Disk}
      (hrewrite : c.rewrite d = some d') (hsave : save path d' disk = .error e disk') :
      Moves path c disk (.loaded d) disk' .failed
  | keep {d : StoreDocument} (hrewrite : c.rewrite d = none) :
      Moves path c disk (.loaded d) disk .written
  | unlock : Moves path c disk .written disk .done

/-- With the lock and nothing in between, a job does what the call does. -/
theorem moves_of_call (path : String) (c : Change) (disk : Disk) : match c.call path disk with
    | .ok () disk' => ∃ d disk₁, Moves path c disk .locked disk₁ (.loaded d) ∧
        Moves path c disk₁ (.loaded d) disk' .written
    | .error _ disk' => Moves path c disk .locked disk' .failed ∨
        ∃ d disk₁, Moves path c disk .locked disk₁ (.loaded d) ∧
          Moves path c disk₁ (.loaded d) disk' .failed := by
  rw [Change.call_eq]
  cases hload : load path disk with
  | error e disk' =>
      rw [Call.bind_of_error hload]
      exact .inl (.unread hload)
  | ok d disk₁ =>
      rw [Call.bind_of_ok hload]
      cases hrewrite : c.rewrite d with
      | none => exact ⟨d, disk₁, .read hload, .keep hrewrite⟩
      | some d' =>
          dsimp only
          cases hsave : save path d' disk₁ with
          | error e disk' => exact .inr ⟨d, disk₁, .read hload, .unwritten hrewrite hsave⟩
          | ok _ disk' => exact ⟨d, disk₁, .read hload, .replace hrewrite hsave⟩

def World.Free (w : World) (jobs : List Job) (job : Job) : Prop :=
  ∀ m other, jobs[m]? = some other → other.store = job.store → ¬ (w.phase m).Holding

/-- One of the jobs takes a step. -/
inductive Step (path : String) (jobs : List Job) (w : World) : World → Prop
  | of_moves {n : Nat} {job : Job} {disk' : Disk} {phase : Phase} (hjob : jobs[n]? = some job)
      (hmoves : Moves path job.change w.disk (w.phase n) disk' phase)
      (hfree : w.phase n = .waiting → w.Free jobs job) : Step path jobs w (w.move n disk' phase)

variable {path : String} {jobs : List Job} {w w' : World} {disk disk' : Disk} {c : Change}

theorem Moves.evolves {phase phase' : Phase} (h : Moves path c disk phase disk' phase')
    (hsound : disk.Sound) : disk.Evolves disk' := by
  have hload := load_cases path disk
  have hsave := fun d => save_evolves hsound path d
  cases h with
  | read hcall =>
      rw [hcall] at hload
      exact hload.1.evolves
  | unread hcall =>
      rw [hcall] at hload
      exact hload.1.evolves
  | @replace _ d' _ _ hcall =>
      have hevolves := hsave d'
      rwa [hcall] at hevolves
  | @unwritten _ d' _ _ _ hcall =>
      have hevolves := hsave d'
      rwa [hcall] at hevolves
  | _ => exact (Disk.Untouched.refl disk).evolves

theorem Step.evolves (h : Step path jobs w w') (hsound : w.disk.Sound) : w.disk.Evolves w'.disk := by
  cases h with
  | of_moves _ hmoves _ => exact hmoves.evolves hsound

theorem Step.failed (h : Step path jobs w w') {n : Nat} (hfailed : w.phase n = .failed) :
    w'.phase n = .failed := by
  cases h with
  | @of_moves m _ _ _ _ hmoves _ =>
      rw [World.phase_move_of_ne]
      · exact hfailed
      · rintro rfl
        rw [hfailed] at hmoves
        cases hmoves

/-! ### Locks -/

/-- Of the jobs of a store, one at most holds the lock. -/
def Exclusive (jobs : List Job) (w : World) : Prop :=
  ∀ n m job other, jobs[n]? = some job → jobs[m]? = some other → other.store = job.store →
    (w.phase n).Holding → (w.phase m).Holding → m = n

/-- A lock that is held was held before or is taken just now. -/
theorem Moves.holding {phase phase' : Phase} (h : Moves path c disk phase disk' phase')
    (hholding : phase'.Holding) : phase = .waiting ∨ phase.Holding := by
  cases h with
  | lock => exact .inl rfl
  | unread _ => exact hholding.elim
  | unwritten _ _ => exact hholding.elim
  | unlock => exact hholding.elim
  | _ => exact .inr trivial

theorem Exclusive.step (h : Exclusive jobs w) (hstep : Step path jobs w w') : Exclusive jobs w' := by
  cases hstep with
  | @of_moves k mover _ phase hmover hmoves hfree =>
      -- The job that moves had the lock already, or finds nobody who has it.
      have hmoved : ∀ m other, jobs[m]? = some other → other.store = mover.store → phase.Holding →
          (w.phase m).Holding → m = k := by
        intro m other hother hstore hholding hthere
        rcases hmoves.holding hholding with hwaiting | hheld
        · exact absurd hthere (hfree hwaiting m other hother hstore)
        · exact h k m mover other hmover hother hstore hheld hthere
      intro n m job other hjob hother hstore hn hm
      by_cases hnk : n = k <;> by_cases hmk : m = k
      · rw [hnk, hmk]
      · subst hnk
        rw [hmover] at hjob
        cases hjob
        rw [World.phase_move_self] at hn
        rw [World.phase_move_of_ne hmk] at hm
        exact hmoved m other hother hstore hn hm
      · subst hmk
        rw [hmover] at hother
        cases hother
        rw [World.phase_move_self] at hm
        rw [World.phase_move_of_ne hnk] at hn
        exact (hmoved n job hjob hstore.symm hm hn).symm
      · rw [World.phase_move_of_ne hnk] at hn
        rw [World.phase_move_of_ne hmk] at hm
        exact h n m job other hjob hother hstore hn hm

/-! ### Jobs that do not disturb each other -/

/-- Jobs of different stores are not between reading and replacing at the same time. -/
def Apart (jobs : List Job) (w : World) : Prop :=
  ∀ n m job other d d', jobs[n]? = some job → jobs[m]? = some other → w.phase n = .loaded d →
    w.phase m = .loaded d' → other.store = job.store

/-- What is sure of a job: what it has read is there, and what it has written is not lost. -/
def Sure (path : String) (disk : Disk) (c : Change) : Phase → Prop
  | .loaded d => Holds path disk d
  | .written | .done => ∃ d, Holds path disk d ∧ c.Kept d
  | .waiting | .locked | .failed => True

theorem Sure.of_untouched {phase : Phase} (h : Sure path disk c phase)
    (huntouched : disk.Untouched disk') : Sure path disk' c phase := by
  cases phase with
  | loaded d => exact Holds.of_untouched h huntouched
  | written =>
      obtain ⟨d, hholds, hkept⟩ := h
      exact ⟨d, hholds.of_untouched huntouched, hkept⟩
  | done =>
      obtain ⟨d, hholds, hkept⟩ := h
      exact ⟨d, hholds.of_untouched huntouched, hkept⟩
  | _ => trivial

/-- What holds as long as the jobs are apart, unless one of them fails. -/
structure Orderly (path : String) (jobs : List Job) (w : World) : Prop where
  sound : w.disk.Sound
  forward : Forward path w.disk
  exclusive : Exclusive jobs w
  sure : (∃ n job, jobs[n]? = some job ∧ w.phase n = .failed) ∨
    ∀ n job, jobs[n]? = some job → Sure path w.disk job.change (w.phase n)

theorem orderly_start (hsound : disk.Sound) (hforward : Forward path disk) :
    Orderly path jobs (.start disk) :=
  ⟨hsound, hforward, fun _ _ _ _ _ _ _ hn _ => hn.elim, .inr fun _ _ _ => trivial⟩

/-- A step after which the job is sure, and which makes no other job less sure. -/
theorem sure_move (hsure : ∀ n job, jobs[n]? = some job → Sure path w.disk job.change (w.phase n))
    {n : Nat} {job : Job} (hjob : jobs[n]? = some job) {phase : Phase}
    (hself : Sure path disk' job.change phase)
    (hother : ∀ m other, m ≠ n → jobs[m]? = some other → Sure path w.disk other.change (w.phase m) →
      Sure path disk' other.change (w.phase m)) :
    ∀ m other, jobs[m]? = some other →
      Sure path (w.move n disk' phase).disk other.change ((w.move n disk' phase).phase m) := by
  intro m other hm
  by_cases heq : m = n
  · subst heq
    rw [hjob] at hm
    cases hm
    rw [World.phase_move_self]
    exact hself
  · rw [World.phase_move_of_ne heq]
    exact hother m other heq hm (hsure m other hm)

/-- Jobs at different places change different entries. -/
theorem key_ne (hkeys : (jobs.map fun job => job.change.key).Nodup) {n m : Nat} {job other : Job}
    (hjob : jobs[n]? = some job) (hother : jobs[m]? = some other) (hne : m ≠ n) :
    other.change.key ≠ job.change.key := by
  intro hkey
  have hlt : m < (jobs.map fun job => job.change.key).length := by
    rw [List.length_map]
    exact (List.getElem?_eq_some_iff.1 hother).1
  refine hne ((List.getElem?_inj hlt hkeys).1 ?_)
  rw [List.getElem?_map, List.getElem?_map, hjob, hother, Option.map_some, Option.map_some, hkey]

/-- The step that could lose something: the document that was read is still there, and nobody else
has read it. -/
theorem sure_replace (hsound : disk.Sound) (hforward : Forward path disk) {d d' : StoreDocument}
    (hholds : Holds path disk d) (hrewrite : c.rewrite d = some d')
    (hsave : save path d' disk = .ok () disk') : Sure path disk' c .written ∧
      ∀ {c' : Change} {phase : Phase}, c'.key ≠ c.key → (∀ d, phase ≠ .loaded d) →
        Sure path disk c' phase → Sure path disk' c' phase := by
  have hcases := save_cases hsound hforward d'
  rw [hsave] at hcases
  have hholds' := holds_of_bytesAt? (Change.version_of_rewrite hholds.version_le hrewrite) hcases.2
  have hkeeps : ∀ {c' : Change}, c'.key ≠ c.key → (∃ d, Holds path disk d ∧ c'.Kept d) →
      ∃ d, Holds path disk' d ∧ c'.Kept d := by
    rintro c' hkey ⟨d₁, hholds₁, hkept⟩
    obtain rfl := hholds.unique hholds₁
    exact ⟨d', hholds', hkept.of_rewrite hkey hrewrite⟩
  refine ⟨⟨d', hholds', Change.kept_of_rewrite hrewrite⟩, fun {c' phase} hkey hunread hsure => ?_⟩
  cases phase with
  | loaded d₁ => exact absurd rfl (hunread d₁)
  | written => exact hkeeps hkey hsure
  | done => exact hkeeps hkey hsure
  | _ => trivial

/-- One step of jobs that are apart. -/
theorem Orderly.step (h : Orderly path jobs w) (hkeys : (jobs.map fun job => job.change.key).Nodup)
    (hapart : Apart jobs w) (hstep : Step path jobs w w') : Orderly path jobs w' := by
  have hevolves := hstep.evolves h.sound
  refine ⟨hevolves.sound h.sound, h.forward.of_keeps hevolves.keeps, h.exclusive.step hstep, ?_⟩
  rcases h.sure with ⟨n, job, hjob, hfailed⟩ | hsure
  · exact .inl ⟨n, job, hjob, hstep.failed hfailed⟩
  have hload := load_cases path w.disk
  cases hstep with
  | @of_moves n job disk' phase hjob hmoves _ =>
      have hself := hsure n job hjob
      -- Only the step from what was read to what is written changes what the others rely on.
      cases hphase : w.phase n with
      | waiting =>
          rw [hphase] at hmoves
          cases hmoves
          exact .inr (sure_move hsure hjob trivial fun _ _ _ _ h => h)
      | locked =>
          rw [hphase] at hmoves
          cases hmoves with
          | read hcall =>
              rw [hcall] at hload
              exact .inr (sure_move hsure hjob (hload.2.of_untouched hload.1)
                fun _ _ _ _ h => h.of_untouched hload.1)
          | unread _ => exact .inl ⟨n, job, hjob, World.phase_move_self ..⟩
      | loaded d =>
          rw [hphase] at hmoves hself
          cases hmoves with
          | replace hrewrite hcall =>
              obtain ⟨hwritten, hothers⟩ := sure_replace h.sound h.forward hself hrewrite hcall
              refine .inr (sure_move hsure hjob hwritten fun m other hne hother => ?_)
              refine hothers (key_ne hkeys hjob hother hne) fun d₁ hloaded => hne ?_
              -- Another job that has read the file would be one of the same store, with its lock.
              have hstore := hapart n m job other d d₁ hjob hother hphase hloaded
              exact h.exclusive n m job other hjob hother hstore (hphase ▸ trivial)
                (hloaded ▸ trivial)
          | unwritten _ _ => exact .inl ⟨n, job, hjob, World.phase_move_self ..⟩
          | keep hrewrite =>
              exact .inr (sure_move hsure hjob ⟨d, hself, Change.kept_of_rewrite_none hrewrite⟩
                fun _ _ _ _ h => h)
      | written =>
          rw [hphase] at hmoves hself
          cases hmoves
          exact .inr (sure_move hsure hjob hself fun _ _ _ _ h => h)
      | done =>
          rw [hphase] at hmoves
          cases hmoves
      | failed =>
          rw [hphase] at hmoves
          cases hmoves

/-! ### Whole runs -/

/-- Any run, in whatever order the jobs take their steps. -/
def Run (path : String) (jobs : List Job) : World → World → Prop :=
  Relation.ReflTransGen (Step path jobs)

/-- A run in which the jobs are apart whenever one of them takes a step. -/
def Undisturbed (path : String) (jobs : List Job) : World → World → Prop :=
  Relation.ReflTransGen fun w w' => Step path jobs w w' ∧ Apart jobs w

/-- All callers have got their answer, and it was no failure. -/
def World.Finished (w : World) (jobs : List Job) : Prop :=
  ∀ n job, jobs[n]? = some job → w.phase n = .done

/-- The file holds what was put and not what was deleted. -/
def Complete (path : String) (jobs : List Job) (disk : Disk) : Prop :=
  ∀ job ∈ jobs, ∃ d, Holds path disk d ∧ job.change.Kept d

theorem orderly_of_undisturbed (hkeys : (jobs.map fun job => job.change.key).Nodup)
    (h : Orderly path jobs w) (hrun : Undisturbed path jobs w w') : Orderly path jobs w' := by
  induction hrun with
  | refl => exact h
  | tail _ hstep ih => exact ih.step hkeys hstep.2 hstep.1

theorem Orderly.complete (h : Orderly path jobs w) (hfinished : w.Finished jobs) :
    Complete path jobs w.disk := by
  intro job hmem
  obtain ⟨n, hjob⟩ := List.mem_iff_getElem?.1 hmem
  rcases h.sure with ⟨m, other, hother, hfailed⟩ | hsure
  · rw [hfinished m other hother] at hfailed
    cases hfailed
  · have hself := hsure n job hjob
    rw [hfinished n job hjob] at hself
    exact hself

/-- Nothing is lost, whatever the order of the steps. -/
def Lossless (path : String) (jobs : List Job) (disk : Disk) : Prop :=
  ∀ w, Run path jobs (.start disk) w → w.Finished jobs → Complete path jobs w.disk

/-- Jobs of a single store are apart in every run, by its lock. -/
theorem Run.undisturbed (hrun : Run path jobs w w')
    (hstore : ∀ job ∈ jobs, ∀ other ∈ jobs, other.store = job.store) : Undisturbed path jobs w w' := by
  induction hrun with
  | refl => exact .refl
  | tail _ hstep ih =>
      refine ih.tail ⟨hstep, fun n m job other _ _ hjob hother _ _ => ?_⟩
      exact hstore job (List.mem_of_getElem? hjob) other (List.mem_of_getElem? hother)

theorem lossless_of_one_store (hsound : disk.Sound) (hforward : Forward path disk)
    (hkeys : (jobs.map fun job => job.change.key).Nodup)
    (hstore : ∀ job ∈ jobs, ∀ other ∈ jobs, other.store = job.store) : Lossless path jobs disk := by
  intro w hrun hfinished
  have horderly := orderly_of_undisturbed hkeys (orderly_start hsound hforward)
    (hrun.undisturbed hstore)
  exact horderly.complete hfinished

end Strongbox.FileStore
