import Strongbox.Proofs.FileStore.Schedules
import Strongbox.Proofs.Provider.Containment
/-! Locks of the stores that a provider hands out for its file. Each selection that falls back makes a store, and
a lock with it, so that changes through the stores of two selections do not wait for each other. -/
namespace Strongbox.Provider

open FileStore (Change Job Usable Holds Forward Lossless)

variable {ρ : Type} {p : Provider ρ}

structure Selection (ρ : Type) where
  level : SecurityLevel
  backends : Backends ρ

/-- Nothing is found, and the file will do. -/
def Selection.fallsBack (p : Provider ρ) (s : Selection ρ) : Bool :=
  match s.level, (p.detect p.platform p.space s.backends).value with
  | .optional, .error _ => true
  | _, _ => false

/-- A selection hands out a store of the file that it makes, or else what it has found or nothing. -/
theorem Selection.select_cases (p : Provider ρ) (s : Selection ρ) :
    (s.fallsBack p = true ∧ (p.select s.level s.backends).value = .ok (Backends.file p.fallback)) ∨
    s.fallsBack p = false ∧ ((∃ native, (p.detect p.platform p.space s.backends).value = .ok native ∧
      (p.select s.level s.backends).value = .ok native) ∨
      ∃ reason, (p.select s.level s.backends).value = .error (.unavailable reason)) := by
  obtain ⟨level, b⟩ := s
  cases hdetect : (p.detect p.platform p.space b).value with
  | ok native =>
      have hselect := select_of_found hdetect level
      refine .inr ⟨?_, .inl ⟨native, rfl, hselect⟩⟩
      cases level <;> rw [fallsBack, hdetect]
  | error e =>
      cases level with
      | must => exact .inr ⟨by rw [fallsBack], .inr (select_must_of_missing hdetect)⟩
      | optional => exact .inl ⟨by rw [fallsBack, hdetect], select_optional_of_missing hdetect⟩

/-- The locks that selections make, one after the other; they are numbered in this order. -/
def locksFrom (p : Provider ρ) : Nat → List (Selection ρ) → List (Option Nat)
  | _, [] => []
  | next, s :: later =>
    if s.fallsBack p then some next :: p.locksFrom (next + 1) later else none :: p.locksFrom next later

def locks (p : Provider ρ) (selections : List (Selection ρ)) : List (Option Nat) := p.locksFrom 0 selections

/-- A lock is made by the first of some selections, or later and then under another number. -/
theorem locksFrom_cons {next lock i : Nat} {s : Selection ρ} {later : List (Selection ρ)}
    (h : (p.locksFrom next (s :: later))[i]? = some (some lock)) :
    (i = 0 ∧ lock = next ∧ s.fallsBack p = true) ∨
      ∃ k, i = k + 1 ∧ (p.locksFrom (if s.fallsBack p then next + 1 else next) later)[k]? = some (some lock) := by
  rw [locksFrom] at h
  cases hfalls : s.fallsBack p with
  | true =>
      rw [hfalls, if_pos rfl] at h
      cases i with
      | zero =>
          cases h
          exact .inl ⟨rfl, rfl, rfl⟩
      | succ k => exact .inr ⟨k, rfl, h⟩
  | false =>
      rw [hfalls, if_neg Bool.false_ne_true] at h
      cases i with
      | zero => cases h
      | succ k => exact .inr ⟨k, rfl, h⟩

theorem le_of_locksFrom {next lock i : Nat} {selections : List (Selection ρ)}
    (h : (p.locksFrom next selections)[i]? = some (some lock)) : next ≤ lock := by
  induction selections generalizing next i with
  | nil => cases h
  | cons s later ih =>
      rcases locksFrom_cons h with ⟨-, rfl, -⟩ | ⟨k, -, hlater⟩
      · exact Nat.le_refl lock
      · have hle := ih hlater
        split at hle <;> omega

/-- No two selections make the same lock. -/
theorem locksFrom_inj {next lock i j : Nat} {selections : List (Selection ρ)}
    (hi : (p.locksFrom next selections)[i]? = some (some lock))
    (hj : (p.locksFrom next selections)[j]? = some (some lock)) : i = j := by
  induction selections generalizing next i j with
  | nil => cases hi
  | cons s later ih =>
      have hfresh : ∀ k : Nat, s.fallsBack p = true → lock = next →
          (p.locksFrom (if s.fallsBack p then next + 1 else next) later)[k]? ≠ some (some lock) := by
        rintro k hfalls rfl hlater
        have hle := le_of_locksFrom hlater
        rw [hfalls, if_pos rfl] at hle
        omega
      rcases locksFrom_cons hi with ⟨rfl, hlock, hfalls⟩ | ⟨k, rfl, hk⟩ <;>
        rcases locksFrom_cons hj with ⟨rfl, hlock', hfalls'⟩ | ⟨k', rfl, hk'⟩
      · rfl
      · exact absurd hk' (hfresh k' hfalls hlock)
      · exact absurd hk (hfresh k hfalls' hlock')
      · rw [ih hk hk']

/-- The selection that makes a lock hands out a store of the file. -/
theorem select_of_locksFrom {next lock i : Nat} {selections : List (Selection ρ)}
    (h : (p.locksFrom next selections)[i]? = some (some lock)) : ∃ s, selections[i]? = some s ∧
      (p.select s.level s.backends).value = .ok (Backends.file p.fallback) := by
  induction selections generalizing next i with
  | nil => cases h
  | cons s later ih =>
      rcases locksFrom_cons h with ⟨rfl, -, hfalls⟩ | ⟨k, rfl, hlater⟩
      · rcases s.select_cases p with ⟨-, hselect⟩ | ⟨hfound, -⟩
        · exact ⟨s, rfl, hselect⟩
        · cases hfalls.symm.trans hfound
      · exact ih hlater

/-! ### Changes through the stores of a provider -/

variable {selections : List (Selection ρ)} {disk : Disk} {i j a b : Nat}

/-- Changes through the store of one selection wait for each other, and nothing is lost. -/
theorem lossless_of_one_selection {jobs : List Job} (hsound : disk.Sound) (hforward : Forward p.fallback disk)
    (hkeys : (jobs.map fun job => job.change.key).Nodup)
    (hstore : ∀ job ∈ jobs, (p.locks selections)[i]? = some (some job.store)) :
    Lossless p.fallback jobs disk := by
  refine FileStore.lossless_of_one_store hsound hforward hkeys fun job hjob other hother => ?_
  exact Option.some.inj (Option.some.inj ((hstore other hother).symm.trans (hstore job hjob)))

/-- Two puts through the stores of two selections can both be answered well while the first of them is lost,
unless the file held that very entry before. -/
theorem not_lossless_of_two_selections (husable : Usable p.fallback disk) (hselections : i ≠ j)
    (hi : (p.locks selections)[i]? = some (some a)) (hj : (p.locks selections)[j]? = some (some b))
    {key key' : NativeKey} (hkeys : key ≠ key') {blob : String}
    (hnew : ∀ d, Holds p.fallback disk d → d.get? key.service key.key ≠ some blob) (blob' : String) :
    ¬ Lossless p.fallback [⟨a, .put key blob⟩, ⟨b, .put key' blob'⟩] disk := by
  have hlocks : a ≠ b := by
    rintro rfl
    exact hselections (locksFrom_inj hi hj)
  exact FileStore.not_lossless_of_two_stores husable hlocks hkeys hnew blob'

/-- A provider that finds nothing. -/
def bare : Provider Unit := ⟨"app", .optional, "store.json", .linux, .keyring none, rfl⟩

def asked : List (Selection Unit) := List.replicate 2 ⟨.optional, ⟨FileStore.blank, .empty, ()⟩⟩

/-- Two selections that fall back are enough to lose a change. -/
theorem not_lossless : ¬ ∀ (p : Provider Unit) (selections : List (Selection Unit)) (disk : Disk)
    (jobs : List Job), disk.Sound → Forward p.fallback disk → selections.length = 2 →
    (∀ s ∈ selections, s.fallsBack p = true) → (∀ job ∈ jobs, some job.store ∈ p.locks selections) →
    (jobs.map fun job => job.change.key).Nodup → Lossless p.fallback jobs disk := by
  intro h
  have hlossless := h bare asked FileStore.blank FileStore.twoStores (Disk.sound_blank [])
    (FileStore.forward_of_plain (by decide +kernel) _) rfl (by decide +kernel) (by decide +kernel) (by decide)
  have hfirst : (bare.locks asked)[0]? = some (some 0) := by decide +kernel
  have hsecond : (bare.locks asked)[1]? = some (some 1) := by decide +kernel
  refine not_lossless_of_two_selections FileStore.usable_blank (by decide) hfirst hsecond (by decide)
    (fun d hholds => ?_) "y" hlossless
  obtain rfl := hholds.unique (.inl ⟨by decide +kernel, rfl⟩)
  decide

end Strongbox.Provider
