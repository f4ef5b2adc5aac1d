import Strongbox.Proofs.Call
import Strongbox.SecretStore
/-! What a read of a store comes to, by what its native call and its format come to. -/
namespace Strongbox.SecretStore

open Log

variable {σ α : Type}

theorem make_eq_ok {native : NativeStore σ} {space : String} {format : SecretFormat α}
    {s : SecretStore σ α} (h : make native space format = .ok s) :
    s.native = native ∧ s.space = space ∧ s.format = format := by
  unfold make at h
  split at h
  · cases h
  · split at h
    · cases h
    · cases h
      exact ⟨rfl, rfl, rfl⟩

variable (s : SecretStore σ α) {key blob : String} {w w' : σ} {found : Option α} {a : α} {e : SecretError}

theorem tryGet_of_failed (hread : s.native.get (s.nativeKey key) w = .error e w') :
    s.tryGet key w = .error e w' := by
  rw [tryGet, hread]

theorem tryGet_of_absent (hread : s.native.get (s.nativeKey key) w = .ok none w') :
    s.tryGet key w = .ok none w' := by
  rw [tryGet, hread]

theorem tryGet_of_decoded (hread : s.native.get (s.nativeKey key) w = .ok (some blob) w')
    (hblob : s.format.deserialize blob = .ok a) : s.tryGet key w = .ok (some a) w' := by
  rw [tryGet, hread]
  simp only [hblob]

theorem tryGet_of_undecodable (hread : s.native.get (s.nativeKey key) w = .ok (some blob) w')
    (hblob : s.format.deserialize blob = .error e) : s.tryGet key w = .error e w' := by
  rw [tryGet, hread]
  simp only [hblob]

/-- The one event of a read that failed. -/
def unread (key : String) (e : SecretError) : Event :=
  if e.isDataError then
    s.failure .warn "Stored secret could not be decoded, treating it as absent" key e
      (s.spanOf "store.get" key)
  else s.failure .error "Failed to read secret" key e (s.spanOf "store.get" key)

theorem get_of_ok (h : s.tryGet key w = .ok found w') : s.get key w = (⟨found, []⟩, w') := by
  rw [get, h]

theorem get_of_error (h : s.tryGet key w = .error e w') :
    s.get key w = (⟨none, [s.unread key e]⟩, w') := by
  rw [get, h]
  dsimp only
  unfold unread
  split <;> rfl

/-- Both reads give the same secret. -/
theorem value_get (key : String) (w : σ) :
    (s.get key w).1.value = (Call.answer? (s.tryGet key w)).join := by
  cases h : s.tryGet key w with
  | ok found w' =>
      rw [s.get_of_ok h]
      rfl
  | error e w' =>
      rw [s.get_of_error h]
      rfl

end Strongbox.SecretStore
