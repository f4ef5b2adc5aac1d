import Strongbox.Proofs.SecretStore.Opened
import Strongbox.Native.Memory
import Strongbox.Provider
/-! What the level `must` guarantees. The provider takes whatever its detector finds, so the
guarantee is the detector's: it holds just where the detector never finds an insecure store. -/
namespace Strongbox

theorem SecretStore.make_of_components {σ α : Type} (native : NativeStore σ) {space : String}
    {format : SecretFormat α} (hspace : NativeKey.isComponent space = true)
    (htype : NativeKey.isComponent format.typeName = true) :
    ∃ s, make native space format = .ok s ∧ s.isSecure = native.secure := by
  have hcheck := NativeKey.checkComponent_of_isComponent "namespace" hspace
  have hcheck' := NativeKey.checkComponent_of_isComponent "type name" htype
  unfold make
  split
  · rename_i e he
    rw [hcheck] at he
    cases he
  · split
    · rename_i e he
      rw [hcheck'] at he
      cases he
    · exact ⟨_, rfl, rfl⟩

namespace Provider

variable {ρ : Type}

/-- An answer that hands out something secure, or says that there is nothing to hand out. -/
def SecureOrUnavailable {α : Type} (secure : α → Bool) : Except SecretError α → Prop
  | .ok a => secure a = true
  | .error e => ∃ reason, e = .unavailable reason

/-- What callers may expect of the level: of the native store and of the store of every kind. -/
structure KeepsMust (p : Provider ρ) (b : Backends ρ) : Prop where
  select : SecureOrUnavailable NativeStore.secure (p.select .must b).value
  store : ∀ kind : SecretKind,
    SecureOrUnavailable SecretStore.isSecure (p.store .must kind.format b).value

theorem select_of_found {p : Provider ρ} {b : Backends ρ} {native : NativeStore (Backends ρ)}
    (h : (p.detect p.platform p.space b).value = .ok native) (level : SecurityLevel) :
    (p.select level b).value = .ok native := by
  simp only [select, Log.Logged.inside, Log.Logged.andThen, h]
  rfl

theorem select_must_of_missing {p : Provider ρ} {b : Backends ρ} {e : SecretError}
    (h : (p.detect p.platform p.space b).value = .error e) :
    ∃ reason, (p.select .must b).value = .error (.unavailable reason) := by
  simp only [select, Log.Logged.inside, Log.Logged.andThen, h]
  exact ⟨_, rfl⟩

/-- A store of any kind is as secure as the native store that was selected. -/
theorem store_of_selected {p : Provider ρ} {b : Backends ρ} {level : SecurityLevel}
    {native : NativeStore (Backends ρ)} (h : (p.select level b).value = .ok native)
    (kind : SecretKind) :
    ∃ s, (p.store level kind.format b).value = .ok s ∧ s.isSecure = native.secure := by
  obtain ⟨s, hmake, hsecure⟩ :=
    SecretStore.make_of_components native p.space_component kind.isComponent_format
  refine ⟨s, ?_, hsecure⟩
  simp only [store, Log.Logged.map, h, hmake]

theorem store_of_refused {p : Provider ρ} {b : Backends ρ} {level : SecurityLevel} {e : SecretError}
    (h : (p.select level b).value = .error e) (kind : SecretKind) :
    (p.store level kind.format b).value = .error e := by
  simp only [store, Log.Logged.map, h]

theorem keepsMust_of_found {p : Provider ρ} {b : Backends ρ} {native : NativeStore (Backends ρ)}
    (h : (p.detect p.platform p.space b).value = .ok native) :
    p.KeepsMust b ↔ native.secure = true := by
  have hselect := select_of_found h .must
  constructor
  · intro hkeeps
    have hsecure := hkeeps.select
    rw [hselect] at hsecure
    exact hsecure
  · intro hsecure
    refine ⟨?_, fun kind => ?_⟩
    · rw [hselect]
      exact hsecure
    · obtain ⟨s, hstore, hsame⟩ := store_of_selected hselect kind
      rw [hstore]
      exact hsame.trans hsecure

theorem keepsMust_of_missing {p : Provider ρ} {b : Backends ρ} {e : SecretError}
    (h : (p.detect p.platform p.space b).value = .error e) : p.KeepsMust b := by
  obtain ⟨reason, hselect⟩ := select_must_of_missing h
  refine ⟨?_, fun kind => ?_⟩
  · rw [hselect]
    exact ⟨reason, rfl⟩
  · rw [store_of_refused hselect kind]
    exact ⟨reason, rfl⟩

/-- The level is kept just where the detector finds nothing or something secure. -/
theorem keepsMust_iff (p : Provider ρ) (b : Backends ρ) :
    p.KeepsMust b ↔
      ∀ native, (p.detect p.platform p.space b).value = .ok native → native.secure = true := by
  cases h : (p.detect p.platform p.space b).value with
  | ok native =>
      rw [keepsMust_of_found h]
      constructor
      · rintro hsecure native' ⟨⟩
        exact hsecure
      · exact fun hall => hall native rfl
  | error e =>
      refine ⟨fun _ native hnative => ?_, fun _ => keepsMust_of_missing h⟩
      cases hnative

/-- Nothing else looks at what was found: a detector of stores in plain memory gets them through. -/
def ofPlainMemory : Provider MemoryStore where
  space := "plain"
  level := .must
  fallback := "fallback.json"
  platform := .linux
  detect := fun _ _ _ =>
    ⟨.ok ((MemoryStore.native false).within (·.rest) fun rest b => { b with rest }), []⟩
  space_component := by decide

theorem not_keepsMust : ¬ ∀ (p : Provider MemoryStore) (b : Backends MemoryStore), p.KeepsMust b := by
  intro h
  have hselect := (h ofPlainMemory ⟨⟨[], [], [], 0⟩, .empty, .empty⟩).select
  cases hselect

/-- What the keyring detector finds is secure, so its providers keep the level. -/
theorem secure_of_keyring {session : Option String} {platform : Platform} {space : String}
    {b : Backends ρ} {native : NativeStore (Backends ρ)}
    (h : (Detector.keyring session platform space b).value = .ok native) : native.secure = true := by
  unfold Detector.keyring at h
  cases hplatform : platform.keyring? with
  | none =>
      rw [hplatform] at h
      cases h
  | some k =>
      rw [hplatform] at h
      dsimp only at h
      split at h
      · cases h
      · cases hprobe : (Keyring.probe k space b.keyring).value with
        | error e =>
            simp only [Log.Logged.map, hprobe] at h
            cases h
        | ok _ =>
            simp only [Log.Logged.map, hprobe] at h
            cases h
            rfl

theorem keepsMust_of_keyring {p : Provider ρ} {session : Option String}
    (hdetect : p.detect = .keyring session) (b : Backends ρ) : p.KeepsMust b := by
  cases h : (p.detect p.platform p.space b).value with
  | error e => exact keepsMust_of_missing h
  | ok native =>
      refine (keepsMust_of_found h).2 ?_
      rw [hdetect] at h
      exact secure_of_keyring h

end Provider
end Strongbox
