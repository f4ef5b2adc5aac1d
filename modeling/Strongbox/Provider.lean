import Strongbox.Backends
import Strongbox.SecretStore
import Strongbox.Settings
/-! Choosing the store: the secure one if it is found, otherwise a plain file or nothing, as the
level of security demands. The choice is made anew each time and writes nothing. -/
namespace Strongbox

open Log

structure Provider (ρ : Type) where
  space : String
  level : SecurityLevel
  fallback : String
  platform : Platform
  detect : Detector ρ
  space_component : NativeKey.isComponent space = true

theorem Settings.isComponent_of_validate {s : Settings} (h : s.validate = .ok ()) :
    NativeKey.isComponent s.space = true := by
  unfold validate at h
  split at h
  · simp at h
  · split at h
    · simp at h
    · simp_all [NativeKey.isComponent]

namespace Provider

variable {ρ : Type}

def make (environment : Environment) (space fallback : String) :
    Except SecretError (Provider ρ) :=
  match h : NativeKey.checkComponent "namespace" space with
  | .error e => .error e
  | .ok () => .ok ⟨space, .standard, fallback, .current, .keyring environment.session?,
      NativeKey.isComponent_of_check h⟩

/-- The settings are validated once more. -/
def ofSettings (environment : Environment) (s : Settings) : Except SettingsError (Provider ρ) :=
  match h : s.validate with
  | .error e => .error e
  | .ok () => match s.fallbackPath environment with
    | .error e => .error e
    | .ok fallback => .ok ⟨s.space, s.security, fallback, .current, .keyring environment.session?,
        Settings.isComponent_of_validate h⟩

def spanOf (p : Provider ρ) (level : SecurityLevel) : Span :=
  ⟨"provider.select", .info, "credstore_core::provider",
    [("secure_option", .shown level.toText), ("platform", .shown p.platform.display)]⟩

def selected (native : NativeStore (Backends ρ)) : Event :=
  ⟨.debug, storeTarget, "Secure store selected", [("backend", .quoted native.name)], none⟩

def missing (p : Provider ρ) (e : SecretError) : Event :=
  ⟨.error, storeTarget, "No secure store available",
    [("platform", .shown p.platform.display), ("error", .shown e.message)], none⟩

def fallingBack (p : Provider ρ) (e : SecretError) : Event :=
  ⟨.warn, storeTarget, "No secure store available, falling back to insecure file storage",
    [("platform", .shown p.platform.display), ("path", .shown p.fallback),
     ("error", .shown e.message)], none⟩

def settle (p : Provider ρ) (level : SecurityLevel) :
    Except SecretError (NativeStore (Backends ρ)) →
      Logged (Except SecretError (NativeStore (Backends ρ)))
  | .ok native => ⟨.ok native, [selected native]⟩
  | .error e => match level with
    | .must => ⟨.error (.unavailable ("a secure store is required but none is available on " ++
        s!"{p.platform.display}: {e.message}")), [p.missing e]⟩
    | .optional => ⟨.ok (Backends.file p.fallback), [p.fallingBack e]⟩

def select (p : Provider ρ) (level : SecurityLevel) (b : Backends ρ) :
    Logged (Except SecretError (NativeStore (Backends ρ))) :=
  ((p.detect p.platform p.space b).andThen (p.settle level)).inside (p.spanOf level)

def store {α : Type} (p : Provider ρ) (level : SecurityLevel) (format : SecretFormat α)
    (b : Backends ρ) : Logged (Except SecretError (SecretStore (Backends ρ) α)) :=
  (p.select level b).map fun answer => match answer with
    | .error e => .error e
    | .ok native => SecretStore.make native p.space format

def debug (p : Provider ρ) : String :=
  let level := match p.level with
    | .must => "Must"
    | .optional => "Optional"
  Text.debugRecord "StorageProvider"
    [("namespace", Text.debug p.space), ("default_option", level),
     ("fallback_path", Text.debug p.fallback), ("platform", p.platform.debug)] true

end Provider
end Strongbox
