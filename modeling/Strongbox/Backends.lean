import Strongbox.Native.File
import Strongbox.Native.Keyring
import Strongbox.Platform
/-! Everything that native stores keep their blobs in, and how the secure store of a platform is
found among it. -/
namespace Strongbox

open Log

/-- `ρ` is whatever other stores stand in. -/
structure Backends (ρ : Type) where
  disk : Disk
  keyring : Keyring
  rest : ρ

namespace Backends

variable {ρ : Type}

def file (path : String) : NativeStore (Backends ρ) :=
  (FileStore.native path).within (·.disk) fun disk b => { b with disk }

def secret (p : KeyringPlatform) : NativeStore (Backends ρ) :=
  (Keyring.native p).within (·.keyring) fun keyring b => { b with keyring }

end Backends

abbrev Detector (ρ : Type) :=
  Platform → String → Backends ρ → Logged (Except SecretError (NativeStore (Backends ρ)))

namespace Detector

variable {ρ : Type}

/-- Asks the keyring of the platform, which on Linux is reached over a session bus. -/
def keyring (session : Option String) : Detector ρ := fun platform space b =>
  match platform.keyring? with
  | none => ⟨.error (.unavailable s!"no secure store on {platform.display}"), []⟩
  | some p =>
    if platform = .linux ∧ session.getD "" = "" then
      ⟨.error (.unavailable (p.displayName ++
        " needs a D-Bus session (DBUS_SESSION_BUS_ADDRESS is not set)")), []⟩
    else (Keyring.probe p space b.keyring).map fun answer => answer.map fun () => Backends.secret p

end Detector
end Strongbox
