import Strongbox.Native.Keyring
/-! Families of systems that a program may run on. -/
namespace Strongbox

inductive Platform where
  | windows
  | linux
  | macos
  | unsupported
  deriving DecidableEq, Repr

namespace Platform

def all : List Platform := [windows, linux, macos, unsupported]

def current : Platform := linux

def display : Platform → String
  | windows => "Windows"
  | linux => "Linux"
  | macos => "macOS"
  | unsupported => "unsupported platform"

/-- Name of the alternative itself, as a developer reads it. -/
def debug : Platform → String
  | windows => "Windows"
  | linux => "Linux"
  | macos => "MacOs"
  | unsupported => "Unsupported"

def keyring? : Platform → Option KeyringPlatform
  | windows => some .windowsCredentialManager
  | linux => some .secretService
  | macos => some .macosKeychain
  | unsupported => none

end Platform
end Strongbox
