import Strongbox.Text.Blank
import Strongbox.Error
/-! The kinds of secret, their limits, and what each of them has to offer a store. -/
namespace Strongbox

inductive SecretKind where
  | credential
  | token
  | tokenPair
  deriving DecidableEq, Repr

namespace SecretKind

def all : List SecretKind := [credential, token, tokenPair]

/-- The type component of the keys under which secrets of a kind are kept. -/
def typeName : SecretKind → String
  | credential => "Credential"
  | token => "Token"
  | tokenPair => "OAuth2Token"

end SecretKind

def usernameLimit : Nat := 511

def passwordLimit : Nat := 2047

/-- What a hasher is fed: equal secrets feed it the same marks in the same order. -/
inductive HashMark where
  | byte (n : Nat)
  | char (c : Char)
  | text (s : String)
  deriving DecidableEq, Repr

end Strongbox
