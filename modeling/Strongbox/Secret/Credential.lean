import Strongbox.Secret.Kind
import Strongbox.Text.Debug
/-! Username and password. Limits are checked by `validate`, never on construction. -/
namespace Strongbox

structure Credential where
  username : String
  password : String
  deriving DecidableEq, Repr

namespace Credential

def ofParts (username password : Option String) : Credential :=
  ⟨username.getD "", password.getD ""⟩

/-- The password is looked at first. -/
def validate (c : Credential) : Except SecretError Unit :=
  if passwordLimit < c.password.length then
    .error (.validation s!"the password cannot be longer than {passwordLimit} characters")
  else if usernameLimit < c.username.length then
    .error (.validation s!"the username cannot be longer than {usernameLimit} characters")
  else .ok ()

def hashMarks (c : Credential) : List HashMark := [.text c.username, .text c.password]

def debug (c : Credential) : String :=
  Text.debugRecord "Credential"
    [("username", Text.debug c.username), ("password", Text.debug "[REDACTED]")] false

end Credential
end Strongbox
