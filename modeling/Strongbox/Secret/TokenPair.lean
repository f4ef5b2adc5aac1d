import Strongbox.Secret.Token
/-! Access and refresh token of one grant. Parameters travel with the pair in memory only: they are
neither stored nor compared. -/
namespace Strongbox

structure TokenPair where
  access : Token
  refresh : Token
  parameters : List (String × String)
  access_type : access.type = .access
  refresh_type : refresh.type = .refresh
  access_target : access.target = Uuid.nil
  refresh_target : refresh.target = Uuid.nil
  deriving DecidableEq, Repr

namespace TokenPair

/-- The access value is looked at first. -/
def make (access refresh : String) : Except SecretError TokenPair :=
  if ha : Text.isBlank access = false then
    if hr : Text.isBlank refresh = false then
      .ok ⟨⟨.access, access, Uuid.nil, ha⟩, ⟨.refresh, refresh, Uuid.nil, hr⟩, [], rfl, rfl, rfl, rfl⟩
    else .error (.validation "the refresh token is empty")
  else .error (.validation "the access token is empty")

def withParameters (p : TokenPair) (parameters : List (String × String)) : TokenPair :=
  { p with parameters }

def validate (p : TokenPair) : Except SecretError Unit := do
  p.access.validate
  p.refresh.validate

def same (a b : TokenPair) : Bool := a.access.same b.access && a.refresh.same b.refresh

def hashMarks (p : TokenPair) : List HashMark := p.access.hashMarks ++ p.refresh.hashMarks

def debug (p : TokenPair) : String :=
  let shown := p.parameters.map fun (k, v) => Text.debug k ++ ": " ++ Text.debug v
  Text.debugRecord "TokenPair"
    [("access_token", p.access.debug), ("refresh_token", p.refresh.debug),
     ("parameters", "\x7b" ++ ", ".intercalate shown ++ "\x7d")] false

end TokenPair
end Strongbox
