import Strongbox.Secret.Credential
import Strongbox.Secret.TokenType
import Strongbox.Uuid
/-! Typed security tokens. A token's value is never blank; two tokens are the same when they have
one type and their values agree up to case, whatever identity they were issued for. -/
namespace Strongbox

structure Token where
  type : TokenType
  value : String
  target : Uuid
  value_not_blank : Text.isBlank value = false
  deriving DecidableEq, Repr

namespace Token

/-- Refuses a blank value; lengths are left to `validate`. -/
def make (value : String) (type : TokenType) (target : Uuid) : Except SecretError Token :=
  if h : Text.isBlank value = false then .ok ⟨type, value, target, h⟩
  else .error (.validation "the token value is empty")

/-- The type is looked up before the value is seen. -/
def ofFriendlyName (value typeName : String) : Except SecretError Token := do
  make value (← TokenType.ofFriendlyName typeName) Uuid.nil

def hasTarget (t : Token) : Bool := !t.target.isNil

def validate (t : Token) : Except SecretError Unit :=
  if Text.isBlank t.value then .error (.validation "the token value cannot be empty")
  else if passwordLimit < t.value.length then
    .error (.validation s!"the token value cannot be longer than {passwordLimit} characters")
  else .ok ()

def display (t : Token) : String := t.type.friendlyName

/-- Only a personal token stands for a username and password. -/
def toCredential (t : Token) : Except SecretError Credential :=
  if t.type = .personal then .ok ⟨t.display, t.value⟩
  else .error (.validation s!"cannot convert {t.display} to credentials")

def folded (t : Token) : List Char := Text.lowerChars t.value.toList

/-- Sameness of tokens, coarser than equality of their fields. -/
def same (a b : Token) : Bool := a.type == b.type && a.folded == b.folded

def hashMarks (t : Token) : List HashMark := .byte t.type.code :: t.folded.map .char

def debug (t : Token) : String :=
  Text.debugRecord "Token"
    [("token_type", t.type.symbol), ("value", Text.debug "[REDACTED]"),
     ("target_identity", t.target.toText)] false

end Token
end Strongbox
