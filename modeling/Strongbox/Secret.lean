import Strongbox.Secret.TokenPair
/-! A secret of any kind. -/
namespace Strongbox

inductive Secret where
  | credential (c : Credential)
  | token (t : Token)
  | tokenPair (p : TokenPair)
  deriving DecidableEq, Repr

namespace Secret

def kind : Secret → SecretKind
  | credential _ => .credential
  | token _ => .token
  | tokenPair _ => .tokenPair

def validate : Secret → Except SecretError Unit
  | credential c => c.validate
  | token t => t.validate
  | tokenPair p => p.validate

def same : Secret → Secret → Bool
  | credential a, credential b => a == b
  | token a, token b => a.same b
  | tokenPair a, tokenPair b => a.same b
  | _, _ => false

def hashMarks : Secret → List HashMark
  | credential c => c.hashMarks
  | token t => t.hashMarks
  | tokenPair p => p.hashMarks

def debug : Secret → String
  | credential c => c.debug
  | token t => t.debug
  | tokenPair p => p.debug

end Secret
end Strongbox
