import Strongbox.Text.Blank
import Strongbox.Text.Lowercase
import Strongbox.Error
/-! Types of security token. A type has a symbol, which documents carry, and a friendly name, which
people type; names are looked up without regard to case, symbols exactly. -/
namespace Strongbox

inductive TokenType where
  | unknown
  | access
  | refresh
  | personal
  | federated
  | test
  deriving DecidableEq, Repr

namespace TokenType

def all : List TokenType := [unknown, access, refresh, personal, federated, test]

def code : TokenType → Nat
  | unknown => 0
  | access => 1
  | refresh => 2
  | personal => 3
  | federated => 4
  | test => 5

def symbol : TokenType → String
  | unknown => "Unknown"
  | access => "Access"
  | refresh => "Refresh"
  | personal => "Personal"
  | federated => "Federated"
  | test => "Test"

def description : TokenType → Option String
  | unknown => none
  | access => some "Azure Directory Access Token"
  | refresh => some "Azure Directory Refresh Token"
  | personal => some "Personal Access Token"
  | federated => some "Federated Authentication Token"
  | test => some "Test-only Token"

def friendlyName (t : TokenType) : String := t.description.getD t.symbol

/-- Exact symbol; nothing is trimmed or folded. -/
def ofSymbol? (s : String) : Option TokenType := all.find? (·.symbol == s)

def parse (s : String) : Except SecretError TokenType :=
  match ofSymbol? s with
  | some t => .ok t
  | none => .error (.malformed s!"unknown token type '{s}'")

/-- Friendly names are compared in lower case; symbols, which come second, up to ASCII case. -/
def lookUp? (name : String) : Option TokenType :=
  let lower := Text.lowercase name
  match all.find? (fun t => Text.lowercase t.friendlyName == lower) with
  | some t => some t
  | none => all.find? (fun t => Text.eqIgnoreAsciiCase t.symbol name)

def ofFriendlyName (name : String) : Except SecretError TokenType :=
  if Text.isBlank name then .error (.validation "the token type name is empty")
  else match lookUp? name with
    | some t => .ok t
    | none => .error (.validation s!"unexpected token type '{name}' encountered")

end TokenType
end Strongbox
