import Strongbox.Text.Digits
import Strongbox.Text.Visible
/-! Texts shown in double quotes for a developer: quotes, backslashes and characters without a
shape of their own are escaped. -/
namespace Strongbox.Text

def debugChar (c : Char) : List Char :=
  if c = '\x00' then ['\\', '0']
  else if c = '\t' then ['\\', 't']
  else if c = '\n' then ['\\', 'n']
  else if c = '\r' then ['\\', 'r']
  else if c = '"' ∨ c = '\\' then ['\\', c]
  else if isVisible c then [c]
  else '\\' :: 'u' :: openBrace :: Nat.toDigits 16 c.toNat ++ [closeBrace]

def debug (s : String) : String :=
  String.ofList ('"' :: s.toList.flatMap debugChar ++ ['"'])

/-- A record with named fields, as a developer reads it. `more` marks fields that are not shown. -/
def debugRecord (name : String) (fields : List (String × String)) (more : Bool) : String :=
  let shown := fields.map fun (field, text) => field ++ ": " ++ text
  let shown := if more then shown ++ [".."] else shown
  name ++ " \x7b " ++ ", ".intercalate shown ++ " \x7d"

end Strongbox.Text
