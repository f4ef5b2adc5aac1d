import Strongbox.Pattern.Mode
import Strongbox.Pattern.Node
import Strongbox.Text.Digits
/-! Escapes: what a backslash makes of the characters after it. Nothing here holds without the
tables of a script: words, digits and blanks are those of ASCII, and only where a mode asks for
them. -/
namespace Strongbox.Pattern

inductive Escape where
  /-- `byte` tells a character that was given as one byte. -/
  | literal (c : Char) (byte : Bool)
  | set (s : CharSet)
  | assertion (a : Assertion)
  deriving DecidableEq, Repr

namespace Escape

def control? (c : Char) : Option Char :=
  if c = 'a' then some '\x07'
  else if c = 'f' then some '\x0c'
  else if c = 't' then some '\t'
  else if c = 'n' then some '\n'
  else if c = 'r' then some '\r'
  else if c = 'v' then some '\x0b'
  else none

def assertion? (c : Char) : Option Assertion :=
  if c = 'A' then some .textStart
  else if c = 'z' then some .textEnd
  else if c = 'b' then some (.word .edge)
  else if c = 'B' then some (.word .noEdge)
  else if c = '<' then some (.word .first)
  else if c = '>' then some (.word .last)
  else none

def set? (c : Char) : Option CharSet :=
  if c = 'd' then some .digits
  else if c = 's' then some .blanks
  else if c = 'w' then some .words
  else none

def hexLength? (c : Char) : Option Nat :=
  if c = 'x' then some 2
  else if c = 'u' then some 4
  else if c = 'U' then some 8
  else none

def takeHex (m : Mode) : Nat → List Char → Option (List Char × List Char)
  | 0, cs => some ([], cs)
  | n + 1, cs => match m.skip cs with
    | [] => none
    | c :: cs =>
      if (Text.hexValue? c).isSome then (takeHex m n cs).map fun (ds, rest) => (c :: ds, rest)
      else none

/-- ASCII characters that are neither letters nor digits stand for themselves. -/
def isPlain (c : Char) : Bool := c.toNat < 0x80 && !c.isAlphanum && c != '<' && c != '>'

def read? (m : Mode) : List Char → Option (Escape × List Char)
  | [] => none
  | c :: cs => match hexLength? c with
    | some n => do
      let (ds, rest) ← takeHex m n cs
      let value ← Text.readHex? ds
      if value.isValidChar then some (literal (Char.ofNat value) (c == 'x'), rest) else none
    | none =>
      if isPlain c then some (literal c false, cs)
      else match control? c, assertion? c, set? c with
        | some c, _, _ => some (literal c false, cs)
        | _, some a, _ => some (assertion a, cs)
        | _, _, some s => if m.everyScript then none else some (set s, cs)
        | _, _, _ => none

end Escape
end Strongbox.Pattern
