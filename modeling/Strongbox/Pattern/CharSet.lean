import Strongbox.Text.Runs
/-! Sets of characters as a pattern writes them: runs of code points, and what is made of sets. -/
namespace Strongbox.Pattern

inductive CharSet where
  | runs (rs : Text.Runs)
  | union (a b : CharSet)
  | common (a b : CharSet)
  | without (a b : CharSet)
  | either (a b : CharSet)
  | except (a : CharSet)
  /-- With the other case of its ASCII letters. -/
  | folded (a : CharSet)
  deriving DecidableEq, Repr

def swapCase (c : Char) : Char := if c.isUpper then c.toLower else c.toUpper

namespace CharSet

def holds : CharSet → Char → Bool
  | runs rs, c => rs.holds c
  | union a b, c => a.holds c || b.holds c
  | common a b, c => a.holds c && b.holds c
  | without a b, c => a.holds c && !b.holds c
  | either a b, c => a.holds c != b.holds c
  | except a, c => !a.holds c
  | folded a, c => a.holds c || a.holds (swapCase c)

def none : CharSet := runs []

def any : CharSet := except none

def single (c : Char) : CharSet := runs [(c.toNat, c.toNat)]

def digits : CharSet := runs [(0x30, 0x39)]

def blanks : CharSet := runs [(9, 13), (0x20, 0x20)]

def words : CharSet := runs [(0x30, 0x39), (0x41, 0x5A), (0x5F, 0x5F), (0x61, 0x7A)]

def named : List (String × CharSet) := [
  ("alnum", runs [(0x30, 0x39), (0x41, 0x5A), (0x61, 0x7A)]),
  ("alpha", runs [(0x41, 0x5A), (0x61, 0x7A)]),
  ("ascii", runs [(0, 0x7F)]),
  ("blank", runs [(9, 9), (0x20, 0x20)]),
  ("cntrl", runs [(0, 0x1F), (0x7F, 0x7F)]),
  ("digit", digits),
  ("graph", runs [(0x21, 0x7E)]),
  ("lower", runs [(0x61, 0x7A)]),
  ("print", runs [(0x20, 0x7E)]),
  ("punct", runs [(0x21, 0x2F), (0x3A, 0x40), (0x5B, 0x60), (0x7B, 0x7E)]),
  ("space", blanks),
  ("upper", runs [(0x41, 0x5A)]),
  ("word", words),
  ("xdigit", runs [(0x30, 0x39), (0x41, 0x46), (0x61, 0x66)])]

end CharSet
end Strongbox.Pattern
