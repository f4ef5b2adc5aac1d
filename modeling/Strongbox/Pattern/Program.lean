import Strongbox.Pattern.Node
/-! Programs: patterns as steps, and the search for a pattern in a text. Several places of a program
are followed at once, in order of preference. A place where the pattern is complete stops all those
that come after it; the text matches if such a place is among the last ones. -/
namespace Strongbox.Pattern

/-- A step at a place of a program. Places that follow it are given by number. -/
inductive Step where
  | jump (next : Nat)
  | read (set : CharSet) (next : Nat)
  | assert (a : Assertion) (next : Nat)
  | fork (first second : Nat)
  | complete
  deriving DecidableEq, Repr

abbrev Program := List Step

def Node.size : Node → Nat
  | empty => 1
  | read _ => 1
  | assert _ => 1
  | seq a b => a.size + b.size
  | alt a b => a.size + b.size + 1
  | optional _ a => a.size + 1
  | repeated _ a => a.size + 1

def Step.choose (few : Bool) (again on : Nat) : Step := if few then fork on again else fork again on

/-- Steps of a pattern whose first one has the number `base`; the last ones go on to `next`. -/
def Node.code (base next : Nat) : Node → Program
  | empty => [.jump next]
  | read s => [.read s next]
  | assert a => [.assert a next]
  | seq a b => a.code base (base + a.size) ++ b.code (base + a.size) next
  | alt a b =>
    .fork (base + 1) (base + 1 + a.size) ::
      (a.code (base + 1) next ++ b.code (base + 1 + a.size) next)
  | optional few a => .choose few (base + 1) next :: a.code (base + 1) next
  | repeated few a => a.code base (base + a.size) ++ [.choose few base next]

/-- A pattern that may begin anywhere: its own steps come before one more character. -/
def Node.program (a : Node) : Program :=
  .fork 2 1 :: .read .any 0 :: (a.code 2 (2 + a.size) ++ [.complete])

namespace Program

/-- Places that can be reached without reading, in order of preference, after those of `seen`. The
fuel bounds how many places lie between; the length of the program is enough. -/
def reach (p : Program) (here : Around) : Nat → List Nat → Nat → List Nat
  | 0, seen, _ => seen
  | fuel + 1, seen, i =>
    if seen.contains i then seen
    else
      let seen := seen ++ [i]
      match p[i]? with
      | some (.jump next) => p.reach here fuel seen next
      | some (.assert a next) => if a.holds here then p.reach here fuel seen next else seen
      | some (.fork a b) => p.reach here fuel (p.reach here fuel seen a) b
      | _ => seen

def reachAll (p : Program) (here : Around) (places : List Nat) : List Nat :=
  places.foldl (p.reach here p.length) []

def isComplete (p : Program) (places : List Nat) : Bool := places.any (p[·]? == some .complete)

def advance (p : Program) (c : Char) : List Nat → List Nat
  | [] => []
  | i :: later => match p[i]? with
    | some .complete => []
    | some (.read s next) => if s.holds c then next :: p.advance c later else p.advance c later
    | _ => p.advance c later

/-- Whether the pattern is complete in the middle of a character of several bytes, where only what
can match nothing is. It cannot begin again after that. -/
def completesWithin (p : Program) (c : Char) : Bool :=
  1 < c.utf8Size && p.isComplete (p.reachAll ⟨some c, some c⟩ [0])

/-- Whether the search ends at a complete place. `before` is the last character that was read. -/
def search (p : Program) (before : Option Char) (places : List Nat) : List Char → Bool
  | [] => p.isComplete (p.reachAll ⟨before, none⟩ places)
  | c :: cs =>
    let next := p.advance c (p.reachAll ⟨before, some c⟩ places)
    p.search (some c) (if p.completesWithin c then next.filter (· != 0) else next) cs

end Program

/-- Whether a pattern is first found where it ends together with the text. -/
def Node.isFoundAtEnd (a : Node) (text : List Char) : Bool := a.program.search none [0] text

end Strongbox.Pattern
