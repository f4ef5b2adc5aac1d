import Strongbox.Pattern.CharSet
/-! Patterns after reading: what has to stand in a text, in which order, and which of several ways
to match is preferred. -/
namespace Strongbox.Pattern

structure Around where
  before : Option Char
  after : Option Char
  deriving DecidableEq, Repr

inductive WordEdge where
  | edge
  | noEdge
  | first
  | last
  deriving DecidableEq, Repr

inductive Assertion where
  | textStart
  | textEnd
  | lineStart (carriageReturns : Bool)
  | lineEnd (carriageReturns : Bool)
  | word (e : WordEdge)
  deriving DecidableEq, Repr

def isWordChar (c : Option Char) : Bool := c.any CharSet.words.holds

def WordEdge.holds (e : WordEdge) (before after : Bool) : Bool := match e with
  | edge => before != after
  | noEdge => before == after
  | first => !before && after
  | last => before && !after

/-- A carriage return with a line feed after it is one end of a line. -/
def Assertion.holds (a : Assertion) (p : Around) : Bool := match a with
  | textStart => p.before.isNone
  | textEnd => p.after.isNone
  | lineStart false => p.before.isNone || p.before == some '\n'
  | lineStart true =>
    p.before.isNone || p.before == some '\n' || (p.before == some '\r' && p.after != some '\n')
  | lineEnd false => p.after.isNone || p.after == some '\n'
  | lineEnd true =>
    p.after.isNone || p.after == some '\r' || (p.after == some '\n' && p.before != some '\r')
  | word e => e.holds (isWordChar p.before) (isWordChar p.after)

/-- `few` prefers to leave a repetition as early as it can. -/
inductive Node where
  | empty
  | read (set : CharSet)
  | assert (a : Assertion)
  | seq (a b : Node)
  | alt (a b : Node)
  | optional (few : Bool) (a : Node)
  | repeated (few : Bool) (a : Node)
  deriving DecidableEq, Repr

def Node.star (few : Bool) (a : Node) : Node := optional few (repeated few a)

/-- A part of a pattern with what has to be known of it before the pattern is accepted. -/
structure Piece where
  node : Node
  height : Nat
  names : List (List Char)
  asksForWords : Bool
  isSetting : Bool
  deriving DecidableEq, Repr

namespace Piece

def leaf (node : Node) : Piece := ⟨node, 0, [], false, false⟩

def setting : Piece := ⟨.empty, 0, [], false, true⟩

def inside (p : Piece) (node : Node) (name : Option (List Char)) : Piece :=
  ⟨node, p.height + 1, name.toList ++ p.names, p.asksForWords, false⟩

def joined (join : Node → Node → Node) : Piece → List Piece → Node
  | p, [] => p.node
  | p, q :: qs => join p.node (joined join q qs)

/-- Several parts below one; `join` says what they are together. One part stays what it is. -/
def together (join : Node → Node → Node) : List Piece → Piece
  | [] => leaf .empty
  | [p] => p
  | p :: q :: qs =>
    let parts := p :: q :: qs
    ⟨joined join p (q :: qs), parts.foldl (fun h p => max h p.height) 0 + 1,
      parts.flatMap (·.names), parts.any (·.asksForWords), false⟩

end Piece
end Strongbox.Pattern
