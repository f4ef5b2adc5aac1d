import Strongbox.Pattern.Bracket
import Strongbox.Text.Alphanumeric
/-! Reading of patterns. A pattern is a choice of sequences; a sequence holds characters, sets,
assertions, groups and repetitions, and settings that hold up to the end of their group. -/
namespace Strongbox.Pattern

open Text (openBrace)

inductive Fault where
  | malformed
  | wordsOfEveryScript
  deriving DecidableEq, Repr

def Fault.message : Fault → String
  | malformed => "error building NFA"
  | wordsOfEveryScript =>
      "unsupported regex feature for DFAs: cannot build DFAs for regexes with Unicode word " ++
        "boundaries; switch to ASCII word boundaries, or heuristically enable Unicode word " ++
        "boundaries or use a different regex engine"

namespace Piece

/-- One character. The cases of every script are not known, and a byte must be ASCII. -/
def character? (m : Mode) (c : Char) (byte : Bool) : Option Piece :=
  if m.everyScript then if m.foldsCase then none else some (leaf (.read (.single c)))
  else if byte && 0x80 ≤ c.toNat then none
  else some (leaf (.read (Listing.folded m (.single c))))

def dot? (m : Mode) : Option Piece :=
  if !m.everyScript then none
  else if m.dotsLineEnds then some (leaf (.read .any))
  else
    let ends := CharSet.single '\n'
    let ends := if m.carriageReturns then ends.union (.single '\r') else ends
    some (leaf (.read (.except ends)))

def assertion (m : Mode) (a : Assertion) : Piece :=
  let asks := match a with
    | .word _ => m.everyScript
    | _ => false
  ⟨.assert a, 0, [], asks, false⟩

def start (m : Mode) : Piece :=
  leaf (.assert (if m.byLine then .lineStart m.carriageReturns else .textStart))

def stop (m : Mode) : Piece :=
  leaf (.assert (if m.byLine then .lineEnd m.carriageReturns else .textEnd))

def ofEscape? (m : Mode) : Escape → Option Piece
  | .literal c byte => character? m c byte
  | .set s => some (leaf (.read (Listing.folded m s)))
  | .assertion a => some (assertion m a)

def sequence : List Piece → Piece := together .seq

def choice : List Piece → Piece := together .alt

def repetition? (few : Bool) (c : Char) (p : Piece) : Option Piece :=
  if p.isSetting then none
  else if c = '?' then some (p.inside (.optional few p.node) none)
  else if c = '*' then some (p.inside (.star few p.node) none)
  else some (p.inside (.repeated few p.node) none)

def repeatLast? (few : Bool) (c : Char) (items : List Piece) : Option (List Piece) := do
  some (items.dropLast ++ [← repetition? few c (← items.getLast?)])

end Piece

inductive Opening where
  | setting (m : Mode)
  | group (m : Mode) (name : Option (List Char))
  deriving DecidableEq, Repr

namespace Opening

def isNameStart (c : Char) : Bool := c == '_' || Text.isAlphabetic c

def isNameChar (c : Char) : Bool :=
  c == '_' || c == '.' || c == '[' || c == ']' || Text.isAlphanumeric c

def readName? (m : Mode) (cs : List Char) : Option (Opening × List Char) :=
  let name := cs.takeWhile (· != '>')
  match cs.dropWhile (· != '>') with
  | '>' :: rest =>
    if name.head?.any isNameStart && name.all isNameChar then some (group m (some name), rest)
    else none
  | _ => none

/-- Settings, for what follows or for a group. Settings for what follows cannot be empty. -/
def readSettings? (m : Mode) (cs : List Char) : Option (Opening × List Char) :=
  let letters := cs.takeWhile fun c => c != ':' && c != ')'
  match cs.drop letters.length with
  | ':' :: rest => (m.settle? letters).map (group · none, rest)
  | ')' :: rest => if letters.isEmpty then none else (m.settle? letters).map (setting ·, rest)
  | _ => none

def read? (m : Mode) (cs : List Char) : Option (Opening × List Char) :=
  match m.skip cs with
  | '?' :: 'P' :: '<' :: rest => readName? m rest
  | '?' :: '<' :: rest => readName? m rest
  | '?' :: rest => readSettings? m rest
  | rest => some (group m none, rest)

end Opening

/-- A choice up to the end of its group, which is not passed. `branches` and `items` are what has
been read of the choice and of its present sequence. The fuel bounds the characters. -/
def readChoice : Nat → Mode → List Piece → List Piece → List Char → Option (Piece × List Char)
  | 0, _, _, _, _ => none
  | fuel + 1, m, branches, items, cs =>
    let choice := Piece.choice (branches ++ [Piece.sequence items])
    match m.skip cs with
    | [] => some (choice, [])
    | c :: rest =>
      if c = ')' then some (choice, c :: rest)
      else if c = '|' then readChoice fuel m (branches ++ [Piece.sequence items]) [] rest
      else if c = '(' then do
        match ← Opening.read? m rest with
        | (.setting m, rest) => readChoice fuel m branches (items ++ [Piece.setting]) rest
        | (.group inner name, rest) =>
          let (p, rest) ← readChoice fuel inner [] [] rest
          if rest.isEmpty then none
          else readChoice fuel m branches (items ++ [p.inside p.node name]) (rest.drop 1)
      else if c = '[' then do
        let (l, rest) ← Listing.readBracket m fuel rest
        let p := { Piece.leaf (.read l.set) with height := l.height }
        readChoice fuel m branches (items ++ [p]) rest
      else if c = '?' ∨ c = '*' ∨ c = '+' then do
        let few := rest.head? == some '?'
        let items ← Piece.repeatLast? (few != m.prefersFew) c items
        readChoice fuel m branches items (if few then rest.drop 1 else rest)
      else if c = openBrace then none
      else if c = '\\' then do
        let (e, rest) ← Escape.read? m rest
        readChoice fuel m branches (items ++ [← Piece.ofEscape? m e]) rest
      else do
        let p ← if c = '.' then Piece.dot? m
          else if c = '^' then some (Piece.start m)
          else if c = '$' then some (Piece.stop m)
          else Piece.character? m c false
        readChoice fuel m branches (items ++ [p]) rest

def depthLimit : Nat := 250

/-- A whole pattern. Counted repetitions are never closed, because the sign that would close them
ends the pattern; every brace is therefore a fault. -/
def parse (cs : List Char) : Except Fault Node :=
  match readChoice (cs.length + 1) Mode.usual [] [] cs with
  | some (p, []) =>
    if depthLimit < p.height || p.names.eraseDups.length != p.names.length then .error .malformed
    else if p.asksForWords then .error .wordsOfEveryScript
    else .ok p.node
  | _ => .error .malformed

end Strongbox.Pattern
