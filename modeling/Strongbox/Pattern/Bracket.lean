import Strongbox.Pattern.Escape
/-! Brackets: sets of characters, listed in square brackets. Brackets may hold brackets, and two
lists with an operator between them make one; operators are read from the left. -/
namespace Strongbox.Pattern

/-- A set in the course of reading, with how deep its parts are nested. -/
structure Listing where
  set : CharSet
  height : Nat
  deriving DecidableEq, Repr

inductive Operator where
  | common
  | without
  | either
  deriving DecidableEq, Repr

def Operator.apply : Operator → CharSet → CharSet → CharSet
  | common => .common
  | without => .without
  | either => .either

namespace Listing

def together : List Listing → Listing
  | [] => ⟨.none, 0⟩
  | [l] => l
  | l :: ls => ⟨ls.foldl (fun s l => s.union l.set) l.set,
      (l :: ls).foldl (fun h l => max h l.height) 0 + 1⟩

def folded (m : Mode) (s : CharSet) : CharSet := if m.foldsCase then s.folded else s

def combined (m : Mode) (left : Option (Listing × Operator)) (right : Listing) : Listing :=
  match left with
  | none => right
  | some (l, o) => ⟨o.apply (folded m l.set) (folded m right.set), max l.height right.height + 1⟩

/-- Without every script, no set can be turned round: what it left out would not be ASCII. -/
def closed (m : Mode) (turned : Bool) (l : Listing) : Option Listing :=
  if !turned then some ⟨folded m l.set, l.height + 1⟩
  else if m.everyScript then some ⟨.except (folded m l.set), l.height + 1⟩
  else none

/-- One character of a list. The cases of every script are not known. -/
def point? (m : Mode) (c : Char) : Option Char :=
  if m.everyScript then if m.foldsCase then none else some c
  else if c.toNat < 0x80 then some c else none

def readEnd (m : Mode) : List Char → Option (Escape × List Char)
  | [] => none
  | '\\' :: cs => Escape.read? m cs
  | c :: cs => some (.literal c false, cs)

def ofEscape? (m : Mode) : Escape → Option Listing
  | .literal c _ => (point? m c).map fun c => ⟨.single c, 0⟩
  | .set s => some ⟨s, 0⟩
  | .assertion _ => none

/-- A character, an escape, or all characters between two. A minus sign before another or before
the closing bracket makes no run. -/
def readRun (m : Mode) (cs : List Char) : Option (Listing × List Char) := do
  let (start, rest) ← readEnd m cs
  match m.skip rest with
  | '-' :: after =>
    if m.peek? after == some ']' || m.peek? after == some '-' then
      some (← ofEscape? m start, m.skip rest)
    else
      let (stop, rest) ← readEnd m (m.skip after)
      match start, stop with
      | .literal a _, .literal b _ =>
        let a ← point? m a
        let b ← point? m b
        if a ≤ b then some (⟨.runs [(a.toNat, b.toNat)], 0⟩, rest) else none
      | _, _ => none
  | rest => some (← ofEscape? m start, rest)

/-- A named set, after its bracket: `some none` if it cannot be used in this mode. -/
def named? (m : Mode) : List Char → Option (Option Listing × List Char)
  | ':' :: cs => do
    let turned := cs.head? == some '^'
    let cs := if turned then cs.drop 1 else cs
    let (_, set) ← CharSet.named.find? fun (name, _) => (name.toList ++ [':', ']']).isPrefixOf cs
    let rest := (cs.dropWhile (· != ']')).drop 1
    if m.everyScript then
      some (if m.foldsCase then none else some ⟨if turned then .except set else set, 0⟩, rest)
    else some (if turned then none else some ⟨folded m set, 0⟩, rest)
  | _ => none

def countMinuses (m : Mode) (cs : List Char) : Nat × List Char :=
  match _h : m.skip cs with
  | '-' :: rest =>
    let (n, rest) := countMinuses m rest
    (n + 1, rest)
  | rest => (0, rest)
termination_by cs.length
decreasing_by
  have := m.length_skip_le cs
  simp only [_h, List.length_cons] at this
  omega

/-- Minus signs at the beginning of a list, or else a closing bracket there, are meant as they
stand. -/
def readFirst (m : Mode) (cs : List Char) : List Char × List Char :=
  match countMinuses m cs with
  | (0, ']' :: rest) => ([']'], rest)
  | (n, rest) => (List.replicate n '-', rest)

mutual
/-- A bracket after its opening, with what follows it. The fuel bounds the characters. -/
def readBracket (m : Mode) : Nat → List Char → Option (Listing × List Char)
  | 0, _ => none
  | fuel + 1, cs => do
    let cs := m.skip cs
    let turned := cs.head? == some '^'
    let (first, rest) := readFirst m (if turned then cs.drop 1 else cs)
    let first ← first.mapM fun c => ofEscape? m (.literal c false)
    let (l, rest) ← readList m fuel none first rest
    some (← closed m turned l, rest)

def readList (m : Mode) : Nat → Option (Listing × Operator) → List Listing → List Char →
    Option (Listing × List Char)
  | 0, _, _, _ => none
  | fuel + 1, left, items, cs =>
    let next (o : Operator) (rest : List Char) :=
      readList m fuel (some (combined m left (together items), o)) [] rest
    match m.skip cs with
    | [] => none
    | ']' :: rest => some (combined m left (together items), rest)
    | '&' :: '&' :: rest => next .common rest
    | '-' :: '-' :: rest => next .without rest
    | '~' :: '~' :: rest => next .either rest
    | '[' :: rest => match named? m rest with
      | some (some l, rest) => readList m fuel left (items ++ [l]) rest
      | some (none, _) => none
      | none => do
        let (l, rest) ← readBracket m fuel rest
        readList m fuel left (items ++ [l]) rest
    | cs => do
      let (l, rest) ← readRun m cs
      readList m fuel left (items ++ [l]) rest
end

end Listing
end Strongbox.Pattern
