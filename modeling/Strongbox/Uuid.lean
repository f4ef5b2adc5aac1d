import Strongbox.Text.Utf8
import Strongbox.Text.Digits
/-! Identities of 128 bits: their hyphenated text, the literals that are read as one, and the cause
for which any other text is refused. -/
namespace Strongbox

structure Uuid where
  bits : BitVec 128
  deriving DecidableEq, Repr

namespace Uuid

open Text

def nil : Uuid := ⟨0⟩

def isNil (u : Uuid) : Bool := u == nil

def groupLengths : List Nat := [8, 4, 4, 4, 12]

def hyphenate : List Nat → List Char → List Char
  | [], _ => []
  | [n], ds => ds.take n
  | n :: ns, ds => ds.take n ++ '-' :: hyphenate ns (ds.drop n)

def chars (u : Uuid) : List Char := hyphenate groupLengths (hexDigits u.bits.toNat 32)

def toText (u : Uuid) : String := String.ofList u.chars

/-- Why a text is no identity. Positions and lengths count bytes of the whole text. -/
inductive ReadError where
  | length (found : Nat)
  | character (c : Char) (position : Nat)
  | groupCount (found : Nat)
  | groupLength (group expected found : Nat)
  deriving DecidableEq, Repr

def ReadError.message : ReadError → String
  | .length found => s!"invalid length: found {found}"
  | .character c position =>
      "invalid character: found `" ++ String.singleton c ++ s!"` at {position}"
  | .groupCount found => s!"invalid group count: expected 5, found {found}"
  | .groupLength group expected found =>
      s!"invalid group length in group {group}: expected {expected}, found {found}"

def dropHyphens? : List Nat → List Char → Option (List Char)
  | [], _ => none
  | [n], ds => if ds.length = n then some ds else none
  | n :: ns, ds => match ds.drop n with
    | '-' :: rest => if (ds.take n).length = n then (ds.take n ++ ·) <$> dropHyphens? ns rest else none
    | _ => none

def urn : List Char := "urn:uuid:".toList

/-- What a mark of the hyphenated form encloses, with the size of what stands before it: braces on
both sides, or the name-space mark in any case. -/
def unmark (cs : List Char) : Option (Nat × List Char) :=
  if cs.length ≥ 2 && cs.head? == some '{' && cs.getLast? == some '}' then
    some (1, (cs.drop 1).dropLast)
  else if (cs.take urn.length).map Char.toLower == urn then some (urn.length, cs.drop urn.length)
  else none

def digits? (cs : List Char) : Option (List Char) :=
  if cs.length = 32 then some cs
  else if cs.length = 36 then dropHyphens? groupLengths cs
  else match unmark cs with
    | some (_, inner) => if inner.length = 36 then dropHyphens? groupLengths inner else none
    | none => none

/-- First character that is neither a digit nor a hyphen, with its position. -/
def strayFrom (position : Nat) : List Char → Option (Char × Nat)
  | [] => none
  | c :: cs =>
    if c = '-' ∨ (hexValue? c).isSome then strayFrom (position + c.utf8Size) cs
    else some (c, position)

def hyphensFrom (place : Nat) : List Char → List Nat
  | [] => []
  | c :: cs =>
    if c = '-' then place :: hyphensFrom (place + 1) cs else hyphensFrom (place + 1) cs

def wrongGroup (group start : Nat) : List Nat → List Nat → Option ReadError
  | n :: ns, h :: hs =>
    if h = start + n then wrongGroup (group + 1) (h + 1) ns hs
    else some (.groupLength group n (h - start))
  | _, _ => none

/-- What is wrong with the hyphens of a text that holds only digits and hyphens. -/
def blameGroups (size : Nat) (cs : List Char) : ReadError :=
  let hyphens := hyphensFrom 0 cs
  if hyphens.length ≠ 4 then .groupCount (hyphens.length + 1)
  else (wrongGroup 0 0 (groupLengths.take 4) hyphens).getD (.groupLength 4 12 (size - 24))

/-- What is wrong with a text that has the size of the hyphenated form; places count from its
start, wherever it stood. -/
def blameHyphenated (cs : List Char) : ReadError :=
  match strayFrom 0 cs with
  | some (c, position) => .character c position
  | none => blameGroups (Text.utf8Size cs) cs

def blameLoose (cs : List Char) : ReadError :=
  let size := Text.utf8Size cs
  let (offset, inner, marked) := match unmark cs with
    | some (offset, inner) => (offset, inner, true)
    | none => (0, cs, false)
  match strayFrom offset inner with
  | some (c, position) => .character c position
  | none => if !marked && !inner.contains '-' then .length size else blameGroups size inner

def hyphenatedSize : Nat := 36

/-- The cause for which a text is refused, found after every accepted shape failed. -/
def blame (cs : List Char) : ReadError :=
  let size := Text.utf8Size cs
  if size = 0 ∨ 45 < size then .length size
  else if size = hyphenatedSize then blameHyphenated cs
  else match unmark cs with
    | some (_, inner) =>
      if Text.utf8Size inner = hyphenatedSize then blameHyphenated inner else blameLoose cs
    | none => blameLoose cs

def parseChars (cs : List Char) : Except ReadError Uuid :=
  match digits? cs >>= readHex? with
  | some n => .ok ⟨BitVec.ofNat 128 n⟩
  | none => .error (blame cs)

/-- Accepts 32 digits, the hyphenated form, and the hyphenated form in braces or with its mark. -/
def parse (s : String) : Except ReadError Uuid := parseChars s.toList

end Uuid
end Strongbox
