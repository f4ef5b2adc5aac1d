import Strongbox.Text.Digits
/-! String literals of JSON, written and read. A literal holds no raw control character, and its
escapes for surrogates come in pairs. -/
namespace Strongbox.Json

def hex4 (n : Nat) : List Char := Text.hexDigits n 4

def escapeChar (c : Char) : List Char :=
  if c = '"' ∨ c = '\\' then ['\\', c]
  else if c.toNat = 8 then ['\\', 'b']
  else if c.toNat = 12 then ['\\', 'f']
  else if c = '\n' then ['\\', 'n']
  else if c = '\r' then ['\\', 'r']
  else if c = '\t' then ['\\', 't']
  else if c.toNat < 0x20 then '\\' :: 'u' :: hex4 c.toNat
  else [c]

/-- A text in quotes; everything from the space on stands for itself but the quote and backslash. -/
def quote (s : String) : List Char := '"' :: s.toList.flatMap escapeChar ++ ['"']

def shortEscape? (c : Char) : Option Char :=
  if c = '"' ∨ c = '\\' ∨ c = '/' then some c
  else if c = 'b' then some (Char.ofNat 8)
  else if c = 'f' then some (Char.ofNat 12)
  else if c = 'n' then some '\n'
  else if c = 'r' then some '\r'
  else if c = 't' then some '\t'
  else none

def unit? (a b c d : Char) : Option Nat := Text.readHex? [a, b, c, d]

def isHigh (n : Nat) : Bool := 0xD800 ≤ n && n ≤ 0xDBFF

def isLow (n : Nat) : Bool := 0xDC00 ≤ n && n ≤ 0xDFFF

def paired (high low : Nat) : Char := Char.ofNat (0x10000 + (high - 0xD800) * 0x400 + (low - 0xDC00))

/-- Text of a literal after its opening quote, and what follows its closing quote. -/
def readText : List Char → Option (List Char × List Char)
  | [] => none
  | '"' :: rest => some ([], rest)
  | '\\' :: 'u' :: a :: b :: c :: d :: rest => do
    let n ← unit? a b c d
    if isLow n then none
    else if isHigh n then
      match rest with
      | '\\' :: 'u' :: e :: f :: g :: h :: rest =>
        let m ← unit? e f g h
        if isLow m then
          let (text, after) ← readText rest
          return (paired n m :: text, after)
        else none
      | _ => none
    else
      let (text, after) ← readText rest
      return (Char.ofNat n :: text, after)
  | '\\' :: c :: rest => do
    let e ← shortEscape? c
    let (text, after) ← readText rest
    return (e :: text, after)
  | c :: rest => do
    if c = '\\' ∨ c.toNat < 0x20 then none
    let (text, after) ← readText rest
    return (c :: text, after)

/-- What follows a literal that is passed over. Escapes must be well formed but need not pair up. -/
def skipText : List Char → Option (List Char)
  | [] => none
  | '"' :: rest => some rest
  | '\\' :: 'u' :: a :: b :: c :: d :: rest => if (unit? a b c d).isSome then skipText rest else none
  | '\\' :: c :: rest => if (shortEscape? c).isSome then skipText rest else none
  | c :: rest => if c = '\\' ∨ c.toNat < 0x20 then none else skipText rest

end Strongbox.Json
