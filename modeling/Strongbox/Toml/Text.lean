import Strongbox.Text.Digits
/-! Texts in TOML: four written forms, in double or single quotes, on one line or over several. A
reader takes any of them; a writer takes the first form that holds a text with the fewest escapes. -/
namespace Strongbox.Toml

def isPlain (c : Char) : Bool := c == '\t' || (0x20 ≤ c.toNat && c.toNat != 0x7f)

def isBlank (c : Char) : Bool := c == ' ' || c == '\t'

def shortEscape? (c : Char) : Option Char :=
  if c = '"' ∨ c = '\\' then some c
  else if c = 'b' then some (Char.ofNat 8)
  else if c = 't' then some '\t'
  else if c = 'n' then some '\n'
  else if c = 'f' then some (Char.ofNat 12)
  else if c = 'r' then some '\r'
  else if c = 'e' then some (Char.ofNat 27)
  else none

def hexWidth? (c : Char) : Option Nat :=
  if c = 'x' then some 2
  else if c = 'u' then some 4
  else if c = 'U' then some 8
  else none

/-- Character of a code; surrogates and codes beyond the last character have none. -/
def scalar? (n : Nat) : Option Char := if n.isValidChar then some (Char.ofNat n) else none

inductive Place where
  /-- Between characters, perhaps after an escaped line end, whose blanks are dropped. -/
  | plain (folding : Bool)
  | escape
  /-- After a backslash and blanks, where only a line end may follow. -/
  | escapedBlank
  /-- Inside an escape by code: digits still wanted, and the code so far. -/
  | code (wanted value : Nat)
  deriving DecidableEq, Repr

def between : Place := .plain false

def prepend (cs : List Char) : Option (List Char × List Char) → Option (List Char × List Char) :=
  Option.map fun (text, rest) => (cs ++ text, rest)

def readBasic : Place → List Char → Option (List Char × List Char)
  | _, [] => none
  | .plain _, c :: cs =>
    if c = '"' then some ([], cs)
    else if c = '\\' then readBasic .escape cs
    else if isPlain c then prepend [c] (readBasic between cs)
    else none
  | .escape, c :: cs =>
    match shortEscape? c, hexWidth? c with
    | some e, _ => prepend [e] (readBasic between cs)
    | none, some width => readBasic (.code width 0) cs
    | none, none => none
  | .escapedBlank, _ :: _ => none
  | .code wanted value, c :: cs => do
    let value := 16 * value + (← Text.hexValue? c)
    if wanted ≤ 1 then prepend [← scalar? value] (readBasic between cs)
    else readBasic (.code (wanted - 1) value) cs

/-- Three quotes close a text over several lines; up to two before them belong to it. -/
def close? (quote : Char) (cs : List Char) : Option (List Char × List Char) :=
  let run := (cs.takeWhile (· == quote)).length
  if run < 3 then none
  else some (List.replicate (min run 5 - 3) quote, cs.drop (min run 5))

/-- Whether a line end begins here. A carriage return alone is none. -/
def atLineEnd (c : Char) (later : List Char) : Bool :=
  c == '\n' || (c == '\r' && later.head? == some '\n')

def readLong : Place → List Char → Option (List Char × List Char)
  | _, [] => none
  | .plain folding, c :: cs =>
    if folding && (isBlank c || atLineEnd c cs) then readLong (.plain true) cs
    else match close? '"' (c :: cs) with
      | some closed => some closed
      | none =>
        if c = '\\' then readLong .escape cs
        else if isPlain c || atLineEnd c cs then prepend [c] (readLong between cs)
        else none
  | .escape, c :: cs =>
    if isBlank c then readLong .escapedBlank cs
    else if atLineEnd c cs then readLong (.plain true) cs
    else match shortEscape? c, hexWidth? c with
      | some e, _ => prepend [e] (readLong between cs)
      | none, some width => readLong (.code width 0) cs
      | none, none => none
  | .escapedBlank, c :: cs =>
    if isBlank c then readLong .escapedBlank cs
    else if atLineEnd c cs then readLong (.plain true) cs
    else none
  | .code wanted value, c :: cs => do
    let value := 16 * value + (← Text.hexValue? c)
    if wanted ≤ 1 then prepend [← scalar? value] (readLong between cs)
    else readLong (.code (wanted - 1) value) cs

def readLiteral : List Char → Option (List Char × List Char)
  | [] => none
  | c :: cs =>
    if c = '\'' then some ([], cs)
    else if isPlain c then prepend [c] (readLiteral cs)
    else none

def readLongLiteral : List Char → Option (List Char × List Char)
  | [] => none
  | c :: cs => match close? '\'' (c :: cs) with
    | some closed => some closed
    | none =>
      if isPlain c || atLineEnd c cs then prepend [c] (readLongLiteral cs) else none

def dropLineEnd : List Char → List Char
  | '\n' :: cs => cs
  | '\r' :: '\n' :: cs => cs
  | cs => cs

def readShort? : List Char → Option (List Char × List Char)
  | '"' :: cs => readBasic between cs
  | '\'' :: cs => readLiteral cs
  | _ => none

def readText? : List Char → Option (List Char × List Char)
  | '"' :: '"' :: '"' :: cs => readLong between (dropLineEnd cs)
  | '\'' :: '\'' :: '\'' :: cs => readLongLiteral (dropLineEnd cs)
  | cs => readShort? cs

/-! Writing -/

def isControl (c : Char) : Bool := (c.toNat < 0x20 || c.toNat == 0x7f) && c != '\t' && c != '\n'

/-- Length of the longest run of a character, given the run that ends here. -/
def longestRun (c : Char) (run : Nat) : List Char → Nat
  | [] => run
  | d :: ds => if d = c then longestRun c (run + 1) ds else max run (longestRun c 0 ds)

inductive Form where
  | basic
  | literal
  | longBasic
  | longLiteral
  deriving DecidableEq, Repr

def Form.of (cs : List Char) : Form :=
  let control := cs.any isControl
  let lines := cs.contains '\n'
  let backslash := cs.contains '\\'
  let double := longestRun '"' 0 cs
  let single := longestRun '\'' 0 cs
  if !control && !backslash && double = 0 && !lines then basic
  else if !control && single = 0 && !lines then literal
  else if !control && !backslash && double < 3 then longBasic
  else if !control && single < 3 then longLiteral
  else if lines then longBasic
  else basic

def upperHex (n : Nat) : List Char := (Text.hexDigits n 4).map Char.toUpper

def escapeChar (long : Bool) (c : Char) : List Char :=
  if c = '\\' then ['\\', '\\']
  else if c = '\t' then ['\\', 't']
  else if c = '\n' then if long then ['\n'] else ['\\', 'n']
  else if c = '\r' then ['\\', 'r']
  else if c.toNat = 8 then ['\\', 'b']
  else if c.toNat = 12 then ['\\', 'f']
  else if isControl c then '\\' :: 'u' :: upperHex c.toNat
  else [c]

/-- A quote is escaped when it would be one more than `allowed` in a row. -/
def escapeText (long : Bool) (allowed : Nat) : Nat → List Char → List Char
  | _, [] => []
  | run, c :: cs =>
    if c = '"' then
      if run < allowed then c :: escapeText long allowed (run + 1) cs
      else '\\' :: '"' :: escapeText long allowed 0 cs
    else escapeChar long c ++ escapeText long allowed 0 cs

/-- A text of several lines begins on a line of its own. -/
def opening (quote : Char) (cs : List Char) : List Char :=
  List.replicate 3 quote ++ if cs.contains '\n' then ['\n'] else []

def writeText (cs : List Char) : List Char :=
  match Form.of cs with
  | .basic => '"' :: escapeText false 0 0 cs ++ ['"']
  | .literal => '\'' :: cs ++ ['\'']
  | .longBasic => opening '"' cs ++ escapeText true 2 0 cs ++ List.replicate 3 '"'
  | .longLiteral => opening '\'' cs ++ cs ++ List.replicate 3 '\''

end Strongbox.Toml
