import Strongbox.Json.Literal
/-! Values of JSON: laid out over lines when written, passed over when what they hold is not asked
for. -/
namespace Strongbox.Json

open Text (openBrace closeBrace)

def isSpace (c : Char) : Bool := c == ' ' || c == '\n' || c == '\t' || c == '\r'

def skipSpace (cs : List Char) : List Char := cs.dropWhile isSpace

def indent (depth : Nat) : List Char := List.replicate (2 * depth) ' '

def fieldLines (depth : Nat) : List (String × List Char) → List Char
  | [] => []
  | [(name, value)] => indent depth ++ quote name ++ ':' :: ' ' :: value ++ ['\n']
  | (name, value) :: rest =>
    indent depth ++ quote name ++ ':' :: ' ' :: value ++ ',' :: '\n' :: fieldLines depth rest

/-- An object whose values are written out already; without fields it stays on one line. -/
def objectAt (depth : Nat) (fields : List (String × List Char)) : List Char :=
  if fields.isEmpty then [openBrace, closeBrace]
  else openBrace :: '\n' :: fieldLines (depth + 1) fields ++ indent depth ++ [closeBrace]

def spanDigits (cs : List Char) : List Char × List Char := cs.span Char.isDigit

def skipDigits (cs : List Char) : Option (List Char) :=
  match spanDigits cs with
  | ([], _) => none
  | (_, rest) => some rest

def skipFraction : List Char → Option (List Char)
  | '.' :: cs => skipDigits cs
  | cs => some cs

def skipExponent : List Char → Option (List Char)
  | c :: cs =>
    if c = 'e' ∨ c = 'E' then
      match cs with
      | '+' :: cs => skipDigits cs
      | '-' :: cs => skipDigits cs
      | cs => skipDigits cs
    else some (c :: cs)
  | [] => some []

/-- A number; its whole part has no leading zero. -/
def skipNumber (cs : List Char) : Option (List Char) := do
  let cs := match cs with
    | '-' :: cs => cs
    | cs => cs
  let rest ← match spanDigits cs with
    | ([], _) => none
    | ('0' :: _ :: _, _) => none
    | (_, rest) => some rest
  skipExponent (← skipFraction rest)

def skipWord (word cs : List Char) : Option (List Char) :=
  if word.isPrefixOf cs then some (cs.drop word.length) else none

mutual

/-- Rest after any value. The fuel bounds the steps; the length of the text is enough. -/
def skipValue : Nat → List Char → Option (List Char)
  | 0, _ => none
  | fuel + 1, cs => match skipSpace cs with
    | [] => none
    | '"' :: cs => skipText cs
    | '[' :: cs => match skipSpace cs with
      | ']' :: cs => some cs
      | cs => skipItems fuel cs
    | c :: cs =>
      if c = openBrace then
        match skipSpace cs with
        | [] => none
        | c' :: cs' => if c' = closeBrace then some cs' else skipMembers fuel (c' :: cs')
      else if c = 'n' then skipWord ['u', 'l', 'l'] cs
      else if c = 't' then skipWord ['r', 'u', 'e'] cs
      else if c = 'f' then skipWord ['a', 'l', 's', 'e'] cs
      else skipNumber (c :: cs)

def skipItems : Nat → List Char → Option (List Char)
  | 0, _ => none
  | fuel + 1, cs => match skipValue fuel cs with
    | none => none
    | some cs => match skipSpace cs with
      | ',' :: cs => skipItems fuel cs
      | ']' :: cs => some cs
      | _ => none

def skipMembers : Nat → List Char → Option (List Char)
  | 0, _ => none
  | fuel + 1, cs => match skipSpace cs with
    | '"' :: cs => match skipText cs with
      | none => none
      | some cs => match skipSpace cs with
        | ':' :: cs => match skipValue fuel cs with
          | none => none
          | some cs => match skipSpace cs with
            | [] => none
            | c :: cs =>
              if c = ',' then skipMembers fuel cs
              else if c = closeBrace then some cs
              else none
        | _ => none
    | _ => none

end

def readName (cs : List Char) : Option (List Char × List Char) :=
  match skipSpace cs with
  | '"' :: cs => match readText cs with
    | none => none
    | some (name, cs) => match skipSpace cs with
      | ':' :: cs => some (name, cs)
      | _ => none
  | _ => none

inductive Follow where
  | more (rest : List Char)
  | done (rest : List Char)

def follow? (cs : List Char) : Option Follow :=
  match skipSpace cs with
  | [] => none
  | c :: cs =>
    if c = ',' then some (.more cs)
    else if c = closeBrace then some (.done cs)
    else none

end Strongbox.Json
