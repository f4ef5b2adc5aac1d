import Strongbox.Toml.Table
/-! Documents of TOML: a statement to a line, each a field or a header, and the one table that they
describe together. -/
namespace Strongbox.Toml

open Text (openBrace closeBrace)

structure Path where
  above : List String
  last : String
  deriving DecidableEq, Repr

inductive Statement where
  | field (path : Path) (v : Value)
  | header (path : Path)
  | item (path : Path)

def skipBlanks (cs : List Char) : List Char := cs.dropWhile isBlank

/-- Passes over blanks, comments and line ends. A comment holds plain characters only. -/
def skipLines (comment : Bool) : List Char → Option (List Char)
  | [] => some []
  | c :: cs =>
    if atLineEnd c cs then skipLines false cs
    else if comment then if isPlain c then skipLines true cs else none
    else if isBlank c then skipLines false cs
    else if c = '#' then skipLines true cs
    else some (c :: cs)

def skipLine (cs : List Char) : Option (List Char) :=
  let rest := match skipBlanks cs with
    | '#' :: cs => cs.dropWhile isPlain
    | cs => cs
  match rest with
  | [] => some []
  | '\n' :: cs => some cs
  | '\r' :: '\n' :: cs => some cs
  | _ => none

def isNameChar (c : Char) : Bool := c.isAlphanum || c == '_' || c == '-'

def readName (cs : List Char) : Option (String × List Char) :=
  match cs with
  | '"' :: '"' :: '"' :: _ => none
  | '\'' :: '\'' :: '\'' :: _ => none
  | _ => match readShort? cs with
    | some (name, rest) => some (String.ofList name, rest)
    | none =>
      let name := cs.takeWhile isNameChar
      if name.isEmpty then none else some (String.ofList name, cs.dropWhile isNameChar)

/-- How many names a path may have, and how deep arrays and tables may stand in one another. -/
def depthLimit : Nat := 80

/-- Names with dots between them, at most as many as the bound. -/
def readNames : Nat → List Char → Option (Path × List Char)
  | 0, _ => none
  | bound + 1, cs => do
    let (name, cs) ← readName (skipBlanks cs)
    match skipBlanks cs with
    | '.' :: cs =>
      let (path, cs) ← readNames bound cs
      return (⟨name :: path.above, path.last⟩, cs)
    | cs => return (⟨[], name⟩, cs)

def readPath (cs : List Char) : Option (Path × List Char) := readNames depthLimit cs

mutual

/-- A value with what follows it. `depth` is how much deeper brackets may go; the fuel bounds the
steps. -/
def readValue : Nat → Nat → List Char → Option (Value × List Char)
  | 0, _, _ => none
  | fuel + 1, depth, cs => match cs with
    | [] => none
    | c :: rest =>
      if c = '[' then
        match depth with
        | 0 => none
        | depth + 1 => do
          let (items, rest) ← readItems fuel depth (← skipLines false rest)
          return (.array items false, rest)
      else if c = openBrace then
        match depth with
        | 0 => none
        | depth + 1 => do
          let (t, rest) ← readFields fuel depth ⟨.braces, []⟩ (← skipLines false rest)
          return (t.toValue, rest)
      else if c = '"' ∨ c = '\'' then
        (readText? cs).map fun (text, rest) => (.text (String.ofList text), rest)
      else (readScalar? cs).map fun (s, rest) => (.scalar s, rest)

/-- Items up to the closing bracket. A comma may follow the last. -/
def readItems : Nat → Nat → List Char → Option (List Value × List Char)
  | 0, _, _ => none
  | fuel + 1, depth, cs => match cs with
    | ']' :: rest => some ([], rest)
    | _ => do
      let (v, rest) ← readValue fuel depth cs
      match ← skipLines false rest with
      | ',' :: rest =>
        let (items, rest) ← readItems fuel depth (← skipLines false rest)
        return (v :: items, rest)
      | ']' :: rest => return ([v], rest)
      | _ => none

/-- Fields up to the closing brace, added to those before. A comma may follow the last, and line ends
may stand between any two parts. -/
def readFields : Nat → Nat → Table → List Char → Option (Table × List Char)
  | 0, _, _, _ => none
  | fuel + 1, depth, t, cs =>
    if cs.head? = some closeBrace then some (t, cs.tail)
    else do
      let (path, rest) ← readPath cs
      match ← skipLines false rest with
      | '=' :: rest =>
        let (v, rest) ← readValue fuel depth (← skipLines false rest)
        let t ← t.addField path.above path.last v
        match ← skipLines false rest with
        | c :: rest =>
          if c = ',' then readFields fuel depth t (← skipLines false rest)
          else if c = closeBrace then some (t, rest)
          else none
        | [] => none
      | _ => none

end

def readHeader (closing cs : List Char) : Option (Path × List Char) := do
  let (path, rest) ← readPath cs
  if closing.isPrefixOf rest then return (path, rest.drop closing.length) else none

def Statement.read (cs : List Char) : Option (Statement × List Char) :=
  match cs with
  | '[' :: '[' :: cs => (readHeader [']', ']'] cs).map fun (path, rest) => (.item path, rest)
  | '[' :: cs => (readHeader [']'] cs).map fun (path, rest) => (.header path, rest)
  | _ => do
    let (path, rest) ← readPath cs
    match rest with
    | '=' :: rest =>
      let (v, rest) ← readValue (rest.length + 1) depthLimit (skipBlanks rest)
      return (.field path v, rest)
    | _ => none

/-- Statements up to the end, one to a line. The fuel bounds the lines. -/
def readStatements : Nat → List Char → Option (List Statement)
  | 0, _ => none
  | fuel + 1, cs => do
    match ← skipLines false cs with
    | [] => return []
    | cs =>
      let (s, rest) ← Statement.read cs
      return s :: (← readStatements fuel (← skipLine rest))

/-- A document so far, and the names that lead to the table under the last header. -/
structure Draft where
  root : Table
  here : List String

namespace Draft

def add (d : Draft) : Statement → Option Draft
  | .field path v =>
    (d.root.within .passed (fun t => t.addField path.above path.last v) d.here).map fun root =>
      { d with root }
  | .header path =>
    (d.root.openTable path.above path.last).map fun root => ⟨root, path.above ++ [path.last]⟩
  | .item path =>
    (d.root.openItem path.above path.last).map fun root => ⟨root, path.above ++ [path.last]⟩

end Draft

/-- The table that statements describe, unless one of them contradicts those before it. -/
def Table.ofStatements? (statements : List Statement) : Option Table :=
  (statements.foldlM Draft.add ⟨.document, []⟩).map (·.root)

/-- A mark of the byte order at the very front is no part of a document. -/
def dropMark : List Char → List Char
  | '\uFEFF' :: cs => cs
  | cs => cs

def Table.read? (s : String) : Option Table := do
  let cs := dropMark s.toList
  ofStatements? (← readStatements (cs.length + 1) cs)

end Strongbox.Toml
