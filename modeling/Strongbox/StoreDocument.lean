import Strongbox.SortedMap
import Strongbox.Json.Value
/-! The document behind a store file: a format version and, by service, the blobs of each key. A
document is written laid out over lines with its keys in order; it is read in that form or any
other, as an object or as an array of its fields. -/
namespace Strongbox

structure StoreDocument where
  version : Nat
  entries : SortedMap (SortedMap String)

namespace StoreDocument

/-- The only version that is written, and the highest that is read. -/
def currentVersion : Nat := 1

def empty : StoreDocument := ⟨currentVersion, .empty⟩

def get? (d : StoreDocument) (service key : String) : Option String :=
  (d.entries.get? service).bind (·.get? key)

def insert (d : StoreDocument) (service key blob : String) : StoreDocument :=
  let inner := ((d.entries.get? service).getD .empty).insert key blob
  { d with entries := d.entries.insert service inner }

/-- A service that loses its last key goes with it. -/
def erase (d : StoreDocument) (service key : String) : StoreDocument :=
  match d.entries.get? service with
  | none => d
  | some inner =>
    let inner := inner.erase key
    { d with entries :=
        if inner.isEmpty then d.entries.erase service else d.entries.insert service inner }

def renderEntries (m : SortedMap String) : List Char :=
  Json.objectAt 2 (m.toList.map fun (key, blob) => (key, Json.quote blob))

def renderChars (d : StoreDocument) : List Char :=
  Json.objectAt 0
    [("version", Nat.toDigits 10 d.version),
     ("entries", Json.objectAt 1 (d.entries.toList.map fun (s, inner) => (s, renderEntries inner)))]

def render (d : StoreDocument) : String := String.ofList d.renderChars

open Json
open Text (openBrace closeBrace)

def readVersion (cs : List Char) : Option (Nat × List Char) :=
  match spanDigits (skipSpace cs) with
  | ([], _) => none
  | (digits, rest) =>
    let n := Text.decimal digits
    let leading := digits.head? == some '0' && digits.length != 1
    let continued := match rest with
      | c :: _ => c == '.' || c == 'e' || c == 'E'
      | [] => false
    if leading || continued || 1 <<< 32 ≤ n then none else some (n, rest)

/-- Fields of an object whose values all have one form, onto those read before. The last of two
fields of a name counts. -/
def readFields {α : Type} (value : List Char → Option (α × List Char)) :
    Nat → SortedMap α → List Char → Option (SortedMap α × List Char)
  | 0, _, _ => none
  | fuel + 1, m, cs => do
    let (name, cs) ← readName cs
    let (a, cs) ← value cs
    match ← follow? cs with
    | .more cs => readFields value fuel (m.insert (String.ofList name) a) cs
    | .done cs => return (m.insert (String.ofList name) a, cs)

def readObject {α : Type} (value : List Char → Option (α × List Char)) (cs : List Char) :
    Option (SortedMap α × List Char) :=
  match skipSpace cs with
  | c :: cs =>
    if c = openBrace then
      match skipSpace cs with
      | c' :: cs' =>
        if c' = closeBrace then some (.empty, cs') else readFields value cs.length .empty cs
      | [] => none
    else none
  | [] => none

def readBlob (cs : List Char) : Option (String × List Char) :=
  match skipSpace cs with
  | '"' :: cs => (readText cs).map fun (text, cs) => (String.ofList text, cs)
  | _ => none

def readEntries : List Char → Option (SortedMap (SortedMap String) × List Char) :=
  readObject (readObject readBlob)

/-- Fields of the document; a known one may stand once, an unknown one is passed over. -/
def readDocumentFields : Nat → Option Nat → Option (SortedMap (SortedMap String)) → List Char →
    Option (Option Nat × Option (SortedMap (SortedMap String)) × List Char)
  | 0, _, _, _ => none
  | fuel + 1, version, entries, cs => do
    let (name, cs) ← readName cs
    let (version, entries, cs) ←
      if name = "version".toList then
        if version.isSome then none
        else (readVersion cs).map fun (v, cs) => (some v, entries, cs)
      else if name = "entries".toList then
        if entries.isSome then none
        else (readEntries cs).map fun (e, cs) => (version, some e, cs)
      else (skipValue (cs.length + 1) cs).map fun cs => (version, entries, cs)
    match ← follow? cs with
    | .more cs => readDocumentFields fuel version entries cs
    | .done cs => return (version, entries, cs)

/-- Fields in the order of their declaration, of which the entries may be missing. -/
def readItems (cs : List Char) : Option (StoreDocument × List Char) := do
  let (version, cs) ← readVersion cs
  match skipSpace cs with
  | ']' :: cs => return (⟨version, .empty⟩, cs)
  | ',' :: cs =>
    let (entries, cs) ← readEntries cs
    match skipSpace cs with
    | ']' :: cs => return (⟨version, entries⟩, cs)
    | _ => none
  | _ => none

def readObjectForm (cs : List Char) : Option (StoreDocument × List Char) := do
  let (version, entries, rest) ← readDocumentFields cs.length none none cs
  return (⟨← version, entries.getD .empty⟩, rest)

def readForm (cs : List Char) : Option (StoreDocument × List Char) :=
  match skipSpace cs with
  | c :: cs =>
    if c = '[' then readItems cs else if c = openBrace then readObjectForm cs else none
  | [] => none

def readChars (cs : List Char) : Option StoreDocument := do
  let (d, rest) ← readForm cs
  if (skipSpace rest).isEmpty then return d else none

def read? (s : String) : Option StoreDocument := readChars s.toList

end StoreDocument
end Strongbox
