import Strongbox.Text.Utf8
import Strongbox.Xml.Event
import Strongbox.Xml.Reference
import Strongbox.Text.Blank
import Strongbox.Error
/-! Elements of two levels: a root and the texts of its direct children. Reading a document keeps
that projection of it; writing an element gives a document that reads back as the element. -/
namespace Strongbox.Xml

structure Element where
  name : String
  children : List (String × String)
  deriving DecidableEq, Repr

namespace Element

def childText? (e : Element) (name : String) : Option String :=
  (e.children.find? (·.1 == name)).map (·.2)

def requiredChild (e : Element) (name : String) : Except SecretError String :=
  match e.childText? name with
  | some text => .ok text
  | none => .error (.malformed s!"<{e.name}> is missing required element <{name}>")

end Element

inductive ReadError where
  | refused (fault : Fault) (position : Nat)
  | manyRoots
  | strayText
  | strayReference
  | reference (e : ReferenceError)
  | unclosed
  | rootless
  deriving DecidableEq, Repr

def ReadError.message : ReadError → String
  | refused fault position => s!"{fault.message} at position {position}"
  | manyRoots => "document has more than one root element"
  | strayText => "text content outside the root element"
  | strayReference => "entity reference outside the root element"
  | reference (.number e) => "invalid character reference: " ++ e.message
  | reference (.unknown name) => "unknown entity reference &" ++ String.ofList name ++ ";"
  | unclosed => "unexpected end of document: unclosed element"
  | rootless => "document has no root element"

/-- What has been read so far. `child` is the direct child of the root that is open, with the text
gathered for it. -/
structure Reading where
  depth : Nat
  root : Option Element
  rootClosed : Bool
  child : Option (String × String)
  deriving DecidableEq, Repr

namespace Reading

def start : Reading := ⟨0, none, false, none⟩

def addChild (r : Reading) (child : String × String) : Reading :=
  { r with root := r.root.map fun e => { e with children := e.children ++ [child] } }

/-- Character data counts directly inside a child of the root and nowhere else. -/
def addText (r : Reading) (content : List Char) : Reading :=
  if r.depth = 2 then
    { r with child := r.child.map fun (name, text) => (name, text ++ String.ofList content) }
  else r

def opening (r : Reading) (name : List Char) : Except ReadError Reading :=
  match r.depth with
  | 0 =>
    if r.rootClosed then .error .manyRoots
    else .ok { r with depth := 1, root := some ⟨String.ofList name, []⟩ }
  | 1 => .ok { r with depth := 2, child := some (String.ofList name, "") }
  | n => .ok { r with depth := n + 1 }

def childless (r : Reading) (name : List Char) : Except ReadError Reading :=
  match r.depth with
  | 0 =>
    if r.root.isSome then .error .manyRoots
    else .ok { r with root := some ⟨String.ofList name, []⟩, rootClosed := true }
  | 1 => .ok (r.addChild (String.ofList name, ""))
  | _ => .ok r

def closing (r : Reading) : Reading :=
  let r := if r.depth = 2 then
      match r.child with
      | some child => { r.addChild child with child := none }
      | none => r
    else r
  let r := if r.depth = 1 then { r with rootClosed := true } else r
  { r with depth := r.depth - 1 }

def step (r : Reading) : Event → Except ReadError Reading
  | .opening name => r.opening name
  | .childless name => r.childless name
  | .closing => .ok r.closing
  | .text content =>
    if r.depth = 0 ∧ content.all Text.isSpace = false then .error .strayText
    else .ok (r.addText content)
  | .cdata content => .ok (r.addText content)
  | .reference body => match resolve body with
    | .error e => .error (.reference e)
    | .ok c => if r.depth = 0 then .error .strayReference else .ok (r.addText [c])
  | .aside => .ok r

def run (r : Reading) : List Event → Except ReadError Reading
  | [] => .ok r
  | event :: later => match r.step event with
    | .ok r => run r later
    | .error e => .error e

def finish (r : Reading) : Except ReadError Element :=
  if r.depth ≠ 0 then .error .unclosed
  else match r.root with
    | some e => .ok e
    | none => .error .rootless

end Reading

def byteOrderMark : Char := Char.ofNat 0xFEFF

namespace Element

/-- An error of an earlier event comes before a fault of the text after it. Positions count bytes
of `cs`. -/
def readChars (cs : List Char) : Except ReadError Element :=
  let found := events cs
  match Reading.start.run found.events with
  | .error e => .error e
  | .ok r => match found.fault with
    | some (fault, rest) => .error (.refused fault (Text.utf8Size cs - Text.utf8Size rest))
    | none => r.finish

def read (s : String) : Except ReadError Element :=
  readChars (s.toList.dropWhile (· == byteOrderMark))

def parse (s : String) : Except SecretError Element :=
  (read s).mapError fun e => .serialization e.message

def escapeMarkup (cs : List Char) : List Char :=
  cs.flatMap fun c =>
    if c = '<' then ['&', 'l', 't', ';']
    else if c = '>' then ['&', 'g', 't', ';']
    else if c = '&' then ['&', 'a', 'm', 'p', ';']
    else [c]

/-- Carriage returns by number, since a reader may take a raw one for a line end. -/
def escapeReturns (cs : List Char) : List Char :=
  cs.flatMap fun c => if c = '\r' then ['&', '#', '1', '3', ';'] else [c]

def escape (cs : List Char) : List Char :=
  if (escapeMarkup cs).contains '\r' then escapeReturns (escapeMarkup cs) else escapeMarkup cs

def startTag (name : List Char) : List Char := '<' :: name ++ ['>']

def endTag (name : List Char) : List Char := '<' :: '/' :: name ++ ['>']

def renderChild (child : String × String) : List Char :=
  let name := child.1.toList
  startTag name ++ (if child.2.isEmpty then [] else escape child.2.toList) ++ endTag name

/-- Children in order, each with its own start and end tag, and no blank anywhere between. -/
def renderChars (e : Element) : List Char :=
  startTag e.name.toList ++ e.children.flatMap renderChild ++ endTag e.name.toList

def render (e : Element) : String := String.ofList e.renderChars

end Element
end Strongbox.Xml
