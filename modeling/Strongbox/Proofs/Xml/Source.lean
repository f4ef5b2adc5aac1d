import Strongbox.Proofs.Xml.Markup
/-! Documents as they are written: every piece of a document with what its writer may choose, the text
that the pieces make, and what the document says of its root and of the children of its root. -/
namespace Strongbox.Xml.Source

/-- A name that a tag may hold. -/
structure Name where
  chars : List Char
  nonempty : chars ≠ []
  legal : isTagName chars = true

def Name.string (n : Name) : String := String.ofList n.chars

structure Blanks where
  chars : List Char
  blank : ∀ c ∈ chars, isBlankChar c = true

/-- An attribute, with the blanks between its parts. Its value stands as it is written, references
included, in quotes of either kind that it does not hold. -/
structure Attribute where
  before : Blanks
  apart : before.chars ≠ []
  name : Name
  afterName : Blanks
  beforeValue : Blanks
  quote : Char
  quotes : Doctype.isQuote quote = true
  value : List Char
  closed : quote ∉ value

def Attribute.text (a : Attribute) : List Char :=
  a.before.chars ++ a.name.chars ++ a.afterName.chars ++ ['='] ++ a.beforeValue.chars ++
    a.quote :: (a.value ++ [a.quote])

/-- What the tag that begins an element holds. -/
structure Tag where
  name : Name
  attributes : List Attribute
  ending : Blanks

namespace Tag

/-- Content of the tag after its name. -/
def tail (t : Tag) : List Char := t.attributes.flatMap Attribute.text ++ t.ending.chars

def start (t : Tag) : List Char := '<' :: (t.name.chars ++ t.tail ++ ['>'])

/-- The tag of an element that is closed with it. -/
def childless (t : Tag) : List Char := '<' :: (t.name.chars ++ t.tail ++ ['/'] ++ ['>'])

def finish (t : Tag) (blanks : Blanks) : List Char :=
  '<' :: '/' :: (t.name.chars ++ blanks.chars ++ ['>'])

end Tag

/-- Number that digits of a base make, if they all are such digits. -/
def number? (base : Nat) (digits : List Char) : Option Nat :=
  (digits.mapM (digitValue? base)).map fun values => values.foldl (fun n d => n * base + d) 0

/-- A character by its number, which no reference may give as zero. -/
structure Numeral (base : Nat) where
  char : Char
  digits : List Char
  denotes : number? base digits = some char.toNat
  nonzero : char.toNat ≠ 0

inductive Reference where
  | less
  | greater
  | ampersand
  | apostrophe
  | quotation
  | decimal (n : Numeral 10)
  | hexadecimal (n : Numeral 16)

namespace Reference

def char : Reference → Char
  | less => '<'
  | greater => '>'
  | ampersand => '&'
  | apostrophe => '\''
  | quotation => '"'
  | decimal n => n.char
  | hexadecimal n => n.char

def body : Reference → List Char
  | less => ['l', 't']
  | greater => ['g', 't']
  | ampersand => ['a', 'm', 'p']
  | apostrophe => ['a', 'p', 'o', 's']
  | quotation => ['q', 'u', 'o', 't']
  | decimal n => '#' :: n.digits
  | hexadecimal n => '#' :: 'x' :: n.digits

def text (r : Reference) : List Char := '&' :: (r.body ++ [';'])

end Reference

/-- A section of character data ends where it is first closed. -/
structure CData where
  content : List Char
  whole : ¬ [']', ']', '>'] <:+: content

def CData.text (s : CData) : List Char :=
  ['<', '!', '[', 'C', 'D', 'A', 'T', 'A', '['] ++ s.content ++ [']', ']', '>']

/-- Markup that is no part of the content of a document. Its declaration is written as an instruction. -/
inductive Aside where
  | comment (body : List Char) (whole : ¬ ['-', '-', '>'] <:+: body)
  | instruction (body : List Char) (whole : ¬ ['?', '>'] <:+: body) (named : body.head? ≠ some '>')

def Aside.text : Aside → List Char
  | comment body _ => ['<', '!', '-', '-'] ++ body ++ ['-', '-', '>']
  | instruction body _ _ => ['<', '?'] ++ body ++ ['?', '>']

/-- What stands between the tags of an element: in each case one piece, and what comes later. -/
inductive Content where
  | nothing
  | plain (c : Char) (h : isPlain c = true) (later : Content)
  | reference (r : Reference) (later : Content)
  | cdata (s : CData) (later : Content)
  | aside (a : Aside) (later : Content)
  | childless (t : Tag) (later : Content)
  | element (t : Tag) (inside : Content) (blanks : Blanks) (later : Content)

namespace Content

def text : Content → List Char
  | nothing => []
  | plain c _ later => c :: later.text
  | reference r later => r.text ++ later.text
  | cdata s later => s.text ++ later.text
  | aside a later => a.text ++ later.text
  | childless t later => t.childless ++ later.text
  | element t inside blanks later => t.start ++ inside.text ++ t.finish blanks ++ later.text

/-- Character data that stands directly here, not in an element inside. -/
def data : Content → List Char
  | nothing => []
  | plain c _ later => c :: later.data
  | reference r later => r.char :: later.data
  | cdata s later => s.content ++ later.data
  | aside _ later => later.data
  | childless _ later => later.data
  | element _ _ _ later => later.data

/-- The elements that stand directly here, each with the character data directly in it. -/
def children : Content → List (String × String)
  | nothing => []
  | plain _ _ later => later.children
  | reference _ later => later.children
  | cdata _ later => later.children
  | aside _ later => later.children
  | childless t later => (t.name.string, "") :: later.children
  | element t inside _ later => (t.name.string, String.ofList inside.data) :: later.children

end Content

inductive Root where
  | childless (t : Tag)
  | element (t : Tag) (inside : Content) (blanks : Blanks)

namespace Root

def text : Root → List Char
  | childless t => t.childless
  | element t inside blanks => t.start ++ inside.text ++ t.finish blanks

/-- Only the children and the data directly in them are kept. -/
def projection : Root → Element
  | childless t => ⟨t.name.string, []⟩
  | element t inside _ => ⟨t.name.string, inside.children⟩

end Root

/-- What may stand around the root and the document type. -/
inductive Misc where
  | space (c : Char) (h : Text.isSpace c = true)
  | aside (a : Aside)

def Misc.text : Misc → List Char
  | space c _ => [c]
  | aside a => a.text

/-- Declarations whose quotes may hold a closing bracket. -/
inductive Keyword where
  | entity
  | attributes
  | notations

def Keyword.text : Keyword → List Char
  | entity => ['E', 'N', 'T', 'I', 'T', 'Y']
  | attributes => ['A', 'T', 'T', 'L', 'I', 'S', 'T']
  | notations => ['N', 'O', 'T', 'A', 'T', 'I', 'O', 'N']

/-- A piece of the internal subset of a document type. Blanks and references to parameters are plain. -/
inductive Piece where
  | plain (c : Char) (open_ : c ≠ '<') (close : c ≠ ']')
  | aside (a : Aside)
  | element (body : List Char) (whole : '>' ∉ body)
  | declaration (keyword : Keyword) (body : List Char) (whole : closesQuotes ['>'] none body = true)

def Piece.text : Piece → List Char
  | plain c _ _ => [c]
  | aside a => a.text
  | element body _ => ['<', '!', 'E', 'L', 'E', 'M', 'E', 'N', 'T'] ++ body ++ ['>']
  | declaration keyword body _ => ['<', '!'] ++ keyword.text ++ body ++ ['>']

/-- The internal subset, with what stands after its bracket. -/
structure Subset where
  pieces : List Piece
  tail : List Char
  whole : '>' ∉ tail

def Subset.text (s : Subset) : List Char := '[' :: (s.pieces.flatMap Piece.text ++ ']' :: s.tail)

/-- A document type: its name and where it is defined from outside, then the internal subset. -/
structure Doctype where
  head : List Char
  whole : closesQuotes ['>', '['] none head = true
  named : ∃ c ∈ head, isBlankChar c = false
  subset : Option Subset

namespace Doctype

/-- What stands between the keyword and the closing bracket. -/
def content (d : Doctype) : List Char := d.head ++ (d.subset.elim [] Subset.text)

def text (d : Doctype) : List Char :=
  ['<', '!', 'D', 'O', 'C', 'T', 'Y', 'P', 'E'] ++ d.content ++ ['>']

end Doctype

/-- A document behind byte order marks, with or without a document type. -/
structure Document where
  marks : Nat
  before : List Misc
  doctype : Option (Doctype × List Misc)
  root : Root
  after : List Misc

namespace Document

/-- What stands before the root. -/
def prolog (d : Document) : List Char :=
  d.before.flatMap Misc.text ++
    d.doctype.elim [] fun (doctype, later) => doctype.text ++ later.flatMap Misc.text

def chars (d : Document) : List Char :=
  List.replicate d.marks byteOrderMark ++ (d.prolog ++ (d.root.text ++ d.after.flatMap Misc.text))

def text (d : Document) : String := String.ofList d.chars

end Document
end Strongbox.Xml.Source
