import Strongbox.Log.Event
import Strongbox.Pattern.Program
import Strongbox.Pattern.Reading
import Strongbox.Text.Utf8
import Strongbox.Text.Digits
import Strongbox.Text.Blank
/-! Directives: each a level for a target, for a span, or for both, and perhaps for fields that a
span must have. A directive says what it has to do with an event or a span; filters decide. -/
namespace Strongbox.Log

open Text (openBrace closeBrace)

/-- The most verbose level that passes; `none` lets nothing pass. -/
abbrev Threshold := Option Level

namespace Threshold

def rank : Threshold → Nat
  | none => 0
  | some l => l.rank + 1

def allows (t : Threshold) (l : Level) : Bool := l.rank < rank t

def max (a b : Threshold) : Threshold := if rank a < rank b then b else a

/-- Number written with digits alone, after at most one plus sign. -/
def number? (cs : List Char) : Option Nat :=
  let digits := match cs with
    | '+' :: ds => ds
    | ds => ds
  if digits.isEmpty || !digits.all Char.isDigit then none
  else some (Text.decimal digits)

def ofNumber? : Nat → Option Threshold
  | 0 => some none
  | 1 => some (some .error)
  | 2 => some (some .warn)
  | 3 => some (some .info)
  | 4 => some (some .debug)
  | 5 => some (some .trace)
  | _ => none

def ofName? (cs : List Char) : Option Threshold :=
  let name := String.ofList (cs.map Char.toLower)
  if name = "off" then some none
  else (Level.all.find? fun l => l.toText == name).map some

def parse? (cs : List Char) : Option Threshold :=
  match number? cs with
  | some n => ofNumber? n
  | none => ofName? cs

end Threshold

/-- A value that is asked for: a truth value or a number, or else a pattern for a text. -/
inductive Wanted where
  | exact (written : String)
  | pattern (written : String) (node : Pattern.Node)
  deriving DecidableEq, Repr

structure FieldMatch where
  name : String
  value : Option Wanted
  deriving DecidableEq, Repr

structure Directive where
  target : Option String
  span : Option String
  fields : List FieldMatch
  level : Threshold
  deriving DecidableEq, Repr

inductive FilterError where
  | directive
  | level
  | field (fault : Pattern.Fault)
  /-- No refusal: a part was cut inside a character, and the process goes down. -/
  | torn
  deriving DecidableEq, Repr

def FilterError.message : FilterError → String
  | directive => "invalid filter directive"
  | level => "error parsing level filter: expected one of \"off\", \"error\", \"warn\", \"info\", " ++
      "\"debug\", \"trace\", or a number 0-5"
  | field fault => "invalid field filter: " ++ fault.message
  | torn => "byte index is not a char boundary"

namespace Wanted

def isExponent : List Char → Bool
  | [] => true
  | c :: cs => (c == 'e' || c == 'E') && !(Text.dropSign cs).isEmpty && (Text.dropSign cs).all Char.isDigit

/-- Digits before a point, after it, or both, or a name for what is no number or has no end. -/
def isNumber (cs : List Char) : Bool :=
  let body := Text.dropSign cs
  let whole := body.takeWhile Char.isDigit
  let rest := body.dropWhile Char.isDigit
  let name := String.ofList (body.map Char.toLower)
  name == "inf" || name == "infinity" || name == "nan" ||
    match rest with
    | '.' :: cs =>
      let fraction := cs.takeWhile Char.isDigit
      !(whole.isEmpty && fraction.isEmpty) && isExponent (cs.dropWhile Char.isDigit)
    | cs => !whole.isEmpty && isExponent cs

/-- What is written neither as a truth value nor as a number has to be a pattern. -/
def read (cs : List Char) : Except FilterError Wanted :=
  let written := String.ofList cs
  if written == "true" || written == "false" || isNumber cs then .ok (exact written)
  else match Pattern.parse cs with
    | .ok node => .ok (pattern written node)
    | .error fault => .error (.field fault)

/-- A truth value or a number matches no text, and a pattern matches nothing else. -/
def accepts : Wanted → FieldValue → Bool
  | pattern _ node, .quoted s => node.isFoundAtEnd s.toList
  | pattern _ node, .shown s => node.isFoundAtEnd s.toList
  | exact written, .flag b => written == if b then "true" else "false"
  | _, _ => false

end Wanted

namespace Directive

def blank : Directive := ⟨none, none, [], some .trace⟩

/-- What a reader of a directive stands in; `start` is where the present part begins. -/
inductive Place where
  | start
  | word (start : Nat)
  | span (start : Nat)
  | field (start : Nat)
  | fields
  | target
  | level (start : Nat)
  deriving DecidableEq, Repr

def part (whole : List Char) (first last : Nat) : Except FilterError (List Char) :=
  match Text.slice? whole first last with
  | some cs => .ok cs
  | none => .error .torn

def isFirst (c : Char) : Bool := c == '-' || c == ':' || c == '_' || Text.isAlphanumeric c

/-- A field with what follows its first equals sign, up to the next. -/
def readField (cs : List Char) : Except FilterError FieldMatch :=
  let name := String.ofList (cs.takeWhile (· != '='))
  match cs.dropWhile (· != '=') with
  | [] => .ok ⟨name, none⟩
  | _ :: value => (Wanted.read (value.takeWhile (· != '='))).map fun v => ⟨name, some v⟩

/-- One character more, at byte `i`. Parts are cut from `whole`. -/
def step (whole : List Char) (d : Directive) (place : Place) (i : Nat) (c : Char) :
    Except FilterError (Directive × Place) :=
  match place with
  | .start =>
    if c = '[' then .ok (d, .span (i + 1))
    else if isFirst c then .ok (d, .word i)
    else .error .directive
  | .word first =>
    if c = '=' then
      (part whole first i).map fun cs => ({ d with target := some (String.ofList cs) }, .level (i + 1))
    else if c = '[' then
      (part whole first i).map fun cs => ({ d with target := some (String.ofList cs) }, .span (i + 1))
    else .ok (d, place)
  | .target => if c = '=' then .ok (d, .level (i + 1)) else .error .directive
  | .span first =>
    if c = ']' then
      (part whole first i).map fun cs => ({ d with span := some (String.ofList cs) }, .target)
    else if c = openBrace then
      (part whole first i).map fun cs =>
        ({ d with span := if cs.isEmpty then none else some (String.ofList cs) }, .field (i + 1))
    else .ok (d, place)
  | .field first =>
    if c = closeBrace then
      (part whole first i).bind fun cs =>
        if cs.isEmpty then .error .directive
        else (readField cs).map fun f => ({ d with fields := d.fields ++ [f] }, .fields)
    else .ok (d, place)
  | .fields => if c = ']' then .ok (d, .target) else .error .directive
  | .level _ => .ok (d, place)

def scan (whole : List Char) (d : Directive) (place : Place) (i : Nat) :
    List Char → Except FilterError (Directive × Place)
  | [] => .ok (d, place)
  | c :: cs => match step whole d place i c with
    | .error e => .error e
    | .ok (d, place) => scan whole d place (i + c.utf8Size) cs

/-- A word alone is a level if it can be read as one, and a target at every level otherwise. -/
def finish (whole : List Char) (d : Directive) : Place → Except FilterError Directive
  | .word first =>
    (part whole first (Text.utf8Size whole)).map fun word =>
      if word.isEmpty then { d with level := some .trace, target := none }
      else match Threshold.parse? word with
        | some level => { d with level, target := none }
        | none => { d with level := some .trace, target := some (String.ofList word) }
  | .level first =>
    (part whole first (Text.utf8Size whole)).bind fun word =>
      if word.isEmpty then .ok { d with level := some .trace }
      else match Threshold.parse? word with
        | some level => .ok { d with level }
        | none => .error .level
  | .target => .ok d
  | _ => .error .directive

/-- The characters are scanned without the blanks around them, but parts are cut where they stand
without those blanks, so leading blanks shift every part, perhaps into the middle of a character. -/
def parse (whole : List Char) : Except FilterError Directive := do
  let (d, place) ← scan whole blank .start 0 (Text.trimEndChars (Text.trimStartChars whole))
  finish whole d place

def isStatic (d : Directive) : Bool := d.span.isNone && d.fields.all (·.value.isNone)

def isDynamic (d : Directive) : Bool := d.span.isSome || !d.fields.isEmpty

def sameSubject (a b : Directive) : Bool :=
  a.target == b.target && a.span == b.span && a.fields == b.fields

def targets (d : Directive) (target : String) : Bool :=
  match d.target with
  | some t => t.toList.isPrefixOf target.toList
  | none => true

def mattersTo (d : Directive) (e : Event) : Bool :=
  d.isStatic && d.targets e.target &&
    d.fields.all fun f => f.name == "message" || e.fields.any (·.1 == f.name)

def mattersToSpan (d : Directive) (s : Span) : Bool := d.isStatic && d.targets s.target

def selects (d : Directive) (s : Span) : Bool :=
  d.isDynamic && d.targets s.target && (d.span.isNone || d.span == some s.name) &&
    d.fields.all fun f => s.fields.any (·.1 == f.name)

def valuesMatch (d : Directive) (s : Span) : Bool :=
  d.fields.all fun f => match f.value with
    | none => true
    | some wanted => s.fields.any fun (name, value) => name == f.name && wanted.accepts value

/-- Order of specificity: a longer target first, then more fields, then later names. -/
def lessSpecific (a b : Directive) : Bool :=
  let length (d : Directive) := match d.target with
    | none => 0
    | some t => Text.utf8Size t.toList + 1
  let names (d : Directive) := d.fields.map (·.name)
  if length a ≠ length b then length a < length b
  else if a.fields.length ≠ b.fields.length then a.fields.length < b.fields.length
  else !(names b < names a)

end Directive

end Strongbox.Log
