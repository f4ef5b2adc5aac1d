import Strongbox.Log.Directive
/-! Filters: which events and spans reach the log. A filter is a list of directives. Of those for
targets the most specific one decides; those for spans add what happens inside the spans. -/
namespace Strongbox.Log

structure Filter where
  directives : List Directive
  deriving DecidableEq, Repr

namespace Filter

def pieces : List Char → List (List Char)
  | [] => [[]]
  | c :: cs =>
    if c = ',' then [] :: pieces cs
    else match pieces cs with
      | piece :: later => (c :: piece) :: later
      | [] => [[c]]

def parseAll : List (List Char) → Except FilterError (List Directive)
  | [] => .ok []
  | piece :: later => do
    let d ← Directive.parse piece
    return d :: (← parseAll later)

/-- Empty pieces are dropped; the first piece that is no directive decides the error. -/
def parse (s : String) : Except FilterError Filter :=
  (parseAll ((pieces s.toList).filter (!·.isEmpty))).map Filter.mk

def ofLevel (target : String) (level : Level) : Filter := ⟨[⟨some target, none, [], some level⟩]⟩

/-- The most specific of some directives; of equally specific ones the last. -/
def decisive : List Directive → Option Directive
  | [] => none
  | d :: later => match decisive later with
    | none => some d
    | some best => if Directive.lessSpecific d best then some best else some d

def permits (candidates : List Directive) (level : Level) : Bool :=
  match decisive candidates with
  | some d => Threshold.allows d.level level
  | none => false

/-- Nothing above this level passes, whatever else the directives say. A directive that asks for a
value needs every span. -/
def ceiling (f : Filter) : Threshold :=
  if f.directives.any fun d => d.fields.any (·.value.isSome) then some .trace
  else f.directives.foldl (fun t d => Threshold.max t d.level) none

def dynamicCeiling (f : Filter) : Threshold :=
  (f.directives.filter (·.isDynamic)).foldl (fun t d => Threshold.max t d.level) none

/-- Directives without those that a later one about the same replaces. -/
def settled : List Directive → List Directive
  | [] => []
  | d :: later => if later.any d.sameSubject then settled later else d :: settled later

/-- Whether a span is seen. One that a directive selects is seen whatever its own level. -/
def showsSpan (f : Filter) (s : Span) : Bool :=
  Threshold.allows f.ceiling s.level &&
    (f.directives.any (·.selects s) || permits (f.directives.filter (·.mattersToSpan s)) s.level)

def levelInside (f : Filter) (s : Span) : Threshold :=
  if f.showsSpan s then
    ((settled f.directives).filter fun d => d.selects s && d.valuesMatch s).foldl
      (fun t d => Threshold.max t d.level) none
  else none

def shows (f : Filter) (e : Event) : Bool :=
  Threshold.allows f.ceiling e.level &&
    (permits (f.directives.filter (·.mattersTo e)) e.level ||
      (Threshold.allows f.dynamicCeiling e.level &&
        match e.span with
        | some s => Threshold.allows (f.levelInside s) e.level
        | none => false))

end Filter
end Strongbox.Log
