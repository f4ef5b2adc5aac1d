/-! Where a document type declaration ends: at the first closing bracket outside its quotes and its
internal subset. Inside the subset, comments, instructions and the quotes of declarations hide what
would end it. Nothing in a declaration is otherwise looked at. -/
namespace Strongbox.Xml

/-- What the reader stands in. `skip` passes over bytes of markup already recognised. -/
inductive Doctype where
  | head (quote : Option Char)
  | subset
  | skip (bytes : Nat) (next : Doctype)
  | comment (dashes : Nat)
  | instruction (asked : Bool)
  | declaration (quoted : Bool) (quote : Option Char)
  | tail

namespace Doctype

def isQuote (c : Char) : Bool := c == '"' || c == '\''

/-- What begins after a `<` inside the subset. Quotes count in declarations of entities, attributes
and notations; any other markup ends at its first closing bracket. -/
def ofMarkup (cs : List Char) : Doctype :=
  if ['!', '-', '-'].isPrefixOf cs then skip 3 (comment 0)
  else if ['?'].isPrefixOf cs then skip 1 (instruction false)
  else declaration
    (["!ENTITY", "!ATTLIST", "!NOTATION"].any fun word => word.toList.isPrefixOf cs) none

def step : Doctype → Char → List Char → Option Doctype
  | head none, c, _ =>
    if c = '>' then none
    else if c = '[' then some subset
    else if isQuote c then some (head (some c))
    else some (head none)
  | head (some q), c, _ => some (head (if c = q then none else some q))
  | subset, c, cs =>
    if c = ']' then some tail
    else if c = '<' then some (ofMarkup cs)
    else some subset
  | skip n next, c, _ => some (if n ≤ c.utf8Size then next else skip (n - c.utf8Size) next)
  | comment dashes, c, _ =>
    if c = '-' then some (comment (dashes + 1))
    else if c = '>' ∧ 2 ≤ dashes then some subset
    else some (comment 0)
  | instruction asked, c, _ =>
    if c = '>' ∧ asked then some subset else some (instruction (c == '?'))
  | declaration quoted none, c, _ =>
    if c = '>' then some subset
    else if quoted && isQuote c then some (declaration quoted (some c))
    else some (declaration quoted none)
  | declaration quoted (some q), c, _ =>
    some (declaration quoted (if c = q then none else some q))
  | tail, c, _ => if c = '>' then none else some tail

def findEnd : Doctype → List Char → Option (List Char)
  | _, [] => none
  | state, c :: cs => match step state c cs with
    | none => some (c :: cs)
    | some state => findEnd state cs

theorem length_findEnd {state : Doctype} {cs rest : List Char} (h : findEnd state cs = some rest) :
    rest.length ≤ cs.length := by
  induction cs generalizing state with
  | nil => simp [findEnd] at h
  | cons c cs ih =>
    unfold findEnd at h
    split at h
    · simp_all
    · have := ih h
      simp only [List.length_cons]
      omega

end Doctype
end Strongbox.Xml
