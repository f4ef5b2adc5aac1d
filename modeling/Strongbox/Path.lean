/-! Paths as texts: the names that they are made of, what lies above them, and what they name inside
a directory. Nothing here asks whether anything is there. -/
namespace Strongbox.Path

def pieces : List Char → List (List Char)
  | [] => [[]]
  | c :: cs =>
    if c = '/' then [] :: pieces cs
    else match pieces cs with
      | piece :: later => (c :: piece) :: later
      | [] => [[c]]

def names (path : String) : List String := (pieces path.toList).map String.ofList

def isIdle (name : String) : Bool := name == "" || name == "."

def isAbsolute (path : String) : Bool := path.startsWith "/"

/-- A path taken apart: where it starts, the names on it, and whether a slash follows the last. -/
structure Route where
  fromRoot : Bool
  names : List String
  slash : Bool
  deriving DecidableEq, Repr

/-- Slashes only part names; several are as good as one. -/
def route (path : String) : Route :=
  ⟨isAbsolute path, (names path).filter (· != ""), path.endsWith "/"⟩

/-- Path without its last name, unless it has none. Idle names at its end do not count, but one at
the very start does. -/
def parent? (path : String) : Option String :=
  match names path with
  | [] => none
  | first :: later => match later.reverse.dropWhile isIdle with
    | _ :: above => some (
        let above := (above.dropWhile isIdle).reverse
        if above.isEmpty && first == "" then "/" else "/".intercalate (first :: above))
    | [] => if first == "" then none else some ""

/-- Path of a name inside a directory; a path from the root stands for itself. -/
def join (directory name : String) : String :=
  if isAbsolute name ∨ directory = "" then name
  else if directory.endsWith "/" then directory ++ name
  else directory ++ "/" ++ name

end Strongbox.Path
