import Strongbox.Toml.Scalar
/-! Tables of TOML and the rules for adding to them: each field is set once, and how a table came to
be decides which later statements may reach into it. -/
namespace Strongbox.Toml

inductive Origin where
  /-- By a header of its own; the document itself counts as one. -/
  | header
  /-- On the way to the table of a longer header. -/
  | passed
  | dotted
  | braces
  deriving DecidableEq, Repr

inductive Value where
  | text (s : String)
  | scalar (s : Scalar)
  /-- `growing` if each item has a header of its own. -/
  | array (items : List Value) (growing : Bool)
  | table (origin : Origin) (fields : List (String × Value))

structure Table where
  origin : Origin
  fields : List (String × Value)

namespace Table

def document : Table := ⟨.header, []⟩

def get? (t : Table) (name : String) : Option Value := (t.fields.find? (·.1 == name)).map (·.2)

def put (t : Table) (name : String) (v : Value) : Table :=
  if t.fields.any (·.1 == name) then
    { t with fields := t.fields.map fun f => if f.1 == name then (name, v) else f }
  else { t with fields := t.fields ++ [(name, v)] }

def toValue (t : Table) : Value := .table t.origin t.fields

/-- Whether a path may lead on through a table. A dotted name may not open what a header closed. -/
def mayPass (made origin : Origin) : Bool :=
  origin != .braces && (made != .dotted || origin != .header)

/-- Changes the table at the end of a path. Tables that are missing on the way are made. Of an array
of tables the last is meant. -/
def within (made : Origin) (change : Table → Option Table) : List String → Table → Option Table
  | [], t => change t
  | name :: path, t => match t.get? name with
    | none => (within made change path ⟨made, []⟩).map fun child => t.put name child.toValue
    | some (.table origin fields) =>
      if mayPass made origin then
        (within made change path ⟨origin, fields⟩).map fun child => t.put name child.toValue
      else none
    | some (.array items true) => match items.getLast? with
      | some (.table origin fields) =>
        (within made change path ⟨origin, fields⟩).map fun child =>
          t.put name (.array (items.dropLast ++ [child.toValue]) true)
      | _ => none
    | some _ => none

/-- Sets a field that is not there yet. A dotted name reaches no table that has a header. -/
def setField (dotted : Bool) (name : String) (v : Value) (t : Table) : Option Table :=
  if dotted && t.origin == .header then none
  else match t.get? name with
    | none => some (t.put name v)
    | some _ => none

def addField (t : Table) (path : List String) (name : String) (v : Value) : Option Table :=
  t.within .dotted (setField (!path.isEmpty) name v) path

/-- Opens the table of a header. It may have been passed on the way to others, once. -/
def openTable (t : Table) (path : List String) (name : String) : Option Table :=
  t.within .passed (fun t => match t.get? name with
    | none => some (t.put name (.table .header []))
    | some (.table .passed fields) => some (t.put name (.table .header fields))
    | some _ => none) path

def openItem (t : Table) (path : List String) (name : String) : Option Table :=
  t.within .passed (fun t => match t.get? name with
    | none => some (t.put name (.array [.table .header []] true))
    | some (.array items true) => some (t.put name (.array (items ++ [.table .header []]) true))
    | some _ => none) path

end Table
end Strongbox.Toml
