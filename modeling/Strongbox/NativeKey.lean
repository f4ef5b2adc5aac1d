import Strongbox.Text.Blank
import Strongbox.Error
/-! Keys of a native store. The name space and the type name hold no separator, so the written form
is read back in one way only; the logical key may hold anything. -/
namespace Strongbox

namespace NativeKey

def separator : Char := ':'

def isComponent (s : String) : Bool := !Text.isBlank s && !s.toList.contains separator

/-- `field` names the component in the error. -/
def checkComponent (field value : String) : Except SecretError Unit :=
  if Text.isBlank value then .error (.validation s!"the {field} is empty")
  else if value.toList.contains separator then
    .error (.validation s!"the {field} '{value}' contains '{separator}'")
  else .ok ()

end NativeKey

structure NativeKey where
  space : String
  typeName : String
  key : String
  space_component : NativeKey.isComponent space = true
  type_component : NativeKey.isComponent typeName = true
  deriving DecidableEq, Repr

namespace NativeKey

theorem isComponent_of_check {field value : String} (h : checkComponent field value = .ok ()) :
    isComponent value = true := by
  unfold checkComponent at h
  split at h
  · simp at h
  · split at h
    · simp at h
    · simp_all [isComponent]

def make (space typeName key : String) : Except SecretError NativeKey :=
  match hs : checkComponent "namespace" space with
  | .error e => .error e
  | .ok () => match ht : checkComponent "type name" typeName with
    | .error e => .error e
    | .ok () => .ok ⟨space, typeName, key, isComponent_of_check hs, isComponent_of_check ht⟩

/-- Name space and type, which a keyring calls the service. -/
def service (k : NativeKey) : String := k.space ++ ":" ++ k.typeName

def targetName (k : NativeKey) : String := k.service ++ ":" ++ k.key

def cut : List Char → Option (List Char × List Char)
  | [] => none
  | c :: cs =>
    if c = separator then some ([], cs)
    else (cut cs).map fun (before, after) => (c :: before, after)

/-- Reads a target name; only the first two separators part it. -/
def parse (target : String) : Option NativeKey := do
  let (space, rest) ← cut target.toList
  let (typeName, key) ← cut rest
  (make (String.ofList space) (String.ofList typeName) (String.ofList key)).toOption

/-- Order by name space, then type, then key, each by its characters. -/
def before (a b : NativeKey) : Bool :=
  a.space < b.space ||
    (a.space == b.space &&
      (a.typeName < b.typeName || (a.typeName == b.typeName && a.key < b.key)))

def sort (keys : List NativeKey) : List NativeKey :=
  (keys.mergeSort fun a b => !before b a).eraseReps

end NativeKey
end Strongbox
