import Strongbox.Secret
import Strongbox.Xml.Element
/-! The one written form of every secret: a `value` element whose children stand in a fixed order.
Reading takes the first child of each name it knows and ignores every other. -/
namespace Strongbox

namespace Document

def rootName : String := "value"

def declaration : String := "<?xml version=\"1.0\" encoding=\"UTF-8\"?>"

end Document

/-- How secrets of one kind are kept as text, and under which type component. -/
structure SecretFormat (α : Type) where
  typeName : String
  serialize : α → Except SecretError String
  deserialize : String → Except SecretError α

namespace SecretFormat

def xml (kind : SecretKind) (toElement : α → Xml.Element)
    (ofElement : Xml.Element → Except SecretError α) : SecretFormat α where
  typeName := kind.typeName
  serialize a := .ok (Document.declaration ++ "\n" ++ (toElement a).render)
  deserialize text := do ofElement (← Xml.Element.parse text)

def debug (f : SecretFormat α) : String :=
  Text.debugRecord "SecretFormat" [("type_name", Text.debug f.typeName)] true

end SecretFormat

namespace Credential

def toElement (c : Credential) : Xml.Element :=
  ⟨Document.rootName, [("Password", c.password), ("Username", c.username)]⟩

def ofElement (e : Xml.Element) : Except SecretError Credential := do
  let password ← e.requiredChild "Password"
  let username ← e.requiredChild "Username"
  return ⟨username, password⟩

def xml : SecretFormat Credential := .xml .credential toElement ofElement

end Credential

namespace Token

def toElement (t : Token) : Xml.Element :=
  ⟨Document.rootName,
    [("Type", t.type.symbol), ("Value", t.value)] ++
      if t.hasTarget then [("targetIdentity", t.target.toText)] else []⟩

/-- Identity of a decoded token. White space around the literal does not count. -/
def targetOfText : Option String → Except SecretError Uuid
  | none => .ok Uuid.nil
  | some text => match Uuid.parse (Text.trim text) with
    | .ok u => .ok u
    | .error e => .error (.malformed s!"invalid targetIdentity '{text}': {e.message}")

def ofElement (e : Xml.Element) : Except SecretError Token := do
  let type ← TokenType.parse (← e.requiredChild "Type")
  let value ← e.requiredChild "Value"
  let target ← targetOfText (e.childText? "targetIdentity")
  (make value type target).mapError SecretError.asMalformed

def xml : SecretFormat Token := .xml .token toElement ofElement

end Token

namespace TokenPair

def toElement (p : TokenPair) : Xml.Element :=
  ⟨Document.rootName, [("accessToken", p.access.value), ("refreshToken", p.refresh.value)]⟩

def ofElement (e : Xml.Element) : Except SecretError TokenPair := do
  let access ← e.requiredChild "accessToken"
  let refresh ← e.requiredChild "refreshToken"
  (make access refresh).mapError SecretError.asMalformed

def xml : SecretFormat TokenPair := .xml .tokenPair toElement ofElement

end TokenPair

namespace Secret

def toElement : Secret → Xml.Element
  | credential c => c.toElement
  | token t => t.toElement
  | tokenPair p => p.toElement

def encode (s : Secret) : String := s.toElement.render

/-- The element after the declaration, which is what stores keep. -/
def encodeDocument (s : Secret) : String := Document.declaration ++ "\n" ++ s.encode

/-- A document never changes its kind: the reader says which one it wants. -/
def decode (kind : SecretKind) (text : String) : Except SecretError Secret :=
  match kind with
  | .credential => credential <$> Credential.xml.deserialize text
  | .token => token <$> Token.xml.deserialize text
  | .tokenPair => tokenPair <$> TokenPair.xml.deserialize text

end Secret
end Strongbox
