import Strongbox.Proofs.Secret.Checks
import Strongbox.Proofs.Uuid
import Strongbox.Proofs.Xml.Element
import Strongbox.Secret.Document
/-! Every secret reads back from its written form. What is kept is each field of it, in its exact
case, but for the parameters of a token pair, which are never written. -/
namespace Strongbox

open Xml

namespace Document

theorem declaration_toList : ∃ content, declaration.toList = '<' :: '?' :: (content ++ ['?', '>']) ∧
    '?' ∉ content ∧ content.head? ≠ some '>' :=
  ⟨"xml version=\"1.0\" encoding=\"UTF-8\"".toList, by decide, by decide, by decide⟩

/-- The declaration before an element, and the line end after it, change nothing. -/
theorem parse_declared {e : Element} (h : e.wellNamed = true) :
    Element.parse (declaration ++ "\n" ++ e.render) = .ok e := by
  obtain ⟨content, hdeclaration, hmark, hstart⟩ := declaration_toList
  have hchars : (declaration ++ "\n" ++ e.render).toList =
      '<' :: '?' :: (content ++ '?' :: '>' :: '\n' :: e.renderChars) := by
    simp [hdeclaration, Element.render]
  rw [Element.parse, Element.read_of_toList hchars, Reading.onward_instruction (fun h => hmark (h.subset (by simp))) hstart,
    Reading.onward_space rfl (by decide), Reading.onward_renderChars h]
  rfl

end Document

theorem Credential.ofElement_toElement (c : Credential) : ofElement c.toElement = .ok c := by
  simp [ofElement, toElement, Element.requiredChild, Element.childText?, pure, Except.pure, bind,
    Except.bind]

theorem Credential.wellNamed_toElement (c : Credential) : c.toElement.wellNamed = true := by
  simp only [toElement, Element.wellNamed, List.all_cons, List.all_nil]
  decide

theorem TokenType.parse_symbol (t : TokenType) : parse t.symbol = .ok t := by
  cases t <;> rfl

namespace Token

theorem hasTarget_eq_false {t : Token} : t.hasTarget = false ↔ t.target = Uuid.nil := by
  simp [hasTarget, Uuid.isNil]

/-- The nil identity is kept through its absence. -/
theorem targetOfText_toElement (t : Token) :
    targetOfText (t.toElement.childText? "targetIdentity") = .ok t.target := by
  cases h : t.hasTarget with
  | true =>
      have hchild : t.toElement.childText? "targetIdentity" = some t.target.toText := by
        simp [toElement, Element.childText?, h]
      rw [hchild]
      simp only [targetOfText, Uuid.parse_trim_toText]
  | false =>
      have hnil := hasTarget_eq_false.1 h
      have hchild : t.toElement.childText? "targetIdentity" = none := by
        simp [toElement, Element.childText?, h]
      rw [hchild, hnil]
      rfl

theorem ofElement_toElement (t : Token) : ofElement t.toElement = .ok t := by
  have htype : t.toElement.requiredChild "Type" = .ok t.type.symbol := by
    simp [toElement, Element.requiredChild, Element.childText?]
  have hvalue : t.toElement.requiredChild "Value" = .ok t.value := by
    simp [toElement, Element.requiredChild, Element.childText?]
  have hmake : make t.value t.type t.target = .ok t := dif_pos t.value_not_blank
  simp only [ofElement, htype, hvalue, bind, Except.bind, TokenType.parse_symbol,
    targetOfText_toElement, hmake]
  rfl

theorem wellNamed_toElement (t : Token) : t.toElement.wellNamed = true := by
  cases h : t.hasTarget with
  | true => simp [toElement, h, Element.wellNamed]; decide
  | false => simp [toElement, h, Element.wellNamed]; decide

end Token

namespace TokenPair

/-- What is left of a pair when it is stored. -/
def persisted (p : TokenPair) : TokenPair := p.withParameters []

theorem make_values (p : TokenPair) : make p.access.value p.refresh.value = .ok p.persisted :=
  make_eq_ok.2 ⟨rfl, rfl, rfl⟩

theorem ofElement_toElement (p : TokenPair) : ofElement p.toElement = .ok p.persisted := by
  have haccess : p.toElement.requiredChild "accessToken" = .ok p.access.value := by
    simp [toElement, Element.requiredChild, Element.childText?]
  have hrefresh : p.toElement.requiredChild "refreshToken" = .ok p.refresh.value := by
    simp [toElement, Element.requiredChild, Element.childText?]
  simp only [ofElement, haccess, hrefresh, bind, Except.bind, make_values]
  rfl

theorem wellNamed_toElement (p : TokenPair) : p.toElement.wellNamed = true := by
  simp only [toElement, Element.wellNamed, List.all_cons, List.all_nil]
  decide

end TokenPair

namespace Secret

/-- What is left of a secret when it is stored: all of it, but for the parameters of a pair. -/
def persisted : Secret → Secret
  | credential c => .credential c
  | token t => .token t
  | tokenPair p => .tokenPair p.persisted

theorem wellNamed_toElement (s : Secret) : s.toElement.wellNamed = true := by
  cases s with
  | credential c => exact c.wellNamed_toElement
  | token t => exact t.wellNamed_toElement
  | tokenPair p => exact p.wellNamed_toElement

theorem decode_of_parse {s : Secret} {text : String} (h : Element.parse text = .ok s.toElement) :
    decode s.kind text = .ok s.persisted := by
  cases s with
  | credential c =>
      have hc := c.ofElement_toElement
      simp only [decode, kind, Credential.xml, SecretFormat.xml, h, bind, Except.bind]
      exact congrArg (credential <$> ·) hc
  | token t =>
      have ht := t.ofElement_toElement
      simp only [decode, kind, Token.xml, SecretFormat.xml, h, bind, Except.bind]
      exact congrArg (token <$> ·) ht
  | tokenPair p =>
      have hp := p.ofElement_toElement
      simp only [decode, kind, TokenPair.xml, SecretFormat.xml, h, bind, Except.bind]
      exact congrArg (tokenPair <$> ·) hp

theorem decode_encodeDocument (s : Secret) : decode s.kind s.encodeDocument = .ok s.persisted :=
  decode_of_parse (Document.parse_declared s.wellNamed_toElement)

/-- A secret of any kind, written bare or as a document, reads back with every field it keeps. -/
theorem decode_encode (s : Secret) :
    decode s.kind s.encode = .ok s.persisted ∧
      decode s.kind s.encodeDocument = .ok s.persisted := by
  exact ⟨decode_of_parse (Element.parse_render s.wellNamed_toElement), s.decode_encodeDocument⟩

end Secret
end Strongbox
