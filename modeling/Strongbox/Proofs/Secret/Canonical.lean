import Strongbox.Proofs.Secret.RoundTrip
/-! The written form of a secret, down to its last character. Others who write the format must come to the
same text, so it is laid out here as a text. -/
namespace Strongbox

open Xml

namespace Uuid

theorem escapeChar_hexDigit :
    ∀ n < 16, Element.escapeChar (Text.hexDigit n) = [Text.hexDigit n] := by
  decide

theorem written_toText (u : Uuid) : written u.toText = u.toText := by
  refine written_of_unmarked fun c hc => ?_
  rw [toText, String.toList_ofList] at hc
  rcases mem_hyphenate hc with rfl | hdigit
  · decide
  · obtain ⟨d, hd, rfl⟩ := Text.mem_hexDigits hdigit
    exact escapeChar_hexDigit d hd

end Uuid

namespace Secret

/-- The form that a secret has in every document. -/
inductive Canonical : Secret → String → Prop
  | credential (c : Credential) : Canonical (.credential c)
      (tagged "value" (tagged "Password" (written c.password) ++ tagged "Username" (written c.username)))
  | anonymous (t : Token) (htarget : t.target = Uuid.nil) : Canonical (.token t)
      (tagged "value" (tagged "Type" (written t.type.symbol) ++ tagged "Value" (written t.value)))
  | identified (t : Token) (htarget : t.target ≠ Uuid.nil) {identity : String}
      (hidentity : t.target.Spells identity) : Canonical (.token t)
      (tagged "value" (tagged "Type" (written t.type.symbol) ++ tagged "Value" (written t.value) ++
        tagged "targetIdentity" identity))
  | tokenPair (p : TokenPair) : Canonical (.tokenPair p)
      (tagged "value" (tagged "accessToken" (written p.access.value) ++
        tagged "refreshToken" (written p.refresh.value)))

theorem encode_credential (c : Credential) : (credential c).encode =
    tagged "value" (tagged "Password" (written c.password) ++ tagged "Username" (written c.username)) := by
  rw [encode, Element.render_eq]
  simp [toElement, Credential.toElement, Document.rootName]

theorem encode_token (t : Token) : (token t).encode =
    tagged "value" (tagged "Type" (written t.type.symbol) ++ tagged "Value" (written t.value) ++
      if t.target = Uuid.nil then "" else tagged "targetIdentity" t.target.toText) := by
  rw [encode, Element.render_eq]
  by_cases htarget : t.target = Uuid.nil
  · have hnone := Token.hasTarget_eq_false.2 htarget
    simp [toElement, Token.toElement, Document.rootName, hnone, htarget]
  · have hsome : t.hasTarget = true :=
      Bool.eq_true_of_not_eq_false fun hnone => htarget (Token.hasTarget_eq_false.1 hnone)
    simp [toElement, Token.toElement, Document.rootName, hsome, htarget, Uuid.written_toText,
      String.append_assoc]

theorem encode_tokenPair (p : TokenPair) : (tokenPair p).encode =
    tagged "value" (tagged "accessToken" (written p.access.value) ++
      tagged "refreshToken" (written p.refresh.value)) := by
  rw [encode, Element.render_eq]
  simp [toElement, TokenPair.toElement, Document.rootName]

/-- A secret has one canonical form, which is what is written of it; a document puts the declaration and a
line end before it. -/
theorem encode_canonical (s : Secret) : (∀ text, Canonical s text ↔ text = s.encode) ∧
    s.encodeDocument = "<?xml version=\"1.0\" encoding=\"UTF-8\"?>" ++ "\n" ++ s.encode := by
  refine ⟨fun text => ⟨fun h => ?_, ?_⟩, rfl⟩
  · cases h with
    | credential c => rw [encode_credential]
    | anonymous t htarget => rw [encode_token, if_pos htarget, String.append_empty]
    | identified t htarget hidentity =>
        rw [encode_token, if_neg htarget, Uuid.spells_iff.1 hidentity]
    | tokenPair p => rw [encode_tokenPair]
  · rintro rfl
    cases s with
    | credential c =>
        rw [encode_credential]
        exact .credential c
    | token t =>
        rw [encode_token]
        by_cases htarget : t.target = Uuid.nil
        · rw [if_pos htarget, String.append_empty]
          exact .anonymous t htarget
        · rw [if_neg htarget]
          exact .identified t htarget (Uuid.spells_iff.2 rfl)
    | tokenPair p =>
        rw [encode_tokenPair]
        exact .tokenPair p

example : (credential ⟨"", "a\r&lt;"⟩).encode =
    "<value><Password>a&#13;&amp;lt;</Password><Username></Username></value>" := by
  decide +kernel

end Secret
end Strongbox
