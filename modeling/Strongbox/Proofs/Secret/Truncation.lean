import Strongbox.Proofs.Secret.Acceptance
import Strongbox.Proofs.Xml.Truncation
/-! No part of a written secret is taken for a secret, wherever the rest of it was lost. -/
namespace Strongbox

open Xml

/-- The declaration, too, is read as a whole, and an element has to follow it. -/
theorem Document.needsAll_declared {cs : List Char} (h : Reading.NeedsAll .start [] cs) :
    Reading.NeedsAll .start [] (declaration.toList ++ '\n' :: cs) := by
  obtain ⟨content, hdeclaration, hmark, hstart⟩ := declaration_toList
  have hnext : ∀ rest, next [] (declaration.toList ++ rest) = .delivered .aside [] rest := by
    intro rest
    rw [hdeclaration, List.cons_append, List.cons_append, List.append_assoc]
    exact next_instruction (fun h => hmark (h.subset (by simp))) hstart
  have hpending : Reading.start.Pending := .inr rfl
  refine .piece hpending hnext (by simp) rfl (.cons hpending ?_ h)
  exact fun _ _ => Reading.onward_space rfl (by decide)

namespace Secret

theorem encodeDocument_toList (s : Secret) : s.encodeDocument.toList =
    Document.declaration.toList ++ '\n' :: s.toElement.renderChars := by
  simp [encodeDocument, encode, Element.render]

/-- What is left of a written secret, bare or as a document, after its end was cut off. -/
def IsCut (part : String) (s : Secret) : Prop :=
  (part.toList <+: s.encode.toList ∧ part ≠ s.encode) ∨
    (part.toList <+: s.encodeDocument.toList ∧ part ≠ s.encodeDocument)

theorem parse_cut {s : Secret} {part : String} (h : IsCut part s) :
    ∃ reason, Element.parse part = .error (.serialization reason) := by
  have hneeds : Reading.NeedsAll .start [] s.toElement.renderChars :=
    .renderChars s.wellNamed_toElement
  have hmarkup : s.toElement.renderChars.head? = some '<' := by
    simp [Element.renderChars, Element.startTag]
  rcases h with ⟨hpart, hne⟩ | ⟨hpart, hne⟩
  · rw [encode, Element.render, String.toList_ofList] at hpart
    refine Element.parse_of_needsAll hmarkup hneeds hpart fun heq => hne ?_
    rw [encode, Element.render, ← heq, String.ofList_toList]
  · have hchars := s.encodeDocument_toList
    have hfirst : s.encodeDocument.toList.head? = some '<' := by
      obtain ⟨content, hdeclaration, -⟩ := Document.declaration_toList
      rw [hchars, hdeclaration]
      rfl
    have hall := Document.needsAll_declared hneeds
    rw [← hchars] at hall
    exact Element.parse_of_needsAll hfirst hall hpart fun heq => hne (String.ext heq)

/-- A secret that was not written to its end is not read, as whatever kind it is asked for. -/
theorem decode_cut {s : Secret} {part : String} (h : IsCut part s) (kind : SecretKind) :
    ∃ reason, decode kind part = .error (.serialization reason) := by
  obtain ⟨reason, hparse⟩ := parse_cut h
  exact ⟨reason, decode_of_parse_error hparse kind⟩

/-- A credential that breaks off inside the escape of its password. -/
theorem decode_cut_in_escape :
    IsCut "<value><Password>&am" (.credential ⟨"user", "&"⟩) ∧
      ∀ kind, ∃ reason, decode kind "<value><Password>&am" = .error (.serialization reason) := by
  have hcut : IsCut "<value><Password>&am" (.credential ⟨"user", "&"⟩) :=
    .inl ⟨by decide +kernel, by decide +kernel⟩
  exact ⟨hcut, decode_cut hcut⟩

end Secret
end Strongbox
