import Strongbox.Proofs.Secret.Acceptance
/-! Documents of one kind that are read as another. The kinds have no child in common, so that the first
one which a reader asks for is never there; and texts add no children, whatever they spell. -/
namespace Strongbox

open Xml

namespace SecretKind

/-- The child that a reader of the kind asks for first. -/
def firstChild : SecretKind → String
  | credential => "Password"
  | token => "Type"
  | tokenPair => "accessToken"

theorem firstChild_mem (kind : SecretKind) : kind.firstChild ∈ kind.childNames := by
  cases kind <;> decide

theorem disjoint_childNames {kind kind' : SecretKind} (h : kind ≠ kind') :
    ∀ name ∈ kind.childNames, name ∉ kind'.childNames := by
  revert h
  cases kind <;> cases kind' <;> decide

end SecretKind

namespace Secret

variable {e : Element} {kind : SecretKind}

theorem childText?_of_unnamed {name : String} (h : ∀ child ∈ e.children, child.1 ≠ name) :
    e.childText? name = none := by
  have hfind : e.children.find? (·.1 == name) = none := by
    rw [List.find?_eq_none]
    intro child hchild heq
    exact h child hchild (beq_iff_eq.1 heq)
  rw [Element.childText?, hfind]
  rfl

/-- Nothing else is looked at where the first child is missing. -/
theorem ofElement_of_missing (h : e.childText? kind.firstChild = none) :
    ofElement kind e = .error (missing e kind.firstChild) := by
  have hrequired : e.requiredChild kind.firstChild = .error (missing e kind.firstChild) := by
    rw [Element.requiredChild, h, missing]
  cases kind with
  | credential =>
      rw [ofElement, Credential.ofElement, show e.requiredChild "Password" = _ from hrequired]
      rfl
  | token =>
      rw [ofElement, Token.ofElement, show e.requiredChild "Type" = _ from hrequired]
      rfl
  | tokenPair =>
      rw [ofElement, TokenPair.ofElement, show e.requiredChild "accessToken" = _ from hrequired]
      rfl

/-- A document whose children all belong to one kind says nothing to the readers of the others. -/
theorem decode_of_foreign {text : String} {kind' : SecretKind} (hparse : Element.parse text = .ok e)
    (hchildren : ∀ child ∈ e.children, child.1 ∈ kind'.childNames) (h : kind ≠ kind') :
    decode kind text = .error (missing e kind.firstChild) := by
  have hnone : e.childText? kind.firstChild = none := by
    refine childText?_of_unnamed fun child hchild hname => ?_
    have hforeign := SecretKind.disjoint_childNames h _ kind.firstChild_mem
    exact hforeign (hname ▸ hchildren child hchild)
  rw [decode_of_parse_ok hparse, ofElement_of_missing hnone]

theorem mem_childNames_toElement (s : Secret) :
    ∀ child ∈ s.toElement.children, child.1 ∈ s.kind.childNames := by
  intro child hchild
  cases s with
  | credential c =>
      simp only [toElement, Credential.toElement, List.mem_cons, List.not_mem_nil, or_false] at hchild
      rcases hchild with rfl | rfl <;> simp [kind, SecretKind.childNames]
  | token t =>
      simp only [toElement, Token.toElement, List.mem_append, List.mem_cons, List.not_mem_nil,
        or_false] at hchild
      rcases hchild with (rfl | rfl) | htarget
      · simp [kind, SecretKind.childNames]
      · simp [kind, SecretKind.childNames]
      · split at htarget
        · rw [List.mem_singleton.1 htarget]
          simp [kind, SecretKind.childNames]
        · cases htarget
  | tokenPair p =>
      simp only [toElement, TokenPair.toElement, List.mem_cons, List.not_mem_nil, or_false] at hchild
      rcases hchild with rfl | rfl <;> simp [kind, SecretKind.childNames]

theorem name_toElement (s : Secret) : s.toElement.name = Document.rootName := by
  cases s <;> rfl

/-- A secret of one kind is never read as another, whatever its texts hold, bare or as a document. The
error names the first child that is not there. -/
theorem decode_crossed (s : Secret) (h : kind ≠ s.kind) :
    let crossed := SecretError.malformed s!"<value> is missing required element <{kind.firstChild}>"
    decode kind s.encode = .error crossed ∧ decode kind s.encodeDocument = .error crossed := by
  intro crossed
  have hmissing : missing s.toElement kind.firstChild = crossed := by
    rw [missing, name_toElement]
    rfl
  have hnames := s.wellNamed_toElement
  have hforeign : ∀ text, Element.parse text = .ok s.toElement → decode kind text = .error crossed := by
    intro text hparse
    rw [decode_of_foreign hparse s.mem_childNames_toElement h, hmissing]
  exact ⟨hforeign _ (Element.parse_render hnames), hforeign _ (Document.parse_declared hnames)⟩

/-- A password that spells out a token is no token. -/
theorem decode_crossed_injected :
    let s := Secret.credential ⟨"u", "</Password><Type>Access</Type><Value>x</Value><Password>"⟩
    SecretKind.token ≠ s.kind ∧
      decode .token s.encode = .error (.malformed "<value> is missing required element <Type>") ∧
      decode .token s.encodeDocument = .error (.malformed "<value> is missing required element <Type>") :=
  ⟨by decide, decode_crossed _ (by decide)⟩

end Secret
end Strongbox
