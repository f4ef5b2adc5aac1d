import Strongbox.Proofs.Xml.Element
import Strongbox.Text.Alphanumeric
/-! Names of XML, with letters and digits of every script. None of their characters means anything to a
reader of tags, so elements with such names are read back as they were, whatever their texts hold. -/
namespace Strongbox.Xml

def isNameStart (c : Char) : Bool := Text.isAlphabetic c || c == '_'

def isNameChar (c : Char) : Bool := Text.isAlphanumeric c || c == '_' || c == '-' || c == '.'

/-- A name without a prefix. -/
def isName : List Char → Bool
  | [] => false
  | c :: cs => isNameStart c && cs.all isNameChar

theorem isAlphanumeric_of_isAlphabetic {c : Char} (h : Text.isAlphabetic c = true) :
    Text.isAlphanumeric c = true := by
  unfold Text.isAlphabetic at h
  unfold Text.isAlphanumeric
  split at h
  · rw [if_pos ‹_›, Char.isAlphanum, h, Bool.true_or]
  · rw [if_neg ‹_›, h, Bool.true_or]

theorem isNameChar_of_isNameStart {c : Char} (h : isNameStart c = true) : isNameChar c = true := by
  rw [isNameStart, Bool.or_eq_true] at h
  rcases h with halpha | hline
  · rw [isNameChar, isAlphanumeric_of_isAlphabetic halpha]
    rfl
  · rw [beq_iff_eq.1 hline]
    decide

/-- The characters at which a reader of tags stops are those of no name. -/
theorem isTagChar_of_isNameChar {c : Char} (h : isNameChar c = true) : isTagChar c = true := by
  cases htag : isTagChar c with
  | true => rfl
  | false =>
      exfalso
      simp only [isTagChar, isBlankChar, Doctype.isQuote, bne, Bool.and_eq_false_iff,
        Bool.not_eq_false', Bool.or_eq_true, beq_iff_eq] at htag
      rcases htag with ((((((rfl | rfl) | rfl) | rfl) | (rfl | rfl)) | rfl) | rfl)
      all_goals exact absurd h (by decide)

theorem isTagName_of_isName {name : List Char} (h : isName name = true) : isTagName name = true := by
  cases name with
  | nil => cases h
  | cons c cs =>
      rw [isName, Bool.and_eq_true] at h
      obtain ⟨hstart, hrest⟩ := h
      have hmark : c ≠ '!' ∧ c ≠ '?' := by
        constructor <;>
          · rintro rfl
            exact absurd hstart (by decide)
      have htags : (c :: cs).all isTagChar = true := by
        rw [List.all_eq_true] at hrest ⊢
        intro d hd
        rcases List.mem_cons.1 hd with rfl | hd
        · exact isTagChar_of_isNameChar (isNameChar_of_isNameStart hstart)
        · exact isTagChar_of_isNameChar (hrest d hd)
      simp [isTagName, htags, hmark]

namespace Element

/-- Root and children have names of XML; their texts may be any. -/
def named (e : Element) : Bool :=
  isName e.name.toList && e.children.all fun child => isName child.1.toList

theorem wellNamed_of_named {e : Element} (h : e.named = true) : e.wellNamed = true := by
  simp only [named, Bool.and_eq_true, List.all_eq_true] at h
  simp only [wellNamed, Bool.and_eq_true, List.all_eq_true]
  exact ⟨isTagName_of_isName h.1, fun child hchild => isTagName_of_isName (h.2 child hchild)⟩

/-- What is written is read back as the same element: no text of a child adds, drops or merges any. -/
theorem reads_back {e : Element} (h : e.named = true) : parse e.render = .ok e :=
  parse_render (wellNamed_of_named h)

theorem reads_back_markup :
    let e : Element := ⟨"value", [("_x.1", "</_x.1><b>"), ("été", "]]>&amp;\r\n"), ("_x.1", ""),
      ("_x.1", " \t"), ("a-b", "&#13;<!--")]⟩
    e.named = true ∧ parse e.render = .ok e :=
  ⟨by decide +kernel, reads_back (by decide +kernel)⟩

end Element
end Strongbox.Xml
