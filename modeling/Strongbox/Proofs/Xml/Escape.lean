import Strongbox.Proofs.Xml.Reading
/-! Escaping a text is one pass over its characters, and what it writes is read back as the text,
whatever the text holds. -/
namespace Strongbox.Xml.Element

/-- How a character of a text is written. -/
def escapeChar (c : Char) : List Char :=
  if c = '<' then ['&', 'l', 't', ';']
  else if c = '>' then ['&', 'g', 't', ';']
  else if c = '&' then ['&', 'a', 'm', 'p', ';']
  else if c = '\r' then ['&', '#', '1', '3', ';']
  else [c]

theorem escapeReturns_of_none {cs : List Char} (h : '\r' ∉ cs) : escapeReturns cs = cs := by
  induction cs with
  | nil => rfl
  | cons c cs ih =>
      simp only [List.mem_cons, not_or] at h
      have hrest := ih h.2
      unfold escapeReturns at hrest ⊢
      rw [List.flatMap_cons, hrest, if_neg (Ne.symm h.1), List.singleton_append]

/-- The second pass is left out only where it would change nothing. -/
theorem escape_eq_flatMap (cs : List Char) : escape cs = cs.flatMap escapeChar := by
  have htwo : escape cs = escapeReturns (escapeMarkup cs) := by
    unfold escape
    split
    · rfl
    · rename_i h
      exact (escapeReturns_of_none (by simpa using h)).symm
  rw [htwo, escapeReturns, escapeMarkup, List.flatMap_assoc]
  congr 1
  funext c
  unfold escapeChar
  split <;> try rfl
  split <;> try rfl
  split <;> try rfl
  simp

theorem flatMap_escapeChar_of_unmarked {cs : List Char} (h : ∀ c ∈ cs, escapeChar c = [c]) :
    cs.flatMap escapeChar = cs := by
  induction cs with
  | nil => rfl
  | cons c cs ih =>
      rw [List.flatMap_cons, h c (by simp), ih fun d hd => h d (List.mem_cons_of_mem _ hd),
        List.singleton_append]

end Element

/-- A text as it is written, one character after the other. -/
def written (text : String) : String := String.ofList (text.toList.flatMap Element.escapeChar)

theorem toList_written (text : String) : (written text).toList = Element.escape text.toList := by
  rw [written, String.toList_ofList, Element.escape_eq_flatMap]

theorem written_of_unmarked {text : String} (h : ∀ c ∈ text.toList, Element.escapeChar c = [c]) :
    written text = text := by
  rw [written, Element.flatMap_escapeChar_of_unmarked h, String.ofList_toList]

namespace Reading

variable {total : Nat} {r : Reading} {opens : List (List Char)}

theorem onward_escapeChar (h : r.depth ≠ 0) (c : Char) (cs : List Char) :
    onward total r opens (Element.escapeChar c ++ cs) = onward total (r.addText [c]) opens cs := by
  unfold Element.escapeChar
  split
  · rename_i hc
    subst hc
    exact onward_reference (['l', 't']) h rfl rfl
  split
  · rename_i hc
    subst hc
    exact onward_reference (['g', 't']) h rfl rfl
  split
  · rename_i hc
    subst hc
    exact onward_reference (['a', 'm', 'p']) h rfl rfl
  split
  · rename_i hc
    subst hc
    exact onward_reference (['#', '1', '3']) h rfl rfl
  · exact onward_plain h (by simp_all [isPlain])

theorem onward_escape (h : r.depth ≠ 0) (text cs : List Char) :
    onward total r opens (Element.escape text ++ cs) = onward total (r.addText text) opens cs := by
  rw [Element.escape_eq_flatMap]
  induction text generalizing r with
  | nil =>
      rw [List.flatMap_nil, List.nil_append, addText_nil]
  | cons c text ih =>
      have hdepth : (r.addText [c]).depth ≠ 0 := by simpa using h
      rw [List.flatMap_cons, List.append_assoc, onward_escapeChar h, ih hdepth, addText_addText,
        List.singleton_append]

end Reading
end Strongbox.Xml
