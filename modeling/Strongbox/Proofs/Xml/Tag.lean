import Strongbox.Proofs.Xml.Source
/-! Tags are delivered by their names, whatever blanks and attributes they hold. -/
namespace Strongbox.Xml.Source

theorem unquoted_of_blank {c : Char} (h : isBlankChar c = true) :
    Doctype.isQuote c = false ∧ c ∉ ['>'] := by
  simp only [isBlankChar, Bool.or_eq_true, beq_iff_eq] at h
  rcases h with ((rfl | rfl) | rfl) | rfl <;> decide

theorem Blanks.closes (b : Blanks) : closesQuotes ['>'] none b.chars = true :=
  closesQuotes_of_unquoted fun c hc => unquoted_of_blank (b.blank c hc)

theorem Name.closes (n : Name) : closesQuotes ['>'] none n.chars = true :=
  closesQuotes_of_isTagName n.legal

theorem Attribute.closes (a : Attribute) : closesQuotes ['>'] none a.text = true := by
  have hquote : a.quote ∉ ['>'] := by
    intro hmem
    have hquotes := a.quotes
    rw [List.mem_singleton.1 hmem] at hquotes
    exact absurd hquotes (by decide)
  have hname := closesQuotes_append (closesQuotes_append a.before.closes a.name.closes) a.afterName.closes
  have hequals : closesQuotes ['>'] none ['='] = true := rfl
  have hvalue := closesQuotes_append (closesQuotes_append hname hequals) a.beforeValue.closes
  exact closesQuotes_append hvalue (closesQuotes_literal a.quotes hquote a.closed)

theorem Attribute.head?_text (a : Attribute) (later : List Char) :
    ∀ c ∈ (a.text ++ later).head?, isBlankChar c = true := by
  intro c hc
  cases hbefore : a.before.chars with
  | nil => exact absurd hbefore a.apart
  | cons d ds =>
      simp only [text, hbefore, List.cons_append, List.head?_cons, Option.mem_def, Option.some.injEq] at hc
      exact a.before.blank c (by rw [hbefore, ← hc]; exact List.mem_cons_self)

theorem Attribute.getLast?_text (a : Attribute) (earlier : List Char) :
    (earlier ++ a.text).getLast? = some a.quote := by
  have hsplit : earlier ++ a.text = earlier ++ (a.before.chars ++ a.name.chars ++ a.afterName.chars ++
      ['='] ++ a.beforeValue.chars ++ a.quote :: a.value) ++ [a.quote] := by simp [text]
  rw [hsplit, List.getLast?_concat]

namespace Tag

theorem closes_attributes (attributes : List Attribute) :
    closesQuotes ['>'] none (attributes.flatMap Attribute.text) = true := by
  induction attributes with
  | nil => rfl
  | cons a attributes ih => exact closesQuotes_append a.closes ih

theorem closes_tail (t : Tag) : closesQuotes ['>'] none t.tail = true :=
  closesQuotes_append (closes_attributes t.attributes) t.ending.closes

theorem head?_tail (t : Tag) : ∀ c ∈ t.tail.head?, isBlankChar c = true := by
  cases hattributes : t.attributes with
  | nil =>
      intro c hc
      rw [tail, hattributes, List.flatMap_nil, List.nil_append] at hc
      exact t.ending.blank c (List.mem_of_mem_head? hc)
  | cons a attributes =>
      rw [tail, hattributes, List.flatMap_cons, List.append_assoc]
      exact a.head?_text _

/-- A slash is never the last character before the bracket, for attributes end in a quote. -/
theorem getLast?_ne_slash (t : Tag) : (t.name.chars ++ t.tail).getLast? ≠ some '/' := by
  intro hlast
  rcases List.eq_nil_or_concat t.ending.chars with hending | ⟨blanks, c, hending⟩
  · rcases List.eq_nil_or_concat t.attributes with hattributes | ⟨attributes, a, hattributes⟩
    · rw [tail, hattributes, hending, List.flatMap_nil, List.append_nil, List.append_nil] at hlast
      exact Xml.getLast?_ne_slash t.name.legal hlast
    · rw [tail, hattributes, hending, List.append_nil, List.concat_eq_append, List.flatMap_append,
        List.flatMap_singleton, ← List.append_assoc, a.getLast?_text] at hlast
      have hquotes := a.quotes
      rw [Option.some.inj hlast] at hquotes
      exact absurd hquotes (by decide)
  · rw [tail, hending, List.concat_eq_append, ← List.append_assoc, ← List.append_assoc,
      List.getLast?_concat] at hlast
    have hblank := t.ending.blank c (by rw [hending]; simp)
    rw [Option.some.inj hlast] at hblank
    exact absurd hblank (by decide)

variable {opens : List (List Char)}

theorem next_start (t : Tag) (rest : List Char) : next opens (t.start ++ rest) =
    .delivered (.opening t.name.chars) (t.name.chars :: opens) rest := by
  have htext : t.start ++ rest = '<' :: (t.name.chars ++ t.tail ++ '>' :: rest) := by simp [start]
  rw [htext, next_opening t.name.legal t.head?_tail t.closes_tail t.getLast?_ne_slash]

theorem next_childless (t : Tag) (rest : List Char) : next opens (t.childless ++ rest) =
    .delivered (.childless t.name.chars) opens rest := by
  have htext : t.childless ++ rest = '<' :: (t.name.chars ++ t.tail ++ ['/'] ++ '>' :: rest) := by
    simp [childless]
  rw [htext, Xml.next_childless t.name.legal t.name.nonempty t.head?_tail t.closes_tail]

theorem next_finish (t : Tag) (blanks : Blanks) (rest : List Char) :
    next (t.name.chars :: opens) (t.finish blanks ++ rest) = .delivered .closing opens rest := by
  have hname : endName (t.name.chars ++ blanks.chars) = t.name.chars :=
    endName_append t.name.legal t.name.nonempty blanks.blank
  have htext : t.finish blanks ++ rest =
      '<' :: '/' :: (t.name.chars ++ blanks.chars ++ '>' :: rest) := by simp [finish]
  rw [htext, next_ending hname (closesQuotes_append t.name.closes blanks.closes)]

end Tag
end Strongbox.Xml.Source
