import Mathlib.Data.List.TakeWhile
import Strongbox.Xml.Element
/-! What the reader meets where a tag, a reference, an instruction or plain text is written. Each
statement leaves the text that follows open, so that they chain along a document. -/
namespace Strongbox.Xml

/-- A character that ends neither a tag nor the name in it. -/
def isTagChar (c : Char) : Bool := !isBlankChar c && !Doctype.isQuote c && c != '>' && c != '/'

/-- A name that a tag may hold as it is, without being taken for other markup. -/
def isTagName (name : List Char) : Bool :=
  name.all isTagChar && name.head? != some '!' && name.head? != some '?'

theorem isTagChar_of_mem {name : List Char} (h : isTagName name = true) {c : Char} (hc : c ∈ name) :
    isTagChar c = true := by
  simp only [isTagName, Bool.and_eq_true, List.all_eq_true] at h
  exact h.1.1 c hc

theorem not_blank_of_isTagName {name : List Char} (h : isTagName name = true) {c : Char}
    (hc : c ∈ name) : isBlankChar c = false := by
  have := isTagChar_of_mem h hc
  simp_all [isTagChar]

/-- Every quote is closed, and none of some characters stands outside the quotes. `quote` is the one
that is open at the start. -/
def closesQuotes (stops : List Char) : Option Char → List Char → Bool
  | quote, [] => quote.isNone
  | none, c :: cs =>
    !stops.contains c && closesQuotes stops (if Doctype.isQuote c then some c else none) cs
  | some q, c :: cs => closesQuotes stops (if c = q then none else some q) cs

section

variable {stops : List Char} {quote : Option Char}

theorem closesQuotes_append {first second : List Char} (h : closesQuotes stops quote first = true)
    (h' : closesQuotes stops none second = true) :
    closesQuotes stops quote (first ++ second) = true := by
  induction first generalizing quote with
  | nil =>
      rw [closesQuotes, Option.isNone_iff_eq_none] at h
      rw [h, List.nil_append, h']
  | cons c first ih =>
      cases quote with
      | none =>
          rw [closesQuotes, Bool.and_eq_true] at h
          rw [List.cons_append, closesQuotes, h.1, ih h.2, Bool.and_self]
      | some q =>
          rw [closesQuotes] at h
          rw [List.cons_append, closesQuotes, ih h]

theorem closesQuotes_of_unquoted {text : List Char}
    (h : ∀ c ∈ text, Doctype.isQuote c = false ∧ c ∉ stops) :
    closesQuotes stops none text = true := by
  induction text with
  | nil => rfl
  | cons c text ih =>
      obtain ⟨⟨hquote, hstop⟩, htext⟩ := List.forall_mem_cons.1 h
      simp [closesQuotes, hquote, hstop, ih htext]

theorem closesQuotes_literal {q : Char} {value : List Char} (hq : Doctype.isQuote q = true)
    (hstop : q ∉ stops) (h : q ∉ value) :
    closesQuotes stops none (q :: (value ++ [q])) = true := by
  have hvalue : closesQuotes stops (some q) (value ++ [q]) = true := by
    induction value with
    | nil => simp [closesQuotes]
    | cons c value ih =>
        obtain ⟨hc, hvalue⟩ := not_or.1 (mt List.mem_cons.2 h)
        rw [List.cons_append, closesQuotes, if_neg (Ne.symm hc)]
        exact ih hvalue
  simp [closesQuotes, hstop, hq, hvalue]

/-- A tag ends at the first closing bracket after its content if the content closes its quotes. -/
theorem cutTag_append {content : List Char} (h : closesQuotes ['>'] quote content = true)
    (rest : List Char) : cutTag quote (content ++ '>' :: rest) = .ok (content, rest) := by
  induction content generalizing quote with
  | nil =>
      rw [closesQuotes, Option.isNone_iff_eq_none] at h
      rw [h]
      rfl
  | cons c content ih =>
      cases quote with
      | none =>
          simp only [closesQuotes, List.contains_cons, List.contains_nil, Bool.or_false,
            Bool.and_eq_true, Bool.not_eq_true', beq_eq_false_iff_ne] at h
          rw [List.cons_append, cutTag]
          simp only [if_neg h.1, ih h.2, Except.map]
      | some q =>
          rw [closesQuotes] at h
          rw [List.cons_append, cutTag]
          simp only [ih h, Except.map]

end

theorem closesQuotes_of_isTagName {name : List Char} (h : isTagName name = true) :
    closesQuotes ['>'] none name = true := by
  refine closesQuotes_of_unquoted fun c hc => ?_
  have := isTagChar_of_mem h hc
  simp_all [isTagChar]

/-- The name of a tag ends where its content goes on with a blank. -/
theorem tagName_append {name tail : List Char} (h : isTagName name = true)
    (htail : ∀ c ∈ tail.head?, isBlankChar c = true) : tagName (name ++ tail) = name := by
  have hname : ∀ c ∈ name, (!isBlankChar c) = true := fun c hc => by simp [not_blank_of_isTagName h hc]
  have hnone : tail.takeWhile (!isBlankChar ·) = [] := by
    cases tail with
    | nil => rfl
    | cons c tail => rw [List.takeWhile_cons_of_neg (by simp [htail c rfl])]
  rw [tagName, List.takeWhile_append_of_pos hname, hnone, List.append_nil]

theorem dropWhile_blank_reverse {name : List Char} (h : isTagName name = true) :
    name.reverse.dropWhile isBlankChar = name.reverse := by
  cases hr : name.reverse with
  | nil => rfl
  | cons c cs =>
      have hc : c ∈ name := List.mem_reverse.1 (hr ▸ List.mem_cons_self)
      rw [List.dropWhile_cons_of_neg (by simp [not_blank_of_isTagName h hc])]

theorem endName_of_isTagName {name : List Char} (h : isTagName name = true) :
    endName name = name := by
  simp [endName, dropWhile_blank_reverse h]

theorem endName_append {name blanks : List Char} (h : isTagName name = true) (hne : name ≠ [])
    (hblanks : ∀ c ∈ blanks, isBlankChar c = true) : endName (name ++ blanks) = name := by
  have hdropped : (blanks.reverse ++ name.reverse).dropWhile isBlankChar = name.reverse := by
    rw [List.dropWhile_append_of_pos fun c hc => hblanks c (List.mem_reverse.1 hc),
      dropWhile_blank_reverse h]
  simp [endName, hdropped, hne]

theorem getLast?_ne_slash {name : List Char} (h : isTagName name = true) :
    name.getLast? ≠ some '/' := by
  intro hlast
  have := isTagChar_of_mem h (List.mem_of_getLast? hlast)
  exact absurd this (by decide)

theorem next_tag {opens : List (List Char)} {content rest : List Char}
    (h : ∀ c ∈ content.head?, c ≠ '!' ∧ c ≠ '?' ∧ c ≠ '/') :
    next opens ('<' :: (content ++ '>' :: rest)) =
      tagStep opens ('<' :: (content ++ '>' :: rest)) (content ++ '>' :: rest) := by
  rw [next, if_pos rfl]
  cases content with
  | nil => rfl
  | cons c content =>
      obtain ⟨hbang, hask, hslash⟩ := h c rfl
      rw [List.cons_append, markupStep]
      · intro cs hcs
        exact hbang (List.cons.inj hcs).1
      · intro cs hcs
        exact hask (List.cons.inj hcs).1
      · intro cs hcs
        exact hslash (List.cons.inj hcs).1

/-- No content that begins with a name is taken for other markup. -/
theorem head?_of_isTagName {name tail : List Char} (h : isTagName name = true)
    (htail : ∀ c ∈ tail.head?, isBlankChar c = true) :
    ∀ c ∈ (name ++ tail).head?, c ≠ '!' ∧ c ≠ '?' ∧ c ≠ '/' := by
  intro c hc
  cases name with
  | nil =>
      have hblank := htail c hc
      refine ⟨?_, ?_, ?_⟩ <;>
        · rintro rfl
          exact absurd hblank (by decide)
  | cons d name =>
      cases hc
      have hchar : isTagChar c = true := isTagChar_of_mem h List.mem_cons_self
      simp only [isTagName, List.head?_cons, Bool.and_eq_true, bne_iff_ne, ne_eq,
        Option.some.injEq] at h
      refine ⟨h.1.2, h.2, ?_⟩
      rintro rfl
      exact absurd hchar (by decide)

section

variable {opens : List (List Char)} {name tail rest : List Char}

theorem next_opening (h : isTagName name = true) (htail : ∀ c ∈ tail.head?, isBlankChar c = true)
    (hclosed : closesQuotes ['>'] none tail = true) (hlast : (name ++ tail).getLast? ≠ some '/') :
    next opens ('<' :: (name ++ tail ++ '>' :: rest)) =
      .delivered (.opening name) (name :: opens) rest := by
  rw [next_tag (head?_of_isTagName h htail), tagStep,
    cutTag_append (closesQuotes_append (closesQuotes_of_isTagName h) hclosed)]
  simp only [hlast, if_false, tagName_append h htail]

theorem next_childless (h : isTagName name = true) (hne : name ≠ [])
    (htail : ∀ c ∈ tail.head?, isBlankChar c = true) (hclosed : closesQuotes ['>'] none tail = true) :
    next opens ('<' :: (name ++ tail ++ ['/'] ++ '>' :: rest)) =
      .delivered (.childless name) opens rest := by
  have hhead : ∀ c ∈ (name ++ tail ++ ['/']).head?, c ≠ '!' ∧ c ≠ '?' ∧ c ≠ '/' := by
    intro c hc
    refine head?_of_isTagName h htail c ?_
    cases name with
    | nil => exact absurd rfl hne
    | cons d name => exact hc
  have hquotes : closesQuotes ['>'] none (name ++ tail ++ ['/']) = true :=
    closesQuotes_append (closesQuotes_append (closesQuotes_of_isTagName h) hclosed) rfl
  rw [next_tag hhead, tagStep, cutTag_append hquotes]
  simp only [List.getLast?_concat, if_true, List.dropLast_concat, tagName_append h htail]

theorem next_ending {content : List Char} (h : endName content = name)
    (hclosed : closesQuotes ['>'] none content = true) :
    next (name :: opens) ('<' :: '/' :: (content ++ '>' :: rest)) =
      .delivered .closing opens rest := by
  simp [next, markupStep, endStep, cutTag_append hclosed, h]

theorem next_startTag (h : isTagName name = true) :
    next opens (Element.startTag name ++ rest) =
      .delivered (.opening name) (name :: opens) rest := by
  have htext : Element.startTag name ++ rest = '<' :: (name ++ [] ++ '>' :: rest) := by
    simp [Element.startTag]
  rw [htext, next_opening h (by simp) rfl (by simpa using getLast?_ne_slash h)]

theorem next_endTag (h : isTagName name = true) :
    next (name :: opens) (Element.endTag name ++ rest) = .delivered .closing opens rest := by
  have htext : Element.endTag name ++ rest = '<' :: '/' :: (name ++ '>' :: rest) := by
    simp [Element.endTag]
  rw [htext, next_ending (endName_of_isTagName h) (closesQuotes_of_isTagName h)]

end

/-- A character of markup begins no plain text. -/
theorem next_plain {opens : List (List Char)} {c : Char} {cs : List Char} (h : isPlain c = true) :
    next opens (c :: cs) =
      .delivered (.text (c :: cs.takeWhile isPlain)) opens (cs.dropWhile isPlain) := by
  simp only [isPlain, Bool.and_eq_true, bne_iff_ne] at h
  rw [next, if_neg h.1, if_neg h.2]

/-- A body that stays whole between its ampersand and its semicolon. -/
def isReferenceBody (body : List Char) : Bool := body.all fun c => c != ';' && c != '&' && c != '<'

theorem cutReference_append {body rest : List Char} (h : isReferenceBody body = true) :
    cutReference (body ++ ';' :: rest) = some (body, rest) := by
  induction body with
  | nil => rfl
  | cons c body ih =>
      simp only [isReferenceBody, List.all_cons, Bool.and_eq_true, bne_iff_ne] at h
      obtain ⟨⟨⟨hsemi, hamp⟩, hlt⟩, hbody⟩ := h
      simp [cutReference, hsemi, hamp, hlt, ih (by simpa [isReferenceBody] using hbody)]

theorem next_reference {opens : List (List Char)} {body rest : List Char}
    (h : isReferenceBody body = true) :
    next opens ('&' :: (body ++ ';' :: rest)) = .delivered (.reference body) opens rest := by
  rw [next, if_neg (by decide), if_pos rfl, cutReference_append h]

/-- A mark is found where it is written if it does not stand in the text before, for it cannot begin
there and reach into itself when its last character occurs in it only once. -/
theorem cutAt_append (start : List Char) {before : List Char} {last : Char} (hlast : last ∉ start)
    (h : ¬ (start ++ [last]) <:+: before) (rest : List Char) :
    cutAt (start ++ [last]) (before ++ (start ++ [last] ++ rest)) = some (before, rest) := by
  induction before with
  | nil => cases start <;> simp [cutAt]
  | cons c before ih =>
      have hlater := ih fun hmem => h (List.infix_cons hmem)
      have hno : ¬ (start ++ [last]) <+: (c :: before) ++ (start ++ [last] ++ rest) := by
        intro hprefix
        rcases List.prefix_or_prefix_of_prefix hprefix (List.prefix_append _ _) with hmark | ⟨reach, hreach⟩
        · exact h hmark.isInfix
        rcases List.eq_nil_or_concat reach with rfl | ⟨reach, d, rfl⟩
        · rw [List.append_nil] at hreach
          exact h (hreach ▸ List.infix_rfl)
        · rw [List.concat_eq_append, ← List.append_assoc] at hreach
          obtain ⟨rfl, hd⟩ := List.append_inj' hreach rfl
          obtain rfl := List.singleton_inj.1 hd
          rw [List.append_assoc (c :: before) reach, List.prefix_append_right_inj] at hprefix
          have hself : c :: before ++ reach <+: c :: before ++ (reach ++ [d]) ++ rest :=
            ⟨[d] ++ rest, by simp⟩
          have hstart : reach ++ [d] <+: c :: before ++ reach := by
            refine List.prefix_of_prefix_length_le hprefix hself ?_
            simp only [List.length_append, List.length_cons, List.length_nil]
            omega
          exact hlast (hstart.subset (by simp))
      rw [List.cons_append, cutAt, if_neg (by simpa [List.isPrefixOf_iff_prefix] using hno), hlater]
      rfl

theorem next_instruction {opens : List (List Char)} {content rest : List Char}
    (hmark : ¬ ['?', '>'] <:+: content) (hstart : content.head? ≠ some '>') :
    next opens ('<' :: '?' :: (content ++ '?' :: '>' :: rest)) = .delivered .aside opens rest := by
  have hprefix : ['>'].isPrefixOf (content ++ '?' :: '>' :: rest) = false := by
    cases content with
    | nil => rfl
    | cons c content =>
        have hc : '>' ≠ c := fun heq => hstart (heq ▸ rfl)
        simp [List.isPrefixOf_cons_cons, hc]
  have hcut : cutAt ['?', '>'] (content ++ '?' :: '>' :: rest) = some (content, rest) :=
    cutAt_append ['?'] (by decide) hmark rest
  simp [next, markupStep, instructionStep, hprefix, hcut]

theorem next_comment {opens : List (List Char)} {content rest : List Char}
    (h : ¬ ['-', '-', '>'] <:+: content) :
    next opens ('<' :: '!' :: '-' :: '-' :: (content ++ '-' :: '-' :: '>' :: rest)) =
      .delivered .aside opens rest := by
  have hcut : cutAt ['-', '-', '>'] (content ++ '-' :: '-' :: '>' :: rest) = some (content, rest) :=
    cutAt_append ['-', '-'] (by decide) h rest
  simp [next, markupStep, declarationStep, hcut]

theorem next_cdata {opens : List (List Char)} {content rest : List Char}
    (h : ¬ [']', ']', '>'] <:+: content) :
    next opens ('<' :: '!' :: '[' :: 'C' :: 'D' :: 'A' :: 'T' :: 'A' :: '[' ::
        (content ++ ']' :: ']' :: '>' :: rest)) = .delivered (.cdata content) opens rest := by
  have hcut : cutAt [']', ']', '>'] (content ++ ']' :: ']' :: '>' :: rest) = some (content, rest) :=
    cutAt_append [']', ']'] (by decide) h rest
  simp [next, markupStep, declarationStep, hcut]

end Strongbox.Xml
