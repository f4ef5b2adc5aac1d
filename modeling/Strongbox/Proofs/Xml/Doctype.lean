import Strongbox.Proofs.Xml.Source
/-! A document type that closes its quotes and its internal subset is passed over as a whole, up to the
bracket that was written to close it. -/
namespace Strongbox.Xml

namespace Doctype

/-- The reader passes from one state to another over a text, whatever comes after it. -/
def Passes (before after : Doctype) (text : List Char) : Prop :=
  ∀ rest, findEnd before (text ++ rest) = findEnd after rest

section

variable {first second third : Doctype} {text later : List Char}

theorem Passes.nil (state : Doctype) : Passes state state [] := fun _ => rfl

theorem Passes.append (h : Passes first second text) (h' : Passes second third later) :
    Passes first third (text ++ later) := fun rest => by
  rw [List.append_assoc, h, h']

theorem Passes.cons {c : Char} (hstep : ∀ rest, step first c rest = some second)
    (h : Passes second third text) : Passes first third (c :: text) := fun rest => by
  rw [List.cons_append, findEnd, hstep]
  exact h rest

/-- States that follow the quotes of a text follow them to its end. -/
theorem passes_quoted (state : Option Char → Doctype) {stops : List Char}
    (hplain : ∀ c rest, c ∉ stops →
      step (state none) c rest = some (state (if isQuote c then some c else none)))
    (hquoted : ∀ q c rest, step (state (some q)) c rest = some (state (if c = q then none else some q)))
    {quote : Option Char} (h : closesQuotes stops quote text = true) :
    Passes (state quote) (state none) text := by
  induction text generalizing quote with
  | nil =>
      rw [closesQuotes, Option.isNone_iff_eq_none] at h
      rw [h]
      exact Passes.nil _
  | cons c text ih =>
      cases quote with
      | none =>
          simp only [closesQuotes, Bool.and_eq_true, Bool.not_eq_true', List.contains_eq_mem,
            decide_eq_false_iff_not] at h
          exact Passes.cons (fun rest => hplain c rest h.1) (ih h.2)
      | some q =>
          rw [closesQuotes] at h
          exact Passes.cons (hquoted q c) (ih h)

theorem passes_head (h : closesQuotes ['>', '['] none text = true) :
    Passes (.head none) (.head none) text := by
  refine passes_quoted .head (fun c rest hc => ?_) (fun q c rest => rfl) h
  simp only [List.mem_cons, List.not_mem_nil, or_false, not_or] at hc
  rw [step, if_neg hc.1, if_neg hc.2]
  split <;> rfl

theorem passes_declaration (h : closesQuotes ['>'] none text = true) :
    Passes (.declaration true none) (.declaration true none) text := by
  refine passes_quoted (.declaration true) (fun c rest hc => ?_) (fun q c rest => rfl) h
  rw [step, if_neg (fun heq => hc (List.mem_singleton.2 heq)), Bool.true_and]
  split <;> rfl

theorem passes_unclosed {state : Doctype} (hstep : ∀ c rest, c ≠ '>' → step state c rest = some state)
    (h : '>' ∉ text) : Passes state state text := by
  induction text with
  | nil => exact Passes.nil _
  | cons c text ih =>
      obtain ⟨hc, htext⟩ := not_or.1 (mt List.mem_cons.2 h)
      exact Passes.cons (fun rest => hstep c rest (Ne.symm hc)) (ih htext)

theorem passes_unquoted (h : '>' ∉ text) :
    Passes (.declaration false none) (.declaration false none) text := by
  refine passes_unclosed (fun c rest hc => ?_) h
  rw [step, if_neg hc]
  rfl

theorem passes_tail (h : '>' ∉ text) : Passes .tail .tail text := by
  refine passes_unclosed (fun c rest hc => ?_) h
  rw [step, if_neg hc]

/-- A comment ends where two dashes come before a bracket. The dashes counted so far are taken as
still standing before the text. -/
theorem passes_comment (dashes : Nat)
    (h : ¬ ['-', '-', '>'] <:+: List.replicate dashes '-' ++ text) :
    Passes (.comment dashes) .subset (text ++ ['-', '-', '>']) := by
  induction text generalizing dashes with
  | nil =>
      intro rest
      simp [findEnd, step]
  | cons c text ih =>
      by_cases hdash : c = '-'
      · subst hdash
        rw [List.append_cons, ← List.replicate_succ'] at h
        refine Passes.cons (fun rest => ?_) (ih (dashes + 1) h)
        rw [step, if_pos rfl]
      · have hopen : ¬ (c = '>' ∧ 2 ≤ dashes) := by
          rintro ⟨rfl, htwo⟩
          obtain ⟨n, rfl⟩ : ∃ n, dashes = n + 2 := ⟨dashes - 2, by omega⟩
          refine h ⟨List.replicate n '-', text, ?_⟩
          simp [List.replicate_succ']
        have hlater : ¬ ['-', '-', '>'] <:+: List.replicate 0 '-' ++ text := fun hmem =>
          h (hmem.trans ⟨List.replicate dashes '-' ++ [c], [], by simp⟩)
        refine Passes.cons (fun rest => ?_) (ih 0 hlater)
        rw [step, if_neg hdash, if_neg hopen]

theorem passes_instruction (asked : Bool) (h : ¬ ['?', '>'] <:+: text)
    (hopen : asked = true → text.head? ≠ some '>') :
    Passes (.instruction asked) .subset (text ++ ['?', '>']) := by
  induction text generalizing asked with
  | nil =>
      intro rest
      simp [findEnd, step]
  | cons c text ih =>
      have hmark : ¬ (c = '>' ∧ asked = true) := fun hc => hopen hc.2 (congrArg some hc.1)
      have hlater : (c == '?') = true → text.head? ≠ some '>' := by
        intro hc hhead
        obtain ⟨rest, rfl⟩ := List.head?_eq_some_iff.1 hhead
        exact h ⟨[], rest, by rw [beq_iff_eq.1 hc]; rfl⟩
      refine Passes.cons (fun rest => ?_) (ih (c == '?') (fun hmem => h (List.infix_cons hmem)) hlater)
      rw [step, if_neg hmark]

end

end Doctype

namespace Source

open Xml.Doctype (Passes)

theorem Aside.passes (a : Aside) : Passes .subset .subset a.text := by
  cases a with
  | comment body whole =>
      intro rest
      exact Doctype.passes_comment 0 whole rest
  | instruction body whole named =>
      intro rest
      exact Doctype.passes_instruction false whole (by simp) rest

theorem Piece.passes (p : Piece) : Passes .subset .subset p.text := by
  cases p with
  | plain c hopen hclose =>
      refine Passes.cons (fun rest => ?_) (Passes.nil _)
      rw [Doctype.step, if_neg hclose, if_neg hopen]
  | aside a => exact a.passes
  | element body whole =>
      have hbody : Passes (.declaration false none) (.declaration false none)
          (['!', 'E', 'L', 'E', 'M', 'E', 'N', 'T'] ++ body) :=
        Doctype.passes_unquoted (by simp [whole])
      exact hbody.append (Passes.cons (fun rest => rfl) (Passes.nil .subset))
  | declaration keyword body whole =>
      have hbody : Passes (.declaration true none) (.declaration true none)
          ('!' :: (keyword.text ++ body)) := by
        have hkeyword : closesQuotes ['>'] none ('!' :: keyword.text) = true := by
          cases keyword <;> decide
        exact Doctype.passes_declaration (closesQuotes_append hkeyword whole)
      have hclose : Passes (.declaration true none) .subset
          ('!' :: (keyword.text ++ body) ++ ['>']) :=
        hbody.append (Passes.cons (fun rest => rfl) (Passes.nil .subset))
      cases keyword <;> exact hclose

theorem passes_pieces (pieces : List Piece) :
    Passes .subset .subset (pieces.flatMap Piece.text) := by
  induction pieces with
  | nil => exact Passes.nil _
  | cons p pieces ih => exact p.passes.append ih

theorem Subset.passes (s : Subset) : Passes (.head none) .tail s.text := by
  have hclose : Passes .subset .tail (']' :: s.tail) :=
    Passes.cons (fun rest => rfl) (Doctype.passes_tail s.whole)
  exact Passes.cons (fun rest => rfl) ((passes_pieces s.pieces).append hclose)

namespace Doctype

theorem findEnd_content (d : Doctype) (rest : List Char) :
    Xml.Doctype.findEnd (.head none) (d.content ++ '>' :: rest) = some ('>' :: rest) := by
  have hhead := Xml.Doctype.passes_head d.whole
  cases hsubset : d.subset with
  | none =>
      rw [content, hsubset, Option.elim_none, List.append_nil, hhead]
      rfl
  | some s =>
      rw [content, hsubset, Option.elim_some, hhead.append s.passes]
      rfl

/-- Its name keeps a document type from being refused. -/
theorem not_blank_content (d : Doctype) : d.content.all isBlankChar = false := by
  obtain ⟨c, hc, hblank⟩ := d.named
  rw [List.all_eq_false]
  exact ⟨c, List.mem_append_left _ hc, by simp [hblank]⟩

theorem next_text (d : Doctype) {opens : List (List Char)} (rest : List Char) :
    next opens (d.text ++ rest) = .delivered .aside opens rest := by
  have htext : d.text ++ rest =
      ['<', '!', 'D', 'O', 'C', 'T', 'Y', 'P', 'E'] ++ (d.content ++ '>' :: rest) := by
    simp [text]
  rw [htext]
  simp [next, markupStep, declarationStep, d.findEnd_content, d.not_blank_content]

end Doctype
end Source
end Strongbox.Xml
