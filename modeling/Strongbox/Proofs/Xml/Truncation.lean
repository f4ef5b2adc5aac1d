import Strongbox.Proofs.Xml.Continuation
import Strongbox.Proofs.Xml.Element
/-! A written element is read only as a whole: wherever it is cut off, a piece is left incomplete or an
element open. The proof goes along the text, from what is needed of its rest to what is needed of it. -/
namespace Strongbox.Xml

namespace Reading

theorem onward_of_refused {total : Nat} {r : Reading} {opens : List (List Char)} {cs rest : List Char}
    {fault : Fault} (h : next opens cs = .refused fault rest) :
    onward total r opens cs = .error (.refused fault (total - Text.utf8Size rest)) := by
  have hevents : eventsFrom opens cs = ⟨[], some (fault, rest)⟩ := by
    rw [eventsFrom]
    split <;> simp_all
  simp only [onward, hevents, run]

/-- Reading on from a state fails on every part of a text that is cut off before its end. -/
def NeedsAll (r : Reading) (opens : List (List Char)) (cs : List Char) : Prop :=
  ∀ part, part <+: cs → part ≠ cs → ∀ total, ∃ e, onward total r opens part = .error e

/-- The document is not complete yet: an element is open, or there was none. -/
def Pending (r : Reading) : Prop := r.depth ≠ 0 ∨ r.root = none

variable {r r' : Reading} {opens opens' : List (List Char)} {cs : List Char}

theorem Pending.finish (h : r.Pending) : ∃ e, r.finish = .error e := by
  unfold Reading.finish
  split
  · exact ⟨_, rfl⟩
  · rename_i hdepth
    rw [h.resolve_left (by simpa using hdepth)]
    exact ⟨_, rfl⟩

/-- A piece of markup or a reference is delivered as a whole or not at all. -/
theorem not_delivered_of_part {piece part missing rest : List Char} {event event' : Event}
    {left : List (List Char)} (hnext : next opens piece = .delivered event opens' [])
    (hevent : ∀ content, event ≠ .text content) (hpart : part ++ missing = piece) (hne : missing ≠ []) :
    next opens part ≠ .delivered event' left rest := by
  intro hcut
  cases part with
  | nil => cases hcut
  | cons c part =>
      have hplain : isPlain c = false := by
        by_contra hplain
        rw [← hpart, List.cons_append, next_plain (by simpa using hplain)] at hnext
        injection hnext with htext
        exact hevent _ htext.symm
      have hlonger : next (opens ++ []) (c :: part ++ missing) =
          .delivered event' (left ++ []) (rest ++ missing) :=
        next_longer hcut [] (.inl (not_text_of_next hplain hcut))
      rw [List.append_nil, hpart, hnext] at hlonger
      injection hlonger with _ _ hrest
      exact hne (List.append_eq_nil_iff.1 hrest.symm).2

namespace NeedsAll

theorem nil : NeedsAll r opens [] := fun _ hpart hne => absurd (List.prefix_nil.1 hpart) hne

/-- A character that may be read by itself. -/
theorem cons {c : Char} (hpending : r.Pending)
    (hread : ∀ total rest, onward total r opens (c :: rest) = onward total r' opens' rest)
    (h : NeedsAll r' opens' cs) : NeedsAll r opens (c :: cs) := by
  intro part hpart hne total
  cases part with
  | nil =>
      rw [onward_nil]
      exact hpending.finish
  | cons d part =>
      obtain ⟨rfl, hlater⟩ := List.cons_prefix_cons.1 hpart
      rw [hread]
      exact h part hlater (fun heq => hne (by rw [heq])) total

theorem piece {piece : List Char} {event : Event} (hpending : r.Pending)
    (hnext : ∀ rest, next opens (piece ++ rest) = .delivered event opens' rest)
    (hevent : ∀ content, event ≠ .text content) (hstep : r.step event = .ok r')
    (h : NeedsAll r' opens' cs) : NeedsAll r opens (piece ++ cs) := by
  intro part hpart hne total
  by_cases hwhole : piece <+: part
  · obtain ⟨later, rfl⟩ := hwhole
    rw [List.prefix_append_right_inj] at hpart
    rw [onward_of_delivered (hnext later) hstep]
    exact h later hpart (fun heq => hne (by rw [heq])) total
  · obtain ⟨missing, hmissing⟩ :=
      (List.prefix_or_prefix_of_prefix (List.prefix_append piece cs) hpart).resolve_left hwhole
    have hleft : missing ≠ [] := by
      rintro rfl
      rw [List.append_nil] at hmissing
      exact hwhole ⟨[], by rw [List.append_nil, hmissing]⟩
    have hnext' := hnext []
    rw [List.append_nil] at hnext'
    cases hcut : next opens part with
    | finished =>
        rw [eq_nil_of_finished hcut, onward_nil]
        exact hpending.finish
    | refused fault rest => exact ⟨_, onward_of_refused hcut⟩
    | delivered event' left rest =>
        exact absurd hcut (not_delivered_of_part hnext' hevent hmissing hleft)

/-! ### Along an element -/

theorem plain {c : Char} (hdepth : r.depth ≠ 0) (hc : isPlain c = true)
    (h : NeedsAll (r.addText [c]) opens cs) : NeedsAll r opens (c :: cs) :=
  h.cons (.inl hdepth) fun _ _ => onward_plain hdepth hc

theorem reference (body : List Char) {c : Char} (hdepth : r.depth ≠ 0)
    (hbody : isReferenceBody body = true) (hc : resolve body = .ok c)
    (h : NeedsAll (r.addText [c]) opens cs) : NeedsAll r opens ('&' :: (body ++ ';' :: cs)) := by
  have hnext : ∀ rest, next opens ('&' :: (body ++ [';']) ++ rest) =
      .delivered (.reference body) opens rest := by
    intro rest
    rw [List.cons_append, List.append_assoc]
    exact next_reference hbody
  have hstep : r.step (.reference body) = .ok (r.addText [c]) := by simp [step, hc, hdepth]
  have hpiece := h.piece (.inl hdepth) hnext (by simp) hstep
  rwa [List.cons_append, List.append_assoc] at hpiece

theorem escapeChar (hdepth : r.depth ≠ 0) (c : Char) (h : NeedsAll (r.addText [c]) opens cs) :
    NeedsAll r opens (Element.escapeChar c ++ cs) := by
  unfold Element.escapeChar
  split
  · rename_i hc
    subst hc
    exact h.reference ['l', 't'] hdepth rfl rfl
  split
  · rename_i hc
    subst hc
    exact h.reference ['g', 't'] hdepth rfl rfl
  split
  · rename_i hc
    subst hc
    exact h.reference ['a', 'm', 'p'] hdepth rfl rfl
  split
  · rename_i hc
    subst hc
    exact h.reference ['#', '1', '3'] hdepth rfl rfl
  · exact h.plain hdepth (by simp_all [isPlain])

theorem escape (hdepth : r.depth ≠ 0) (text : List Char) (h : NeedsAll (r.addText text) opens cs) :
    NeedsAll r opens (Element.escape text ++ cs) := by
  rw [Element.escape_eq_flatMap]
  induction text generalizing r with
  | nil => rwa [addText_nil] at h
  | cons c text ih =>
      have hdepth' : (r.addText [c]).depth ≠ 0 := by simpa using hdepth
      rw [List.flatMap_cons, List.append_assoc]
      refine escapeChar hdepth c (ih hdepth' ?_)
      rwa [addText_addText]

theorem startTag {name : List Char} (hpending : r.Pending) (hname : isTagName name = true)
    (hopen : r.opening name = .ok r') (h : NeedsAll r' (name :: opens) cs) :
    NeedsAll r opens (Element.startTag name ++ cs) :=
  h.piece hpending (fun _ => next_startTag hname) (by simp) hopen

theorem endTag {name : List Char} (hdepth : r.depth ≠ 0) (hname : isTagName name = true)
    (h : NeedsAll r.closing opens cs) : NeedsAll r (name :: opens) (Element.endTag name ++ cs) :=
  h.piece (.inl hdepth) (fun _ => next_endTag hname) (by simp) rfl

theorem child {e : Element} {child : String × String} (hname : isTagName child.1.toList = true)
    (h : NeedsAll (within { e with children := e.children ++ [child] }) opens cs) :
    NeedsAll (within e) opens (Element.renderChild child ++ cs) := by
  obtain ⟨name, text⟩ := child
  have hopen : (within e).opening name.toList = .ok ⟨2, some e, false, some (name, "")⟩ := by
    simp [within, opening]
  rw [Element.renderChild_eq, List.append_assoc, List.append_assoc]
  refine startTag (.inl Nat.one_ne_zero) hname hopen (escape (by simp) text.toList ?_)
  refine endTag (by simp) hname ?_
  simpa [within, addText, closing, addChild] using h

theorem children {e : Element} {children : List (String × String)}
    (hnames : ∀ child ∈ children, isTagName child.1.toList = true)
    (h : NeedsAll (within { e with children := e.children ++ children }) opens cs) :
    NeedsAll (within e) opens (children.flatMap Element.renderChild ++ cs) := by
  induction children generalizing e with
  | nil => simpa using h
  | cons first children ih =>
      obtain ⟨hfirst, hrest⟩ := List.forall_mem_cons.1 hnames
      rw [List.flatMap_cons, List.append_assoc]
      refine child hfirst (ih hrest ?_)
      simpa only [List.append_assoc, List.singleton_append] using h

theorem renderChars {e : Element} (h : e.wellNamed = true) : NeedsAll start [] e.renderChars := by
  simp only [Element.wellNamed, Bool.and_eq_true, List.all_eq_true] at h
  have hopen : start.opening e.name.toList = .ok (within ⟨e.name, []⟩) := by
    simp [start, opening, within]
  rw [Element.renderChars, List.append_assoc, ← List.append_nil (Element.endTag _)]
  refine startTag (.inr rfl) h.1 hopen (children h.2 ?_)
  exact endTag (by simp [within]) h.1 nil

end NeedsAll
end Reading

namespace Element

/-- A part of a text that begins with markup and needs all of itself is not read. -/
theorem parse_of_needsAll {whole : List Char} (hwhole : whole.head? = some '<')
    (h : Reading.NeedsAll .start [] whole) {part : String} (hpart : part.toList <+: whole)
    (hne : part.toList ≠ whole) : ∃ reason, parse part = .error (.serialization reason) := by
  have hmarks : part.toList.dropWhile (· == byteOrderMark) = part.toList := by
    cases hchars : part.toList with
    | nil => rfl
    | cons c cs =>
        obtain ⟨rest, rfl⟩ := hpart
        rw [hchars] at hwhole
        cases hwhole
        exact List.dropWhile_cons_of_neg (by decide)
  obtain ⟨e, he⟩ := h part.toList hpart hne (Text.utf8Size part.toList)
  have hread : read part = .error e := by
    rw [read, hmarks]
    exact he
  exact ⟨e.message, by rw [parse, hread]; rfl⟩

end Element
end Strongbox.Xml
