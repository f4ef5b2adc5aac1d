import Strongbox.Proofs.Xml.Doctype
import Strongbox.Proofs.Xml.Element
import Strongbox.Proofs.Xml.Reference
import Strongbox.Proofs.Xml.Tag
/-! What a document says is what is read from it: the name of the root, and for each child of the root
its name and the character data directly in it. The reader keeps this for content at any depth, so the
proof goes along the content. -/
namespace Strongbox.Xml

theorem Source.CData.next_text (s : Source.CData) {opens : List (List Char)} (rest : List Char) :
    next opens (s.text ++ rest) = .delivered (.cdata s.content) opens rest := by
  have htext : s.text ++ rest = '<' :: '!' :: '[' :: 'C' :: 'D' :: 'A' :: 'T' :: 'A' :: '[' ::
      (s.content ++ ']' :: ']' :: '>' :: rest) := by simp [Source.CData.text]
  rw [htext, next_cdata s.whole]

namespace Reading

variable {total : Nat} {r r' : Reading} {opens : List (List Char)} {cs : List Char}

/-! ### What content adds -/

/-- State after some content of the innermost open element. -/
def gather (r : Reading) (content : Source.Content) : Reading :=
  if r.depth = 1 then
    { r with root := r.root.map fun e => { e with children := e.children ++ content.children } }
  else r.addText content.data

/-- State in which an element is open. No child is open directly in the root. -/
structure Inside (r : Reading) : Prop where
  depth : r.depth ≠ 0
  noChild : r.depth = 1 → r.child = none

theorem gather_nothing : r.gather .nothing = r := by
  unfold gather
  split
  · obtain ⟨depth, root, rootClosed, child⟩ := r
    cases root <;> simp [Source.Content.children]
  · exact addText_nil

theorem Inside.addText (h : r.Inside) (content : List Char) : (r.addText content).Inside where
  depth := by simpa using h.depth
  noChild hdepth := by
    rw [depth_addText] at hdepth
    rw [Reading.addText, if_neg (by omega)]
    exact h.noChild hdepth

/-- Character data comes before what later content adds. -/
theorem gather_addText (text : List Char) (content later : Source.Content)
    (hdata : content.data = text ++ later.data) (hchildren : content.children = later.children) :
    (r.addText text).gather later = r.gather content := by
  unfold gather
  rw [depth_addText, hdata, hchildren]
  split
  · rename_i hdepth
    rw [addText, if_neg (by omega)]
  · exact addText_addText text later.data

theorem childless_inside (h : r.Inside) (t : Source.Tag) (later : Source.Content) :
    ∃ r', r.childless t.name.chars = .ok r' ∧ r'.Inside ∧
      r'.gather later = r.gather (.childless t later) := by
  obtain ⟨depth, root, rootClosed, child⟩ := r
  match depth, h with
  | 0, h => exact absurd rfl h.depth
  | 1, h =>
      refine ⟨_, rfl, ⟨Nat.one_ne_zero, h.noChild⟩, ?_⟩
      cases root <;> simp [gather, addChild, Source.Content.children, Source.Name.string]
  | n + 2, h => exact ⟨_, rfl, h, rfl⟩

/-- A whole element leaves what was read before it, and itself as a child if it stands in the root. -/
theorem element_inside (h : r.Inside) (t : Source.Tag) (inside : Source.Content)
    (blanks : Source.Blanks) (later : Source.Content) :
    ∃ r', r.opening t.name.chars = .ok r' ∧ r'.Inside ∧ (r'.gather inside).closing.Inside ∧
      (r'.gather inside).closing.gather later = r.gather (.element t inside blanks later) := by
  obtain ⟨depth, root, rootClosed, child⟩ := r
  match depth, h with
  | 0, h => exact absurd rfl h.depth
  | 1, h =>
      obtain rfl : child = none := h.noChild rfl
      refine ⟨_, rfl, ⟨by simp, by simp⟩, ⟨by simp [closing, gather, Reading.addText, addChild],
        by simp [closing, gather, Reading.addText, addChild]⟩, ?_⟩
      cases root <;>
        simp [gather, Reading.addText, closing, addChild, Source.Content.children, Source.Name.string]
  | n + 2, h =>
      have hsame : ((⟨n + 3, root, rootClosed, child⟩ : Reading).gather inside).closing =
          ⟨n + 2, root, rootClosed, child⟩ := by
        simp [gather, Reading.addText, closing]
      refine ⟨_, rfl, ⟨by simp, by simp⟩, hsame ▸ h, ?_⟩
      rw [hsame]
      rfl

/-! ### Along a document -/

theorem onward_aside (a : Source.Aside) :
    onward total r opens (a.text ++ cs) = onward total r opens cs := by
  cases a with
  | comment body whole =>
      have htext : (Source.Aside.comment body whole).text ++ cs =
          '<' :: '!' :: '-' :: '-' :: (body ++ '-' :: '-' :: '>' :: cs) := by simp [Source.Aside.text]
      rw [htext, onward_of_delivered (next_comment whole) rfl]
  | instruction body whole named =>
      have htext : (Source.Aside.instruction body whole named).text ++ cs =
          '<' :: '?' :: (body ++ '?' :: '>' :: cs) := by simp [Source.Aside.text]
      rw [htext, onward_instruction whole named]

theorem onward_content (content : Source.Content) (h : r.Inside) :
    onward total r opens (content.text ++ cs) = onward total (r.gather content) opens cs := by
  induction content generalizing r opens cs with
  | nothing => rw [Source.Content.text, gather_nothing, List.nil_append]
  | plain c hc later ih =>
      rw [Source.Content.text, List.cons_append, onward_plain h.depth hc, ih (h.addText [c]),
        gather_addText [c] (.plain c hc later) later rfl rfl]
  | reference ref later ih =>
      rw [Source.Content.text, List.append_assoc]
      have hstep : r.step (.reference ref.body) = .ok (r.addText [ref.char]) := by
        simp [step, ref.resolve_body, h.depth]
      rw [onward_of_delivered (ref.next_text _) hstep, ih (h.addText _),
        gather_addText [ref.char] (.reference ref later) later rfl rfl]
  | cdata s later ih =>
      have hstep : r.step (.cdata s.content) = .ok (r.addText s.content) := rfl
      rw [Source.Content.text, List.append_assoc, onward_of_delivered (s.next_text _) hstep,
        ih (h.addText _), gather_addText s.content (.cdata s later) later rfl rfl]
  | aside a later ih =>
      rw [Source.Content.text, List.append_assoc, onward_aside, ih h]
      rfl
  | childless t later ih =>
      obtain ⟨r', hr', hinside, hgather⟩ := childless_inside h t later
      rw [Source.Content.text, List.append_assoc, onward_of_delivered (t.next_childless _) hr',
        ih hinside, hgather]
  | element t inside blanks later ihinside ihlater =>
      obtain ⟨r', hr', hopened, hclosed, hgather⟩ := element_inside h t inside blanks later
      rw [Source.Content.text, List.append_assoc, List.append_assoc, List.append_assoc,
        onward_of_delivered (t.next_start _) hr', ihinside hopened,
        onward_of_delivered (t.next_finish blanks _) rfl, ihlater hclosed, hgather]

theorem onward_misc (h : r.depth = 0) (pieces : List Source.Misc) :
    onward total r opens (pieces.flatMap Source.Misc.text ++ cs) = onward total r opens cs := by
  induction pieces with
  | nil => rfl
  | cons piece pieces ih =>
      rw [List.flatMap_cons, List.append_assoc]
      cases piece with
      | space c hc => exact (onward_space h hc).trans ih
      | aside a => exact (onward_aside a).trans ih

theorem onward_prolog (h : r.depth = 0) (d : Source.Document) :
    onward total r opens (d.prolog ++ cs) = onward total r opens cs := by
  rw [Source.Document.prolog, List.append_assoc, onward_misc h]
  cases d.doctype with
  | none => rfl
  | some typed =>
      obtain ⟨doctype, later⟩ := typed
      rw [Option.elim_some, List.append_assoc, onward_of_delivered (doctype.next_text _) rfl,
        onward_misc h]

/-- State after the whole root. -/
def after (root : Source.Root) : Reading := ⟨0, some root.projection, true, none⟩

theorem onward_root (root : Source.Root) :
    onward total start opens (root.text ++ cs) = onward total (after root) opens cs := by
  cases root with
  | childless t => exact onward_of_delivered (t.next_childless cs) rfl
  | element t inside blanks =>
      have hopen : start.step (.opening t.name.chars) = .ok (within ⟨t.name.string, []⟩) := rfl
      have hinside : (within ⟨t.name.string, []⟩).Inside := ⟨Nat.one_ne_zero, fun _ => rfl⟩
      rw [Source.Root.text, List.append_assoc, List.append_assoc,
        onward_of_delivered (t.next_start _) hopen, onward_content inside hinside,
        onward_of_delivered (t.next_finish blanks cs) rfl]
      rfl

end Reading

namespace Source

/-! ### Whole documents -/

theorem Aside.head?_text (a : Aside) (later : List Char) : (a.text ++ later).head? = some '<' := by
  cases a <;> rfl

theorem Root.head?_text (root : Root) (later : List Char) : (root.text ++ later).head? = some '<' := by
  cases root <;> rfl

/-- Nothing of a document can be taken for a byte order mark before it. -/
theorem head?_misc {later : List Char} (hlater : later.head? ≠ some byteOrderMark) (pieces : List Misc) :
    (pieces.flatMap Misc.text ++ later).head? ≠ some byteOrderMark := by
  cases pieces with
  | nil => exact hlater
  | cons piece pieces =>
      rw [List.flatMap_cons, List.append_assoc]
      cases piece with
      | space c hc =>
          intro hmark
          rw [Option.some.inj hmark] at hc
          exact absurd hc (by decide)
      | aside a =>
          rw [Misc.text, a.head?_text]
          decide

theorem Document.head?_prolog (d : Document) {later : List Char}
    (hlater : later.head? ≠ some byteOrderMark) :
    (d.prolog ++ later).head? ≠ some byteOrderMark := by
  rw [prolog, List.append_assoc]
  refine head?_misc ?_ d.before
  cases d.doctype with
  | none => exact hlater
  | some typed =>
      obtain ⟨doctype, others⟩ := typed
      intro hmark
      exact absurd (Option.some.inj hmark) (by decide)

theorem dropWhile_marks {chars : List Char} (h : chars.head? ≠ some byteOrderMark) (n : Nat) :
    (List.replicate n byteOrderMark ++ chars).dropWhile (· == byteOrderMark) = chars := by
  induction n with
  | zero =>
      cases chars with
      | nil => rfl
      | cons c chars =>
          have hc : c ≠ byteOrderMark := fun heq => h (congrArg some heq)
          exact List.dropWhile_cons_of_neg (by simpa using hc)
  | succ n ih =>
      rw [List.replicate_succ, List.cons_append, List.dropWhile_cons_of_pos (by simp), ih]

end Source

namespace Element

/-- Every document is read as the projection of its root, whatever stands around the root, however
deep its elements nest and whichever way each piece of it is written. -/
theorem parse_document (d : Source.Document) : parse d.text = .ok d.root.projection := by
  have hroot : (d.root.text ++ d.after.flatMap Source.Misc.text).head? ≠ some byteOrderMark := by
    rw [d.root.head?_text]
    decide
  have hchars : d.text.toList.dropWhile (· == byteOrderMark) =
      d.prolog ++ (d.root.text ++ d.after.flatMap Source.Misc.text) := by
    rw [Source.Document.text, String.toList_ofList]
    exact Source.dropWhile_marks (d.head?_prolog hroot) d.marks
  have hread : read d.text = .ok d.root.projection := by
    rw [read, hchars]
    change Reading.onward _ .start [] _ = _
    rw [Reading.onward_prolog rfl, Reading.onward_root,
      ← List.append_nil (d.after.flatMap Source.Misc.text), Reading.onward_misc rfl, Reading.onward_nil]
    rfl
  rw [parse, hread]
  rfl

/-- A document with a mark, a declaration, a document type, two children of one name and what is in them. -/
example : (fun d : Source.Document => (d.text, d.root.projection))
    { marks := 1
      before := [.aside (.instruction ['x', 'm', 'l'] (by decide +kernel) (by decide)), .space '\n' rfl]
      doctype := some (⟨[' ', 'a', ' '], rfl, ⟨'a', by decide, rfl⟩,
        some ⟨[.declaration .entity [' ', 'b', ' ', '"', '>', '"'] rfl], [], by decide⟩⟩, [])
      root := .element
        ⟨⟨['a'], by simp, rfl⟩, [⟨⟨[' '], by simp [isBlankChar]⟩, by decide, ⟨['x'], by simp, rfl⟩, ⟨[], by simp⟩,
          ⟨[], by simp⟩, '\'', rfl, ['>'], by decide⟩], ⟨[], by simp⟩⟩
        (.plain 't' rfl <| .element ⟨⟨['b'], by simp, rfl⟩, [], ⟨[], by simp⟩⟩
          (.plain '1' rfl <| .reference .less <| .childless ⟨⟨['c'], by simp, rfl⟩, [], ⟨[], by simp⟩⟩ <|
            .cdata ⟨['&'], by decide +kernel⟩ <| .reference (.hexadecimal ⟨'A', ['4', '1'], rfl, by decide⟩) .nothing)
          ⟨[' '], by simp [isBlankChar]⟩ <|
          .childless ⟨⟨['b'], by simp, rfl⟩, [], ⟨[], by simp⟩⟩ <|
            .aside (.comment [] (by decide +kernel)) .nothing)
        ⟨[], by simp⟩
      after := [.space '\n' rfl] } =
    ("\uFEFF<?xml?>\n<!DOCTYPE a [<!ENTITY b \">\">]><a x='>'>t<b>1&lt;<c/><![CDATA[&]]>&#x41;</b ><b/><!----></a>\n",
      ⟨"a", [("b", "1<&A"), ("b", "")]⟩) := by decide

end Element
end Strongbox.Xml
