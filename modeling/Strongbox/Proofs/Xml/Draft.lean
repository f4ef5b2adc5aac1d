import Strongbox.Proofs.Xml.Acceptance
/-! What a reader keeps, against all that was delivered to it. A draft is the whole document so far,
built with no look at how deep an element stands; the reader keeps a projection of it, and none of its
guards ever passes over anything in silence. -/
namespace Strongbox.Xml

/-- Content of an element: character data and whole elements. -/
inductive Node where
  | data (chars : List Char)
  | element (name : List Char) (content : List Node)

/-- An element with its content so far. -/
structure Branch where
  name : List Char
  content : List Node

namespace Node

def branch? : Node → Option Branch
  | .data _ => none
  | .element name content => some ⟨name, content⟩

/-- Character data, if it is no element. -/
def chars : Node → List Char
  | .data chars => chars
  | .element _ _ => []

variable (cs name : List Char) (content : List Node)

@[simp] theorem branch?_data : (data cs).branch? = none := rfl

@[simp] theorem branch?_element : (element name content).branch? = some ⟨name, content⟩ := rfl

@[simp] theorem chars_data : (data cs).chars = cs := rfl

@[simp] theorem chars_element : (element name content).chars = [] := rfl

end Node

namespace Branch

/-- Character data directly in an element. -/
def text (b : Branch) : List Char := b.content.flatMap Node.chars

/-- An element as the child of another: its name and the character data directly in it. -/
def asChild (b : Branch) : String × String := (String.ofList b.name, String.ofList b.text)

/-- An element as the root: its name and the elements that stand whole in it, in order. -/
def asRoot (b : Branch) : Element :=
  ⟨String.ofList b.name, (b.content.filterMap Node.branch?).map asChild⟩

def node (b : Branch) : Node := .element b.name b.content

def put (b : Branch) (node : Node) : Branch := { b with content := b.content ++ [node] }

@[simp] theorem asChild_put (b : Branch) (node : Node) :
    (b.put node).asChild = (b.asChild.1, b.asChild.2 ++ String.ofList node.chars) := by
  simp [asChild, text, put]

@[simp] theorem asRoot_put (b : Branch) (node : Node) : (b.put node).asRoot =
    { b.asRoot with children := b.asRoot.children ++ (node.branch?.map asChild).toList } := by
  cases hnode : node.branch? <;> simp [asRoot, put, hnode]

end Branch

/-- A document as far as it has been delivered: what stands whole at its top, and the elements that are
open, the outermost first. -/
structure Draft where
  top : List Node
  opened : List Branch

namespace Draft

def start : Draft := ⟨[], []⟩

def putInside (node : Node) : List Branch → List Branch
  | [] => []
  | [b] => [b.put node]
  | b :: c :: inner => b :: putInside node (c :: inner)

/-- What is delivered belongs to the innermost element that is open. -/
def put (d : Draft) (node : Node) : Draft where
  top := if d.opened.isEmpty then d.top ++ [node] else d.top
  opened := putInside node d.opened

/-- The innermost element is closed, if one is open. -/
def close (d : Draft) : Option Draft :=
  d.opened.getLast?.map fun b => { d with opened := d.opened.dropLast }.put b.node

def step (d : Draft) : Event → Option Draft
  | .opening name => some { d with opened := d.opened ++ [⟨name, []⟩] }
  | .childless name => some (d.put (.element name []))
  | .closing => d.close
  | .text content => some (d.put (.data content))
  | .cdata content => some (d.put (.data content))
  | .reference body => some (d.put (.data (resolve body).toOption.toList))
  | .aside => some d

def after (d : Draft) : List Event → Option Draft
  | [] => some d
  | event :: later => (d.step event).bind (·.after later)

/-- Elements at the top of the document, whole or open. -/
def roots (d : Draft) : List Branch := d.top.filterMap Node.branch? ++ d.opened.head?.toList

@[simp] theorem length_putInside (node : Node) (opened : List Branch) :
    (putInside node opened).length = opened.length := by
  fun_induction putInside node opened with
  | case1 => rfl
  | case2 b => rfl
  | case3 b c inner ih => simp only [List.length_cons, ih]

/-- An element that is put inside another leaves the data of the outermost as it was. -/
theorem asChild_head?_putInside (name : List Char) (content : List Node) (opened : List Branch) :
    (putInside (.element name content) opened).head?.map Branch.asChild =
      opened.head?.map Branch.asChild := by
  fun_cases putInside (.element name content) opened with
  | case1 => rfl
  | case2 b => simp
  | case3 b c inner => rfl

theorem exists_step_of_whole (d : Draft) {event : Event} (h : event.isWhole = true) :
    ∃ d', d.step event = some d' ∧ d'.opened.length = d.opened.length := by
  cases event with
  | opening name => cases h
  | closing => cases h
  | aside => exact ⟨d, rfl, rfl⟩
  | _ => exact ⟨_, rfl, length_putInside _ _⟩

/-- There is a draft of all events that nest, with as many elements open as their tags leave. -/
theorem length_after (d : Draft) (es : List Event) :
    (d.after es).map (·.opened.length) = depthAfter d.opened.length es := by
  induction es generalizing d with
  | nil => cases hlength : d.opened.length <;> simp [after, depthAfter, hlength]
  | cons event es ih =>
      cases hwhole : event.isWhole with
      | true =>
          obtain ⟨d', hstep, hlength⟩ := d.exists_step_of_whole hwhole
          rw [after, hstep, depthAfter_whole hwhole, ← hlength]
          exact ih d'
      | false =>
          rcases Event.tag_of_not_whole hwhole with ⟨name, rfl⟩ | rfl
          · rw [after, step, depthAfter_opening, Option.bind_some, ih, List.length_append]
            rfl
          · obtain ⟨top, opened⟩ := d
            cases hlast : opened.getLast? with
            | none =>
                obtain rfl := List.getLast?_eq_none_iff.1 hlast
                rfl
            | some b =>
                obtain ⟨outer, rfl⟩ := List.getLast?_eq_some_iff.1 hlast
                have hclose : (⟨top, outer ++ [b]⟩ : Draft).step .closing =
                    some (put ⟨top, outer⟩ b.node) := by
                  simp [step, close]
                rw [after, hclose, List.length_append]
                exact (ih _).trans (congrArg (depthAfter · es) (length_putInside b.node outer))

theorem after_append (d : Draft) (es later : List Event) :
    d.after (es ++ later) = (d.after es).bind (·.after later) := by
  induction es generalizing d with
  | nil => rfl
  | cons event es ih =>
      rw [List.cons_append, after, after, Option.bind_assoc]
      exact congrArg _ (funext ih)

/-- What is kept of a draft: the element at its top with the children that stand whole in it, and the
child that is open directly in it. -/
def reading (d : Draft) : Reading where
  depth := d.opened.length
  root := d.roots.head?.map Branch.asRoot
  rootClosed := !d.roots.isEmpty && d.opened.isEmpty
  child := d.opened[1]?.map Branch.asChild

variable {top : List Node} {b c : Branch} {inner : List Branch}

theorem reading_opened (h : top.filterMap Node.branch? = []) : reading ⟨top, b :: inner⟩ =
    ⟨inner.length + 1, some b.asRoot, false, inner.head?.map Branch.asChild⟩ := by
  simp [reading, roots, h, List.head?_eq_getElem?]

end Draft

namespace Reading

/-- A draft of one root, of which the reader keeps its part. -/
structure Follows (r : Reading) (d : Draft) : Prop where
  single : d.roots.length ≤ 1
  same : r = d.reading

variable {r r' : Reading} {d : Draft}

theorem Follows.start : Reading.start.Follows Draft.start := ⟨Nat.zero_le 1, rfl⟩

theorem follows_opened {top : List Node} {b : Branch} {inner : List Branch} :
    r.Follows ⟨top, b :: inner⟩ ↔ top.filterMap Node.branch? = [] ∧
      r = ⟨inner.length + 1, some b.asRoot, false, inner.head?.map Branch.asChild⟩ := by
  constructor
  · rintro ⟨hsingle, rfl⟩
    have htop : top.filterMap Node.branch? = [] := by simpa [Draft.roots] using hsingle
    exact ⟨htop, Draft.reading_opened htop⟩
  · rintro ⟨htop, rfl⟩
    exact ⟨by simp [Draft.roots, htop], (Draft.reading_opened htop).symm⟩

theorem follows_top {top : List Node} : r.Follows ⟨top, []⟩ ↔
    (top.filterMap Node.branch?).length ≤ 1 ∧ r = ⟨0, (top.filterMap Node.branch?).head?.map Branch.asRoot,
      !(top.filterMap Node.branch?).isEmpty, none⟩ := by
  constructor
  · rintro ⟨hsingle, rfl⟩
    exact ⟨by simpa [Draft.roots] using hsingle, by simp [Draft.reading, Draft.roots]⟩
  · rintro ⟨hsingle, rfl⟩
    exact ⟨by simpa [Draft.roots] using hsingle, by simp [Draft.reading, Draft.roots]⟩

theorem Follows.addText (h : r.Follows d) (content : List Char) :
    (r.addText content).Follows (d.put (.data content)) := by
  obtain ⟨top, opened⟩ := d
  match opened, h with
  | [], h =>
      obtain ⟨hsingle, rfl⟩ := follows_top.1 h
      refine follows_top.2 ?_
      simpa [Reading.addText, List.filterMap_cons] using hsingle
  | [b], h =>
      obtain ⟨htop, rfl⟩ := follows_opened.1 h
      refine follows_opened.2 ⟨htop, ?_⟩
      simp [Reading.addText]
  | [b, c], h =>
      obtain ⟨htop, rfl⟩ := follows_opened.1 h
      refine follows_opened.2 ⟨htop, ?_⟩
      simp [Reading.addText, Draft.putInside]
  | b :: c :: e :: inner, h =>
      obtain ⟨htop, rfl⟩ := follows_opened.1 h
      refine follows_opened.2 ⟨htop, ?_⟩
      simp [Reading.addText, Draft.putInside]

theorem Follows.childless (h : r.Follows d) {name : List Char} (hstep : r.childless name = .ok r') :
    r'.Follows (d.put (.element name [])) := by
  obtain ⟨top, opened⟩ := d
  match opened, h with
  | [], h =>
      obtain ⟨hsingle, rfl⟩ := follows_top.1 h
      refine follows_top.2 ?_
      cases hroots : top.filterMap Node.branch? with
      | cons b others => simp [Reading.childless, hroots] at hstep
      | nil =>
          simp [Reading.childless, hroots] at hstep
          simp [hroots, ← hstep, Branch.asRoot]
  | [b], h =>
      obtain ⟨htop, rfl⟩ := follows_opened.1 h
      cases hstep
      refine follows_opened.2 ⟨htop, ?_⟩
      simp [addChild, Branch.asChild, Branch.text]
  | [b, c], h =>
      obtain ⟨htop, rfl⟩ := follows_opened.1 h
      cases hstep
      refine follows_opened.2 ⟨htop, ?_⟩
      simp [Draft.putInside]
  | b :: c :: e :: inner, h =>
      obtain ⟨htop, rfl⟩ := follows_opened.1 h
      cases hstep
      refine follows_opened.2 ⟨htop, ?_⟩
      simp [Draft.putInside]

theorem Follows.opening (h : r.Follows d) {name : List Char} (hstep : r.opening name = .ok r') :
    r'.Follows { d with opened := d.opened ++ [⟨name, []⟩] } := by
  obtain ⟨top, opened⟩ := d
  match opened, h with
  | [], h =>
      obtain ⟨hsingle, rfl⟩ := follows_top.1 h
      cases hroots : top.filterMap Node.branch? with
      | cons b others => simp [Reading.opening, hroots] at hstep
      | nil =>
          simp [Reading.opening, hroots] at hstep
          exact follows_opened.2 ⟨hroots, hstep.symm⟩
  | [b], h =>
      obtain ⟨htop, rfl⟩ := follows_opened.1 h
      cases hstep
      exact follows_opened.2 ⟨htop, rfl⟩
  | b :: c :: inner, h =>
      obtain ⟨htop, rfl⟩ := follows_opened.1 h
      cases hstep
      refine follows_opened.2 ⟨htop, ?_⟩
      simp

theorem Follows.closing (h : r.Follows d) {d' : Draft} (hdraft : d.close = some d') :
    r.closing.Follows d' := by
  obtain ⟨top, opened⟩ := d
  match opened, h with
  | [], h => cases hdraft
  | [b], h =>
      obtain ⟨htop, rfl⟩ := follows_opened.1 h
      cases hdraft
      refine follows_top.2 ?_
      simp [Reading.closing, htop, Branch.node]
  | [b, c], h =>
      obtain ⟨htop, rfl⟩ := follows_opened.1 h
      cases hdraft
      refine follows_opened.2 ⟨htop, ?_⟩
      simp [Reading.closing, addChild, Branch.node]
  | b :: c :: e :: inner, h =>
      obtain ⟨htop, rfl⟩ := follows_opened.1 h
      obtain ⟨last, hlast, rfl⟩ := Option.map_eq_some_iff.1 hdraft
      refine follows_opened.2 ⟨htop, ?_⟩
      have hchild := Draft.asChild_head?_putInside last.name last.content (c :: (e :: inner).dropLast)
      simp [Reading.closing, Branch.node, hchild]

/-- One event leaves the reader with its part of the draft, if it goes on at all. -/
theorem Follows.step (h : r.Follows d) {event : Event} (hstep : r.step event = .ok r') {d' : Draft}
    (hdraft : d.step event = some d') : r'.Follows d' := by
  cases event with
  | opening name =>
      cases hdraft
      exact h.opening hstep
  | childless name =>
      cases hdraft
      exact h.childless hstep
  | closing =>
      cases hstep
      exact h.closing hdraft
  | text content =>
      cases hdraft
      rw [Reading.step] at hstep
      split at hstep
      · cases hstep
      · cases hstep
        exact h.addText content
  | cdata content =>
      cases hdraft
      cases hstep
      exact h.addText content
  | reference body =>
      cases hdraft
      rw [Reading.step] at hstep
      cases hbody : resolve body with
      | error e =>
          rw [hbody] at hstep
          cases hstep
      | ok c =>
          rw [hbody] at hstep
          dsimp only at hstep
          split at hstep
          · cases hstep
          · cases hstep
            exact h.addText [c]
  | aside =>
      cases hdraft
      cases hstep
      exact h

theorem Follows.run (h : r.Follows d) {es : List Event} (hrun : r.run es = .ok r') {d' : Draft}
    (hdraft : d.after es = some d') : r'.Follows d' := by
  induction es generalizing r d with
  | nil =>
      cases hrun
      cases hdraft
      exact h
  | cons event es ih =>
      obtain ⟨r₁, hstep, hlater⟩ := run_cons_eq_ok hrun
      obtain ⟨d₁, hdraft₁, hrest⟩ := Option.bind_eq_some_iff.1 hdraft
      exact ih (h.step hstep hdraft₁) hlater hrest

/-- What holds of the state of a reader and of all that was delivered to it. -/
structure Invariant (r : Reading) (d : Draft) : Prop where
  depth : r.depth = d.opened.length
  unseen : r.root = none → r.depth = 0
  rootClosed : r.rootClosed = true ↔ r.root.isSome = true ∧ r.depth = 0
  child_isSome : r.child.isSome = true ↔ 2 ≤ r.depth
  root : r.root.toList = d.roots.map Branch.asRoot
  child : r.child = d.opened[1]?.map Branch.asChild

theorem Follows.invariant (h : r.Follows d) : r.Invariant d := by
  obtain ⟨hsingle, rfl⟩ := h
  have hopen : d.roots = [] → d.opened = [] := by
    intro hroots
    simpa [Draft.roots] using (List.append_eq_nil_iff.1 hroots).2
  refine ⟨rfl, ?_, ?_, ?_, ?_, rfl⟩
  · intro hroot
    have hroots : d.roots = [] := by simpa [Draft.reading] using hroot
    exact congrArg List.length (hopen hroots)
  · cases hroots : d.roots <;> simp [Draft.reading, hroots]
  · simp [Draft.reading, Nat.succ_le_iff]
  · match hroots : d.roots, hsingle with
    | [], _ => simp [Draft.reading, hroots]
    | [b], _ => simp [Draft.reading, hroots]

/-- What an event is meant to do is done, wherever doing it waits on what has been kept. -/
structure Heeds (r : Reading) (event : Event) : Prop where
  /-- No root takes the place of another. -/
  begins : ∀ name, event = .opening name → r.depth = 0 → r.rootClosed = false → r.root = none
  /-- No child takes the place of another. -/
  enters : ∀ name, event = .opening name → r.depth = 1 → r.child = none
  adds : ∀ name, event = .childless name → r.depth = 1 → ∃ e, r.root = some e ∧
    r.step event = .ok { r with root := some { e with children := e.children ++ [(String.ofList name, "")] } }
  gathers : ∀ content, r.depth = 2 → ∃ name text, r.child = some (name, text) ∧
    (r.addText content).child = some (name, text ++ String.ofList content)
  completes : event = .closing → r.depth = 2 → ∃ e child, r.root = some e ∧ r.child = some child ∧
    r.closing = ⟨1, some { e with children := e.children ++ [child] }, r.rootClosed, none⟩
  closes : event = .closing → r.closing.depth + 1 = r.depth

theorem Invariant.isSome_root (h : r.Invariant d) (hdepth : r.depth ≠ 0) : ∃ e, r.root = some e :=
  Option.ne_none_iff_exists'.1 fun hroot => hdepth (h.unseen hroot)

theorem Invariant.exists_child (h : r.Invariant d) (hdepth : r.depth = 2) : ∃ child, r.child = some child :=
  Option.isSome_iff_exists.1 (h.child_isSome.2 hdepth.ge)

theorem Invariant.heeds (h : r.Invariant d) {event : Event} {d' : Draft}
    (hdraft : d.step event = some d') : r.Heeds event where
  begins name _ hdepth hclosed := by
    cases hroot : r.root with
    | none => rfl
    | some e =>
        rw [h.rootClosed.2 ⟨by rw [hroot]; rfl, hdepth⟩] at hclosed
        cases hclosed
  enters name _ hdepth := by
    cases hchild : r.child with
    | none => rfl
    | some child =>
        have hdeep := h.child_isSome.1 (by rw [hchild]; rfl)
        omega
  adds name hevent hdepth := by
    obtain ⟨e, hroot⟩ := h.isSome_root (by omega)
    refine ⟨e, hroot, ?_⟩
    subst hevent
    simp [Reading.step, Reading.childless, addChild, hdepth, hroot]
  gathers content hdepth := by
    obtain ⟨⟨name, text⟩, hchild⟩ := h.exists_child hdepth
    refine ⟨name, text, hchild, ?_⟩
    simp [Reading.addText, hdepth, hchild]
  completes _ hdepth := by
    obtain ⟨e, hroot⟩ := h.isSome_root (by omega)
    obtain ⟨child, hchild⟩ := h.exists_child hdepth
    refine ⟨e, child, hroot, hchild, ?_⟩
    simp [Reading.closing, addChild, hdepth, hroot, hchild]
  closes hevent := by
    subst hevent
    have hopen : d.opened ≠ [] := by
      intro hnone
      simp [Draft.step, Draft.close, hnone] at hdraft
    have hpos := List.length_pos_iff.2 hopen
    rw [depth_closing, h.depth]
    omega

/-- The events of every text nest. After all that a reader took of events that nest, its state is its
part of what was delivered, and the next event does what it is meant to. -/
theorem invariant_of_run : (∀ s, depthAfter 0 (Element.eventsOf s).events ≠ none) ∧
    ∀ es, depthAfter 0 es ≠ none → ∀ sofar later, es = sofar ++ later →
      ∀ r, Reading.start.run sofar = .ok r → ∃ d, Draft.start.after sofar = some d ∧
        depthAfter 0 sofar = some r.depth ∧ r.Invariant d ∧ ∀ event ∈ later.head?, r.Heeds event := by
  constructor
  · intro s hnone
    obtain ⟨n, hdepth⟩ := exists_depthAfter [] (s.toList.dropWhile (· == byteOrderMark))
    exact Option.some_ne_none n (hdepth.symm.trans hnone)
  · rintro es hnest sofar later rfl r hrun
    have hlength := Draft.start.length_after (sofar ++ later)
    have hwhole : ∃ whole, Draft.start.after (sofar ++ later) = some whole := by
      cases hafter : Draft.start.after (sofar ++ later) with
      | some whole => exact ⟨whole, rfl⟩
      | none =>
          rw [hafter] at hlength
          exact absurd hlength.symm hnest
    obtain ⟨whole, hwhole⟩ := hwhole
    rw [Draft.after_append] at hwhole
    obtain ⟨d, hdraft, hlater⟩ := Option.bind_eq_some_iff.1 hwhole
    have hinv := (Follows.start.run hrun hdraft).invariant
    refine ⟨d, hdraft, ?_, hinv, ?_⟩
    · have hsofar := Draft.start.length_after sofar
      rw [hdraft] at hsofar
      rw [hinv.depth]
      exact hsofar.symm
    · intro event hevent
      obtain ⟨rest, rfl⟩ := List.head?_eq_some_iff.1 hevent
      obtain ⟨d', hdraft', -⟩ := Option.bind_eq_some_iff.1 hlater
      exact hinv.heeds hdraft'

/-- A child stands whole in the root, with an element and data in it; another is about to be closed. -/
theorem invariant_of_run_two : ∃ d, Draft.start.after [.opening ['a'], .opening ['b'], .text ['1'],
      .opening ['c'], .text ['x'], .closing, .closing, .childless ['d'], .opening ['e'], .text ['2']] = some d ∧
    (⟨2, some ⟨"a", [("b", "1"), ("d", "")]⟩, false, some ("e", "2")⟩ : Reading).Invariant d ∧
    (⟨2, some ⟨"a", [("b", "1"), ("d", "")]⟩, false, some ("e", "2")⟩ : Reading).Heeds .closing := by
  obtain ⟨d, hdraft, -, hinv, hnext⟩ := invariant_of_run.2 _ (by decide) [.opening ['a'], .opening ['b'],
    .text ['1'], .opening ['c'], .text ['x'], .closing, .closing, .childless ['d'], .opening ['e'],
    .text ['2']] [.closing, .closing] rfl ⟨2, some ⟨"a", [("b", "1"), ("d", "")]⟩, false, some ("e", "2")⟩
    (by decide)
  exact ⟨d, hdraft, hinv, hnext _ rfl⟩

end Reading
end Strongbox.Xml
