import Strongbox.Proofs.Association
import Strongbox.Proofs.Checks
import Strongbox.Proofs.Text.Bytes
import Strongbox.Proofs.Xml.Interior
/-! Two documents that differ in the content of one child of the root. If both contents are read through,
the documents fail in the same way, or give elements that differ in the text of that child. -/
namespace Strongbox.Xml

/-- The same element, but for the text of one child. -/
inductive Element.SameBut (name text text' : String) : Element → Element → Prop
  | mk (root : String) (before after : List (String × String)) :
      SameBut name text text' ⟨root, before ++ (name, text) :: after⟩
        ⟨root, before ++ (name, text') :: after⟩

namespace Element.SameBut

variable {name text text' : String} {e e' : Element}

theorem name_eq (h : SameBut name text text' e e') : e'.name = e.name := by
  cases h
  rfl

theorem addChild (h : SameBut name text text' e e') (child : String × String) :
    SameBut name text text' { e with children := e.children ++ [child] }
      { e' with children := e'.children ++ [child] } := by
  cases h with
  | mk root before after =>
      have hmore : SameBut name text text' ⟨root, before ++ (name, text) :: (after ++ [child])⟩
          ⟨root, before ++ (name, text') :: (after ++ [child])⟩ := .mk root before (after ++ [child])
      simpa only [List.append_assoc, List.cons_append] using hmore

/-- A text that is looked up is the same, unless it is the one that differs. -/
theorem childText? (h : SameBut name text text' e e') (other : String) :
    e'.childText? other = e.childText? other ∨
      other = name ∧ e.childText? other = some text ∧ e'.childText? other = some text' := by
  cases h with
  | mk root before after =>
      have hfirst : ∀ t, (Element.mk root (before ++ (name, t) :: after)).childText? other =
          (Association.first? other before).or (Association.first? other ((name, t) :: after)) :=
        fun t => Association.first?_append other before _
      rw [hfirst, hfirst]
      by_cases hname : name = other
      · cases hbefore : Association.first? other before with
        | some t => exact .inl rfl
        | none => exact .inr ⟨hname.symm, by simp [Association.first?, hname],
            by simp [Association.first?, hname]⟩
      · rw [Association.first?_cons_of_ne hname, Association.first?_cons_of_ne hname]
        exact .inl rfl

end Element.SameBut

/-- The same has been read, but for the text of one child. -/
inductive Reading.SameBut (name text text' : String) : Reading → Reading → Prop
  | mk {e e' : Element} (same : Element.SameBut name text text' e e') (depth : Nat) (rootClosed : Bool)
      (child : Option (String × String)) (closed : depth = 0 → rootClosed = true) :
      SameBut name text text' ⟨depth, some e, rootClosed, child⟩ ⟨depth, some e', rootClosed, child⟩

namespace Reading.SameBut

variable {name text text' : String} {r r' : Reading}

theorem addChild (h : SameBut name text text' r r') (child : String × String) :
    SameBut name text text' (r.addChild child) (r'.addChild child) := by
  cases h with
  | mk same depth rootClosed open_ closed => exact .mk (same.addChild child) depth rootClosed open_ closed

theorem addText (h : SameBut name text text' r r') (content : List Char) :
    SameBut name text text' (r.addText content) (r'.addText content) := by
  cases h with
  | mk same depth rootClosed child closed =>
      unfold Reading.addText
      dsimp only
      split
      · exact .mk same _ _ _ closed
      · exact .mk same _ _ _ closed

theorem opening (h : SameBut name text text' r r') (tag : List Char) :
    FailAlike (SameBut name text text') (r.opening tag) (r'.opening tag) := by
  cases h with
  | mk same depth rootClosed child closed =>
      match depth with
      | 0 =>
          simp only [Reading.opening, closed rfl, if_true]
          exact .error _
      | 1 => exact .ok (.mk same 2 _ _ (by simp))
      | n + 2 => exact .ok (.mk same (n + 3) _ _ (by simp))

theorem childless (h : SameBut name text text' r r') (tag : List Char) :
    FailAlike (SameBut name text text') (r.childless tag) (r'.childless tag) := by
  have hchild := h.addChild (String.ofList tag, "")
  cases h with
  | mk same depth rootClosed child closed =>
      match depth with
      | 0 => exact .error _
      | 1 => exact .ok hchild
      | n + 2 => exact .ok (.mk same _ _ _ closed)

theorem closing (h : SameBut name text text' r r') : SameBut name text text' r.closing r'.closing := by
  cases h with
  | mk same depth rootClosed child closed =>
      match depth with
      | 0 => exact .mk same 0 _ child closed
      | 1 => exact .mk same 0 true child fun _ => rfl
      | 2 =>
          cases child with
          | none => exact .mk same 1 _ none (by simp)
          | some child => exact .mk (same.addChild child) 1 _ none (by simp)
      | n + 3 =>
          rw [closing_deep (n := n) rfl, closing_deep (n := n) rfl]
          exact .mk same (n + 2) _ _ (by simp)

theorem step (h : SameBut name text text' r r') (event : Event) :
    FailAlike (SameBut name text text') (r.step event) (r'.step event) := by
  have hdepth : r'.depth = r.depth := by
    cases h
    rfl
  cases event with
  | opening tag => exact h.opening tag
  | childless tag => exact h.childless tag
  | closing => exact .ok h.closing
  | aside => exact .ok h
  | cdata content => exact .ok (h.addText content)
  | text content =>
      rw [Reading.step, Reading.step, hdepth]
      split
      · exact .error _
      · exact .ok (h.addText content)
  | reference body =>
      rw [Reading.step, Reading.step, hdepth]
      cases resolve body with
      | error e => exact .error _
      | ok c =>
          dsimp only
          split
          · exact .error _
          · exact .ok (h.addText [c])

theorem run (h : SameBut name text text' r r') (es : List Event) :
    FailAlike (SameBut name text text') (r.run es) (r'.run es) := by
  induction es generalizing r r' with
  | nil => exact .ok h
  | cons event es ih =>
      have hstep := h.step event
      rw [Reading.run, Reading.run]
      generalize r.step event = result at hstep
      generalize r'.step event = result' at hstep
      cases hstep with
      | error e => exact .error e
      | ok h => exact ih h

end Reading.SameBut

theorem Reading.isSome_root_of_run {r r' : Reading} {es : List Event} (h : r.run es = .ok r')
    (hroot : r.depth ≠ 0 → r.root.isSome = true) : r'.depth ≠ 0 → r'.root.isSome = true := by
  induction es generalizing r with
  | nil =>
      cases h
      exact hroot
  | cons event es ih =>
      obtain ⟨r₁, hstep, hrun⟩ := run_cons_eq_ok h
      refine ih hrun fun hopen => ?_
      cases hwhole : event.isWhole with
      | true =>
          obtain ⟨hsame, hstays⟩ := step_whole hwhole hstep
          exact hstays (hroot (hsame ▸ hopen))
      | false =>
          rcases Event.tag_of_not_whole hwhole with ⟨name, rfl⟩ | rfl
          · by_cases htop : r.depth = 0
            · simp only [step, opening, htop] at hstep
              split at hstep
              · cases hstep
              · cases hstep
                rfl
            · exact (opening_eq_ok hstep).2 (hroot htop)
          · cases hstep
            rw [depth_closing] at hopen
            rw [isSome_root_closing]
            exact hroot (by omega)

/-- A document around the content of a child of the root. -/
structure Setting where
  before : List Char
  startTag : List Char
  name : String
  endTag : List Char
  after : List Char
  whole : (eventsFrom [] (before.dropWhile (· == byteOrderMark))).fault = none
  child : depthAfter 0 (eventsFrom [] (before.dropWhile (· == byteOrderMark))).events = some 1
  opened : next [] startTag = .delivered (.opening name.toList) [name.toList] []
  closed : next [name.toList] endTag = .delivered .closing [] []

namespace Setting

variable (s : Setting)

def fill (content : List Char) : String :=
  String.ofList (s.before ++ (s.startTag ++ (content ++ (s.endTag ++ s.after))))

/-- Events before the start tag. -/
def earlier : List Event := (eventsFrom [] (s.before.dropWhile (· == byteOrderMark))).events

/-- The document without the byte order marks before it. -/
def chars (content : List Char) : List Char :=
  s.before.dropWhile (· == byteOrderMark) ++ (s.startTag ++ (content ++ (s.endTag ++ s.after)))

theorem dropWhile_fill (content : List Char) :
    (s.fill content).toList.dropWhile (· == byteOrderMark) = s.chars content := by
  have hbefore : s.before.dropWhile (· == byteOrderMark) ≠ [] := by
    intro hnil
    have hdepth := s.child
    rw [hnil, eventsFrom_nil] at hdepth
    cases hdepth
  rw [fill, String.toList_ofList, List.dropWhile_append, if_neg (by simpa using hbefore), chars]

/-- Markup begins with a character that no run of text holds. -/
theorem not_plain_of_next {opens opens' : List (List Char)} {cs rest : List Char} {event : Event}
    (h : next opens cs = .delivered event opens' rest) (hevent : ∀ content, event ≠ .text content)
    (more : List Char) : ∀ c ∈ (cs ++ more).head?, isPlain c = false := by
  cases cs with
  | nil => cases h
  | cons c cs =>
      intro d hd
      cases hd
      cases hc : isPlain c with
      | false => rfl
      | true =>
          rw [next_plain hc] at h
          cases h
          exact absurd rfl (hevent _)

/-- The events of the content stand between those of its tags, whatever it is. -/
theorem events_chars : ∃ root, ∀ c : Interior, events (s.chars c.chars) =
    ⟨s.earlier ++ .opening s.name.toList :: (c.events ++ .closing :: (eventsFrom [root] s.after).events),
      (eventsFrom [root] s.after).fault⟩ := by
  obtain ⟨opens, hdepth, hall⟩ := Xml.eventsFrom_append s.whole
  obtain ⟨root, rfl⟩ : ∃ root, opens = [root] :=
    List.length_eq_one_iff.1 (Option.some.inj (hdepth.symm.trans s.child))
  refine ⟨root, fun c => ?_⟩
  have hstart : next [root] (s.startTag ++ (c.chars ++ (s.endTag ++ s.after))) =
      .delivered (.opening s.name.toList) [s.name.toList, root] (c.chars ++ (s.endTag ++ s.after)) :=
    next_longer s.opened [root] (.inl (by simp))
  have hend : next [s.name.toList, root] (s.endTag ++ s.after) =
      .delivered .closing [root] s.after :=
    next_longer s.closed [root] (.inl (by simp))
  have hinner := c.eventsFrom_append [s.name.toList, root] (not_plain_of_next s.closed (by simp) s.after)
  rw [eventsFrom_of_delivered hend] at hinner
  have hbefore := hall [] (not_plain_of_next s.opened (by simp) (c.chars ++ (s.endTag ++ s.after)))
  rw [List.nil_append, List.append_nil, eventsFrom_of_delivered hstart, hinner] at hbefore
  exact hbefore

theorem utf8Size_chars {content content' : List Char}
    (h : Text.utf8Size content = Text.utf8Size content') :
    Text.utf8Size (s.chars content) = Text.utf8Size (s.chars content') := by
  simp only [chars, Text.utf8Size_append, h]

/-- The end of both readings, the same fault included. -/
theorem finish_alike {text text' : String} {r r' : Reading} (h : Reading.SameBut s.name text text' r r') :
    FailAlike (Element.SameBut s.name text text') r.finish r'.finish := by
  cases h with
  | mk same depth rootClosed child closed =>
      unfold Reading.finish
      dsimp only
      split
      · exact .error _
      · exact .ok same

theorem read_fill (c c' : Interior) (hsize : Text.utf8Size c.chars = Text.utf8Size c'.chars) :
    FailAlike (Element.SameBut s.name c.text c'.text) (Element.read (s.fill c.chars))
      (Element.read (s.fill c'.chars)) := by
  obtain ⟨root, hevents⟩ := s.events_chars
  rw [Element.read, Element.read, s.dropWhile_fill, s.dropWhile_fill, Element.readChars,
    Element.readChars, hevents, hevents, s.utf8Size_chars hsize]
  dsimp only
  rw [Reading.run_append, Reading.run_append]
  cases hearlier : Reading.start.run s.earlier with
  | error e => exact .error e
  | ok r =>
      obtain ⟨hdepth, -⟩ := Reading.run_eq_ok hearlier s.child
      have hroot := Reading.isSome_root_of_run hearlier (absurd rfl)
      obtain ⟨e, he⟩ := Option.isSome_iff_exists.1 (hroot (by simp [hdepth]))
      have hsame : Reading.SameBut s.name c.text c'.text
          { r.addChild (String.ofList s.name.toList, c.text) with child := none }
          { r.addChild (String.ofList s.name.toList, c'.text) with child := none } := by
        simp only [Reading.addChild, he, hdepth, Option.map_some, String.ofList_toList]
        exact .mk (.mk e.name e.children []) 1 r.rootClosed none (by simp)
      have hrun := hsame.run (eventsFrom [root] s.after).events
      dsimp only
      rw [c.run_between hdepth, c'.run_between hdepth]
      generalize Reading.run _ (eventsFrom [root] s.after).events = result at hrun
      generalize Reading.run _ (eventsFrom [root] s.after).events = result' at hrun
      cases hrun with
      | error e => exact .error e
      | ok hlater =>
          cases (eventsFrom [root] s.after).fault with
          | some fault => exact .error _
          | none => exact s.finish_alike hlater

/-- Documents around contents of one size fail alike, or differ in the text of the child. -/
theorem parse_fill (c c' : Interior) (hsize : Text.utf8Size c.chars = Text.utf8Size c'.chars) :
    FailAlike (Element.SameBut s.name c.text c'.text) (Element.parse (s.fill c.chars))
      (Element.parse (s.fill c'.chars)) :=
  (s.read_fill c c' hsize).mapError _

end Setting
end Strongbox.Xml
