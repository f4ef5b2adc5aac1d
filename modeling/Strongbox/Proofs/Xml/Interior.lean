import Strongbox.Proofs.Xml.Acceptance
import Strongbox.Proofs.Xml.Continuation
/-! What stands between the tags of a child of the root: text in which tags match and references stand
for characters. All that it leaves in what has been read is the character data directly in it. -/
namespace Strongbox.Xml

/-- Character data directly among events, outside of the elements that they open. -/
def directText : Nat → List Event → List Char
  | _, [] => []
  | n, .opening _ :: later => directText (n + 1) later
  | n, .closing :: later => directText (n - 1) later
  | n, .text content :: later => (if n = 0 then content else []) ++ directText n later
  | n, .cdata content :: later => (if n = 0 then content else []) ++ directText n later
  | n, .reference body :: later => (if n = 0 then (resolve body).toOption.toList else []) ++ directText n later
  | n, .childless _ :: later => directText n later
  | n, .aside :: later => directText n later

theorem depthAfter_cons {n k : Nat} {event : Event} {later : List Event}
    (h : depthAfter n (event :: later) = some k) :
    ∃ m, depthAfter n [event] = some m ∧ depthAfter m later = some k := by
  cases hwhole : event.isWhole with
  | true =>
      rw [depthAfter_whole hwhole] at h
      exact ⟨n, by rw [depthAfter_whole hwhole]; cases n <;> rfl, h⟩
  | false =>
      rcases Event.tag_of_not_whole hwhole with ⟨name, rfl⟩ | rfl
      · rw [depthAfter_opening] at h
        exact ⟨n + 1, depthAfter_opening name n [], h⟩
      · cases n with
        | zero => cases h
        | succ n => exact ⟨n, by cases n <;> rfl, h⟩

namespace Reading

variable {r : Reading} {n : Nat} {es : List Event}

/-- The child of the root that is open gets character data, and nothing else happens. -/
def gained (r : Reading) (content : List Char) : Reading := { r with depth := 2 }.addText content

theorem gained_of_addText (h : r.depth = n + 2) (content later : List Char) :
    (r.addText content).gained later = r.gained ((if n = 0 then content else []) ++ later) := by
  cases n with
  | zero =>
      have hsame : r.addText content = r.gained content := by
        rw [gained, addText, addText, if_pos h, if_pos rfl, h]
      have hdepth : (r.gained content).depth = 2 := depth_addText content
      rw [if_pos rfl, hsame, gained, ← hdepth]
      exact addText_addText content later
  | succ n => rw [addText, if_neg (by omega), if_neg (Nat.succ_ne_zero n), List.nil_append]

/-- Nothing is kept of an element inside a child. -/
theorem closing_deep (h : r.depth = n + 3) : r.closing = { r with depth := n + 2 } := by
  unfold closing
  rw [if_neg (by omega)]
  dsimp only
  rw [if_neg (by omega), h]
  rfl

/-- One event of the content of a child, or of an element inside it. -/
theorem step_child (h : r.depth = n + 2) {event : Event} {m : Nat} (later : List Event)
    (hdepth : depthAfter n [event] = some m) (hresolved : event.isResolved = true) :
    ∃ r', r.step event = .ok r' ∧ r'.depth = m + 2 ∧
      r'.gained (directText m later) = r.gained (directText n (event :: later)) := by
  have hopen : r.depth ≠ 0 := by omega
  have htext : ∀ content, (r.addText content).depth = n + 2 ∧
      (r.addText content).gained (directText n later) =
        r.gained ((if n = 0 then content else []) ++ directText n later) :=
    fun content => ⟨(depth_addText content).trans h, gained_of_addText h content _⟩
  cases event with
  | opening name =>
      obtain rfl : n + 1 = m := by
        rw [depthAfter_opening] at hdepth
        exact Option.some.inj hdepth
      refine ⟨{ r with depth := n + 3 }, ?_, rfl, rfl⟩
      simp only [step, opening, h]
  | closing =>
      cases n with
      | zero => cases hdepth
      | succ n =>
          obtain rfl : n = m := Option.some.inj hdepth
          exact ⟨{ r with depth := n + 2 }, congrArg _ (closing_deep h), rfl, rfl⟩
  | childless name =>
      rw [depthAfter_whole rfl] at hdepth
      cases hdepth
      refine ⟨r, ?_, h, rfl⟩
      simp only [step, childless, h]
  | aside =>
      rw [depthAfter_whole rfl] at hdepth
      cases hdepth
      exact ⟨r, rfl, h, rfl⟩
  | text content =>
      rw [depthAfter_whole rfl] at hdepth
      cases hdepth
      exact ⟨_, step_text hopen content, htext content⟩
  | cdata content =>
      rw [depthAfter_whole rfl] at hdepth
      cases hdepth
      exact ⟨_, rfl, htext content⟩
  | reference body =>
      rw [depthAfter_whole rfl] at hdepth
      cases hdepth
      cases hbody : resolve body with
      | error e =>
          rw [Event.isResolved, hbody] at hresolved
          cases hresolved
      | ok c =>
          refine ⟨r.addText [c], ?_, ?_⟩
          · simp only [step, hbody, if_neg hopen]
          · rw [directText, hbody]
            exact htext [c]

/-- The content of a child is read to its end, and leaves the data directly in it. -/
theorem run_child (h : r.depth = n + 2) (hdepth : depthAfter n es = some 0)
    (hresolved : ∀ event ∈ es, event.isResolved = true) :
    r.run es = .ok (r.gained (directText n es)) := by
  induction es generalizing r n with
  | nil =>
      cases hdepth
      have hsame : r.gained [] = r := by
        rw [gained, addText_nil]
        exact congrArg (Reading.mk · r.root r.rootClosed r.child) h.symm
      rw [directText, hsame, run]
  | cons event es ih =>
      obtain ⟨hevent, hlater⟩ := List.forall_mem_cons.1 hresolved
      obtain ⟨m, hfirst, hrest⟩ := depthAfter_cons hdepth
      obtain ⟨r', hstep, hdepth', hgained⟩ := step_child h es hfirst hevent
      rw [run, hstep, ← hgained]
      exact ih hdepth' hrest hlater

end Reading

/-- What stands between the tags of an element and is read through. -/
structure Interior where
  chars : List Char
  whole : (eventsFrom [] chars).fault = none
  nested : depthAfter 0 (eventsFrom [] chars).events = some 0
  resolved : ∀ event ∈ (eventsFrom [] chars).events, event.isResolved = true

namespace Interior

def events (c : Interior) : List Event := (eventsFrom [] c.chars).events

def text (c : Interior) : String := String.ofList (directText 0 c.events)

/-- Text without markup and references. -/
def plain (chars : List Char) (h : ∀ c ∈ chars, isPlain c = true) : Interior :=
  have hevents : (eventsFrom [] chars).fault = none ∧
      ∀ event ∈ (eventsFrom [] chars).events, ∃ content, event = .text content := by
    cases chars with
    | nil => simp [eventsFrom_nil]
    | cons c cs =>
        obtain ⟨hc, hcs⟩ := List.forall_mem_cons.1 h
        have hrest : cs.dropWhile isPlain = [] := List.dropWhile_eq_nil_iff.2 hcs
        rw [eventsFrom_of_delivered (next_plain hc), hrest, eventsFrom_nil]
        simp
  { chars := chars
    whole := hevents.1
    nested := by
      refine (balanced_of_whole fun event hevent => ?_).depthAfter 0
      obtain ⟨content, rfl⟩ := hevents.2 event hevent
      rfl
    resolved := by
      intro event hevent
      obtain ⟨content, rfl⟩ := hevents.2 event hevent
      rfl }

theorem eventsFrom_append (c : Interior) (opens : List (List Char)) {more : List Char}
    (hmore : ∀ d ∈ more.head?, isPlain d = false) : eventsFrom opens (c.chars ++ more) =
      ⟨c.events ++ (eventsFrom opens more).events, (eventsFrom opens more).fault⟩ := by
  obtain ⟨left, hdepth, hall⟩ := Xml.eventsFrom_append c.whole
  obtain rfl : left = [] := by
    have hlength := hdepth.symm.trans c.nested
    exact List.length_eq_zero_iff.1 (Option.some.inj hlength)
  exact hall opens hmore

/-- A child is opened, filled and closed. -/
theorem run_between (c : Interior) {r : Reading} (hdepth : r.depth = 1) (name : List Char)
    (later : List Event) : r.run (.opening name :: (c.events ++ .closing :: later)) =
      ({ r.addChild (String.ofList name, c.text) with child := none }).run later := by
  let opened : Reading := { r with depth := 2, child := some (String.ofList name, "") }
  have hopen : r.step (.opening name) = .ok opened := by
    simp only [Reading.step, Reading.opening, hdepth]
    rfl
  have hrun : opened.run c.events = .ok (opened.gained (directText 0 c.events)) :=
    Reading.run_child rfl c.nested c.resolved
  have hclose : (opened.gained (directText 0 c.events)).closing =
      { r.addChild (String.ofList name, c.text) with child := none } := by
    simp [opened, Reading.gained, Reading.addText, Reading.closing, Reading.addChild, text, hdepth]
  rw [Reading.run, hopen]
  dsimp only
  rw [Reading.run_append, hrun]
  dsimp only
  rw [Reading.run, Reading.step, hclose]

end Interior
end Strongbox.Xml
