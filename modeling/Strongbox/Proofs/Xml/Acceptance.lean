import Strongbox.Proofs.Xml.Nesting
/-! Which texts are read as a document: those of one element with nothing of its own around it. A
section of character data around the root is the one thing too much that is let through. -/
namespace Strongbox.Xml

namespace Reading

variable {r r' : Reading} {es : List Event}

/-! ### Runs -/

theorem run_append (r : Reading) (es later : List Event) :
    r.run (es ++ later) = match r.run es with
      | .ok r' => r'.run later
      | .error e => .error e := by
  induction es generalizing r with
  | nil => rfl
  | cons event es ih =>
      rw [List.cons_append, run, run]
      cases r.step event with
      | ok r' => exact ih r'
      | error e => rfl

theorem run_cons_eq_ok {event : Event} (h : r.run (event :: es) = .ok r') :
    ∃ r₁, r.step event = .ok r₁ ∧ r₁.run es = .ok r' := by
  rw [run] at h
  cases hstep : r.step event with
  | error e =>
      rw [hstep] at h
      cases h
  | ok r₁ =>
      rw [hstep] at h
      exact ⟨r₁, rfl, h⟩

theorem run_append_eq_ok {later : List Event} (h : r.run (es ++ later) = .ok r') :
    ∃ r₁, r.run es = .ok r₁ ∧ r₁.run later = .ok r' := by
  rw [run_append] at h
  cases hrun : r.run es with
  | error e =>
      rw [hrun] at h
      cases h
  | ok r₁ =>
      rw [hrun] at h
      exact ⟨r₁, rfl, h⟩

/-! ### Depth and root -/

theorem depth_closing (r : Reading) : r.closing.depth = r.depth - 1 := by
  unfold closing
  split
  · cases r.child <;> (dsimp only; split <;> rfl)
  · dsimp only
    split <;> rfl

theorem isSome_root_addText (r : Reading) (content : List Char) :
    (r.addText content).root.isSome = r.root.isSome := by
  unfold addText
  split <;> rfl

theorem isSome_root_closing (r : Reading) : r.closing.root.isSome = r.root.isSome := by
  unfold closing
  split
  · cases r.child <;> (dsimp only; split <;> simp [addChild])
  · dsimp only
    split <;> rfl

theorem opening_eq_ok {name : List Char} (h : r.opening name = .ok r') :
    r'.depth = r.depth + 1 ∧ (r.root.isSome = true → r'.root.isSome = true) := by
  unfold opening at h
  split at h
  · rename_i hdepth
    split at h
    · cases h
    · cases h
      rw [hdepth]
      exact ⟨rfl, fun _ => rfl⟩
  · rename_i hdepth
    cases h
    rw [hdepth]
    exact ⟨rfl, id⟩
  · cases h
    exact ⟨rfl, id⟩

theorem childless_eq_ok {name : List Char} (h : r.childless name = .ok r') :
    r'.depth = r.depth ∧ (r.root.isSome = true → r'.root.isSome = true) := by
  unfold childless at h
  split at h
  · split at h
    · cases h
    · cases h
      exact ⟨rfl, fun _ => rfl⟩
  · cases h
    refine ⟨rfl, fun hroot => ?_⟩
    simpa [addChild] using hroot
  · cases h
    exact ⟨rfl, id⟩

theorem step_whole {event : Event} (hwhole : event.isWhole = true) (h : r.step event = .ok r') :
    r'.depth = r.depth ∧ (r.root.isSome = true → r'.root.isSome = true) := by
  have htext : ∀ content, (r.addText content).depth = r.depth ∧
      (r.root.isSome = true → (r.addText content).root.isSome = true) := by
    intro content
    exact ⟨depth_addText content, fun hroot => (isSome_root_addText r content).trans hroot⟩
  cases event with
  | opening name => cases hwhole
  | closing => cases hwhole
  | childless name => exact childless_eq_ok h
  | text content =>
      rw [step] at h
      split at h
      · cases h
      · cases h
        exact htext content
  | cdata content =>
      cases h
      exact htext content
  | reference body =>
      rw [step] at h
      split at h
      · cases h
      · split at h
        · cases h
        · cases h
          exact htext _
  | aside =>
      cases h
      exact ⟨rfl, id⟩

/-- The depth that is kept is the number of open elements, and a root that was seen stays. -/
theorem run_eq_ok {n : Nat} (h : r.run es = .ok r') (hdepth : depthAfter r.depth es = some n) :
    r'.depth = n ∧ (r.root.isSome = true → r'.root.isSome = true) := by
  induction es generalizing r with
  | nil =>
      cases h
      cases hdepth
      exact ⟨rfl, id⟩
  | cons event es ih =>
      obtain ⟨r₁, hstep, hrun⟩ := run_cons_eq_ok h
      cases hwhole : event.isWhole with
      | true =>
          obtain ⟨hsame, hroot⟩ := step_whole hwhole hstep
          rw [depthAfter_whole hwhole, ← hsame] at hdepth
          obtain ⟨hend, hstays⟩ := ih hrun hdepth
          exact ⟨hend, hstays ∘ hroot⟩
      | false =>
          rcases Event.tag_of_not_whole hwhole with ⟨name, rfl⟩ | rfl
          · obtain ⟨hdeeper, hroot⟩ := opening_eq_ok hstep
            rw [depthAfter_opening, ← hdeeper] at hdepth
            obtain ⟨hend, hstays⟩ := ih hrun hdepth
            exact ⟨hend, hstays ∘ hroot⟩
          · cases hstep
            have hup := depth_closing r
            cases hopen : r.depth with
            | zero =>
                rw [hopen] at hdepth
                cases hdepth
            | succ d =>
                rw [hopen] at hdepth hup
                rw [Nat.add_sub_cancel] at hup
                obtain ⟨hend, hstays⟩ := ih hrun (hup ▸ hdepth)
                exact ⟨hend, fun hroot => hstays ((isSome_root_closing r).trans hroot)⟩

/-! ### Outside the root -/

theorem addText_top (h : r.depth = 0) (content : List Char) : r.addText content = r := by
  rw [addText, if_neg (by omega)]

/-- What is passed over leaves everything as it was. -/
theorem step_top (h : r.depth = 0) {event : Event} (hevent : event.isPassedOver = true) :
    r.step event = .ok r := by
  cases event with
  | aside => rfl
  | cdata content => rw [step, addText_top h]
  | text content =>
      have hspace : content.all Text.isSpace = true := by
        simpa [Event.isPassedOver, Event.isOutside, Event.isCData] using hevent
      rw [step, if_neg (by simp [hspace]), addText_top h]
  | opening name => cases hevent
  | childless name => cases hevent
  | closing => cases hevent
  | reference body => cases hevent

/-- Around the root nothing else is read but the root. -/
theorem step_top_eq_ok (h : r.depth = 0) {event : Event} (hwhole : event.isWhole = true)
    (hstep : r.step event = .ok r') : (event.isPassedOver = true ∧ r' = r) ∨
      ∃ name, event = .childless name ∧ r.root = none ∧ r'.depth = 0 ∧ r'.rootClosed = true ∧
        r'.root.isSome = true := by
  cases event with
  | opening name => cases hwhole
  | closing => cases hwhole
  | aside =>
      cases hstep
      exact .inl ⟨rfl, rfl⟩
  | cdata content =>
      cases hstep
      exact .inl ⟨rfl, addText_top h content⟩
  | text content =>
      rw [step] at hstep
      split at hstep
      · cases hstep
      · rename_i hspace
        cases hstep
        have hall : content.all Text.isSpace = true := by simpa [h] using hspace
        refine .inl ⟨?_, addText_top h content⟩
        rw [Event.isPassedOver, Event.isOutside, hall, Bool.true_or]
  | reference body =>
      rw [step] at hstep
      split at hstep
      · cases hstep
      · rw [if_pos h] at hstep
        cases hstep
  | childless name =>
      simp only [step, childless, h] at hstep
      split at hstep
      · cases hstep
      · rename_i hroot
        cases hstep
        exact .inr ⟨name, rfl, by simpa using hroot, rfl, rfl, rfl⟩

/-- Once the root is closed, there is no other. -/
structure Closed (r : Reading) : Prop where
  depth : r.depth = 0
  closed : r.rootClosed = true
  root : r.root.isSome = true

theorem outside_of_closed (h : r.Closed) {n : Nat} (hrun : r.run es = .ok r')
    (hdepth : depthAfter 0 es = some n) :
    ∀ event ∈ es, event.isPassedOver = true := by
  induction es with
  | nil => simp
  | cons event es ih =>
      obtain ⟨r₁, hstep, hlater⟩ := run_cons_eq_ok hrun
      cases hwhole : event.isWhole with
      | true =>
          rw [depthAfter_whole hwhole] at hdepth
          rcases step_top_eq_ok h.depth hwhole hstep with ⟨hevent, rfl⟩ | ⟨name, rfl, hroot, -⟩
          · exact List.forall_mem_cons.2 ⟨hevent, ih hlater hdepth⟩
          · have hseen := h.root
            rw [hroot] at hseen
            cases hseen
      | false =>
          rcases Event.tag_of_not_whole hwhole with ⟨name, rfl⟩ | rfl
          · rw [step, opening, h.depth] at hstep
            simp only [h.closed, if_true] at hstep
            cases hstep
          · cases hdepth

theorem closed_closing (h : r.depth = 1) (hroot : r.root.isSome = true) : r.closing.Closed := by
  refine ⟨?_, ?_, (isSome_root_closing r).trans hroot⟩
  · rw [depth_closing, h]
  · unfold closing
    rw [if_neg (by omega)]
    dsimp only
    rw [if_pos h]

/-- What is read from its beginning is one element with nothing of its own around it, but for sections
of character data. -/
theorem single_of_run (h : r.depth = 0) (hnone : r.root = none) (hrun : r.run es = .ok r')
    (hdepth : depthAfter 0 es = some 0) (hseen : r'.root.isSome = true) :
    ∃ before root after, es = before ++ root ++ after ∧ IsElement root ∧
      ∀ event ∈ before ++ after, event.isPassedOver = true := by
  induction es with
  | nil =>
      cases hrun
      rw [hnone] at hseen
      cases hseen
  | cons event es ih =>
      obtain ⟨r₁, hstep, hlater⟩ := run_cons_eq_ok hrun
      cases hwhole : event.isWhole with
      | true =>
          rw [depthAfter_whole hwhole] at hdepth
          rcases step_top_eq_ok h hwhole hstep with ⟨hevent, rfl⟩ | ⟨name, rfl, -, htop, hclosed, hroot⟩
          · obtain ⟨before, root, after, rfl, helement, houtside⟩ := ih hlater hdepth
            exact ⟨event :: before, root, after, rfl, helement, List.forall_mem_cons.2 ⟨hevent, houtside⟩⟩
          · exact ⟨[], [.childless name], es, rfl, .childless name,
              outside_of_closed ⟨htop, hclosed, hroot⟩ hlater hdepth⟩
      | false =>
          rcases Event.tag_of_not_whole hwhole with ⟨name, rfl⟩ | rfl
          · rw [depthAfter_opening] at hdepth
            obtain ⟨inside, later, rfl, hinside, houtside⟩ := exists_closing (Nat.le_refl 0) es hdepth
            obtain ⟨r₂, hcontent, hclosing⟩ := run_append_eq_ok hlater
            obtain ⟨r₃, hstep₃, hrest⟩ := run_cons_eq_ok hclosing
            cases hstep₃
            have hopened : r₁.depth = 1 ∧ r₁.root.isSome = true := by
              simp only [step, opening, h] at hstep
              split at hstep
              · cases hstep
              · cases hstep
                exact ⟨rfl, rfl⟩
            obtain ⟨hsame, hroot⟩ := run_eq_ok hcontent (hinside.depthAfter r₁.depth)
            have hclosed := closed_closing (hsame.trans hopened.1) (hroot hopened.2)
            refine ⟨[], .opening name :: (inside ++ [.closing]), later, ?_, .element name hinside,
              outside_of_closed hclosed hrest houtside⟩
            simp only [List.nil_append, List.cons_append, List.append_assoc]
          · cases hdepth

/-- No text is read with a reference that stands for no character. -/
theorem resolved_of_run (h : r.run es = .ok r') : ∀ event ∈ es, event.isResolved = true := by
  induction es generalizing r with
  | nil => simp
  | cons event es ih =>
      obtain ⟨r₁, hstep, hrun⟩ := run_cons_eq_ok h
      refine List.forall_mem_cons.2 ⟨?_, ih hrun⟩
      cases event with
      | reference body =>
          rw [Event.isResolved]
          rw [step] at hstep
          cases hbody : resolve body with
          | ok c => rfl
          | error e =>
              rw [hbody] at hstep
              cases hstep
      | _ => rfl

/-! ### Inside the root -/

theorem step_inside (h : r.depth ≠ 0) {event : Event} (hwhole : event.isWhole = true)
    (hresolved : event.isResolved = true) : ∃ r', r.step event = .ok r' := by
  cases event with
  | opening name => cases hwhole
  | closing => cases hwhole
  | aside => exact ⟨r, rfl⟩
  | cdata content => exact ⟨r.addText content, rfl⟩
  | text content => exact ⟨r.addText content, step_text h content⟩
  | childless name =>
      rw [step, childless]
      split
      · contradiction
      · exact ⟨_, rfl⟩
      · exact ⟨_, rfl⟩
  | reference body =>
      rw [step]
      cases hbody : resolve body with
      | error e =>
          rw [Event.isResolved, hbody] at hresolved
          cases hresolved
      | ok c =>
          dsimp only
          rw [if_neg h]
          exact ⟨_, rfl⟩

theorem opening_inside (h : r.depth ≠ 0) (name : List Char) : ∃ r', r.opening name = .ok r' := by
  rw [opening]
  split
  · contradiction
  · exact ⟨_, rfl⟩
  · exact ⟨_, rfl⟩

/-- Content whose references all stand for characters is read to its end. -/
theorem run_balanced (hbalanced : Balanced es) (hresolved : ∀ event ∈ es, event.isResolved = true)
    (h : r.depth ≠ 0) : ∃ r', r.run es = .ok r' ∧ r'.depth = r.depth := by
  induction hbalanced generalizing r with
  | nothing => exact ⟨r, rfl, rfl⟩
  | whole hwhole rest ih =>
      obtain ⟨hevent, hlater⟩ := List.forall_mem_cons.1 hresolved
      obtain ⟨r₁, hstep⟩ := step_inside h hwhole hevent
      have hsame := (step_whole hwhole hstep).1
      obtain ⟨r', hrun, hdepth⟩ := ih hlater (hsame ▸ h)
      refine ⟨r', ?_, hdepth.trans hsame⟩
      rw [run, hstep]
      exact hrun
  | @element name inside later content rest ihcontent ihrest =>
      obtain ⟨-, hinner⟩ := List.forall_mem_cons.1 hresolved
      obtain ⟨hcontent, hrest⟩ := List.forall_mem_append.1 hinner
      obtain ⟨-, hlater⟩ := List.forall_mem_cons.1 hrest
      obtain ⟨r₁, hopen⟩ := opening_inside h name
      have hdeeper := (opening_eq_ok hopen).1
      obtain ⟨r₂, hrun₂, hdepth₂⟩ := ihcontent (r := r₁) hcontent (by omega)
      have hup : r₂.closing.depth = r.depth := by
        rw [depth_closing, hdepth₂, hdeeper, Nat.add_sub_cancel]
      obtain ⟨r', hrun, hdepth⟩ := ihrest (r := r₂.closing) hlater (hup ▸ h)
      refine ⟨r', ?_, hdepth.trans hup⟩
      rw [run, show r.step (.opening name) = .ok r₁ from hopen]
      dsimp only
      rw [run_append, hrun₂]
      dsimp only
      rw [run, show r₂.step .closing = .ok r₂.closing from rfl]
      exact hrun

theorem run_outside (h : r.depth = 0)
    (houtside : ∀ event ∈ es, event.isPassedOver = true) : r.run es = .ok r := by
  induction es with
  | nil => rfl
  | cons event es ih =>
      obtain ⟨hevent, hlater⟩ := List.forall_mem_cons.1 houtside
      rw [run, step_top h hevent]
      exact ih hlater

theorem run_element {root : List Event} (helement : IsElement root)
    (hresolved : ∀ event ∈ root, event.isResolved = true) :
    ∃ r, start.run root = .ok r ∧ r.Closed := by
  cases helement with
  | childless name => exact ⟨⟨0, some ⟨String.ofList name, []⟩, true, none⟩, rfl, rfl, rfl, rfl⟩
  | @element name inside content =>
      obtain ⟨-, hinner⟩ := List.forall_mem_cons.1 hresolved
      obtain ⟨hinside, -⟩ := List.forall_mem_append.1 hinner
      have hopen : start.step (.opening name) = .ok ⟨1, some ⟨String.ofList name, []⟩, false, none⟩ := rfl
      obtain ⟨r, hrun, hdepth⟩ := run_balanced content hinside
        (r := ⟨1, some ⟨String.ofList name, []⟩, false, none⟩) (by simp)
      have hroot := (run_eq_ok hrun (content.depthAfter 1)).2 rfl
      refine ⟨r.closing, ?_, closed_closing hdepth hroot⟩
      rw [run, hopen]
      dsimp only
      rw [run_append, hrun]
      rfl

end Reading

namespace Element

/-- Events of a document, without the byte order marks before it. -/
def eventsOf (s : String) : Events := events (s.toList.dropWhile (· == byteOrderMark))

theorem read_eq (s : String) : read s = match Reading.start.run (eventsOf s).events with
    | .error e => .error e
    | .ok r => match (eventsOf s).fault with
      | some (fault, rest) => .error (.refused fault
          (Text.utf8Size (s.toList.dropWhile (· == byteOrderMark)) - Text.utf8Size rest))
      | none => r.finish := rfl

theorem read_eq_ok {s : String} : (∃ e, read s = .ok e) ↔ (eventsOf s).fault = none ∧
    ∃ r, Reading.start.run (eventsOf s).events = .ok r ∧ r.depth = 0 ∧ r.root.isSome = true := by
  rw [read_eq]
  cases Reading.start.run (eventsOf s).events with
  | error e => simp
  | ok r =>
      cases (eventsOf s).fault with
      | some fault => simp
      | none =>
          simp only [true_and, Except.ok.injEq, exists_eq_left']
          unfold Reading.finish
          by_cases hdepth : r.depth = 0
          · cases hroot : r.root with
            | none => simp [hdepth]
            | some e => simp [hdepth]
          · simp [hdepth]

theorem parse_eq_ok {s : String} {e : Element} : parse s = .ok e ↔ read s = .ok e := by
  unfold parse
  cases read s with
  | error e => simp [Except.mapError]
  | ok e => simp [Except.mapError]

/-- What is read is a document, and every document is read. A section of character data around the root
is passed over, so the text is a document in the strict sense if all of them stand in elements. -/
theorem accepted_iff (s : String) :
    ((∃ e, parse s = .ok e) ↔ IsDocument Event.isPassedOver (eventsOf s)) ∧
      ((∃ e, parse s = .ok e) → CDataInside (eventsOf s).events → IsDocument Event.isOutside (eventsOf s)) ∧
      ∀ failure, parse s = .error failure → ∃ reason, failure = .serialization reason := by
  have hiff : (∃ e, parse s = .ok e) ↔ IsDocument Event.isPassedOver (eventsOf s) := by
    simp only [parse_eq_ok, read_eq_ok]
    constructor
    · rintro ⟨hfault, r, hrun, hdepth, hroot⟩
      obtain ⟨n, hnested⟩ := exists_depthAfter [] (s.toList.dropWhile (· == byteOrderMark))
      obtain rfl := (Reading.run_eq_ok hrun hnested).1.symm.trans hdepth
      obtain ⟨before, root, after, hsplit, helement, haround⟩ :=
        Reading.single_of_run rfl rfl hrun hnested hroot
      refine ⟨before, root, after, ?_, helement, ?_, haround⟩
      · rw [← hsplit, ← hfault]
      · intro event hevent
        refine Reading.resolved_of_run hrun event ?_
        rw [hsplit]
        exact List.mem_append_left _ (List.mem_append_right _ hevent)
    · rintro ⟨before, root, after, hevents, helement, hresolved, haround⟩
      obtain ⟨hbefore, hafter⟩ := List.forall_mem_append.1 haround
      obtain ⟨r, hrun, hclosed⟩ := Reading.run_element helement hresolved
      rw [hevents]
      refine ⟨rfl, r, ?_, hclosed.depth, hclosed.root⟩
      rw [List.append_assoc, Reading.run_append, Reading.run_outside rfl hbefore]
      dsimp only
      rw [Reading.run_append, hrun]
      exact Reading.run_outside hclosed.depth hafter
  refine ⟨hiff, fun hread => (hiff.1 hread).strict, ?_⟩
  intro failure hfailure
  unfold parse at hfailure
  cases hread : read s with
  | ok e =>
      rw [hread] at hfailure
      cases hfailure
  | error e =>
      rw [hread] at hfailure
      cases hfailure
      exact ⟨_, rfl⟩

theorem eventsOf_sectioned :
    eventsOf "<![CDATA[x]]><a/>" = ⟨[.cdata ['x'], .childless ['a']], none⟩ := by
  have hchars : ("<![CDATA[x]]><a/>".toList.dropWhile (· == byteOrderMark)) =
      "<![CDATA[x]]><a/>".toList := by decide
  have hsection : next [] "<![CDATA[x]]><a/>".toList = .delivered (.cdata ['x']) [] "<a/>".toList := by
    decide
  have hroot : next [] "<a/>".toList = .delivered (.childless ['a']) [] [] := by decide
  rw [eventsOf, hchars, events, eventsFrom_of_delivered hsection, eventsFrom_of_delivered hroot,
    eventsFrom_nil]

/-- A section before the root is read over, although text and references there are refused. -/
theorem not_strict : ¬ ∀ s, (∃ e, parse s = .ok e) → IsDocument Event.isOutside (eventsOf s) := by
  intro h
  have hread : ∃ e, parse "<![CDATA[x]]><a/>" = .ok e := by
    simp only [parse_eq_ok, read_eq_ok]
    rw [eventsOf_sectioned]
    exact ⟨rfl, ⟨0, some ⟨"a", []⟩, true, none⟩, rfl, rfl, rfl⟩
  obtain ⟨before, root, after, hsplit, helement, -, haround⟩ := h _ hread
  rw [eventsOf_sectioned] at hsplit
  have hevents := congrArg Events.events hsplit
  cases before with
  | cons event before =>
      simp only [List.cons_append, List.cons.injEq] at hevents
      obtain ⟨rfl, -⟩ := hevents
      cases haround _ (List.mem_append_left _ (List.mem_cons_self ..))
  | nil =>
      cases helement with
      | childless name => cases hevents
      | element name content => cases hevents

end Element
end Strongbox.Xml
