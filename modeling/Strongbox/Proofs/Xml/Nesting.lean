import Strongbox.Proofs.Xml.Reading
/-! How the events of a text nest: which of them make an element, and that no text has an end tag too
many before it is refused. -/
namespace Strongbox.Xml

namespace Event

/-- An event that is content by itself. Tags of an element with content come in pairs. -/
def isWhole : Event → Bool
  | .opening _ => false
  | .closing => false
  | _ => true

/-- What may stand around the root: markup that is no content, and white space. -/
def isOutside : Event → Bool
  | .aside => true
  | .text content => content.all Text.isSpace
  | _ => false

def isCData : Event → Bool
  | .cdata _ => true
  | _ => false

/-- What is read around the root: besides what may stand there, sections of character data. -/
def isPassedOver (event : Event) : Bool := event.isOutside || event.isCData

/-- References that stand for a character, and whatever is no reference. -/
def isResolved : Event → Bool
  | .reference body => (resolve body).toOption.isSome
  | _ => true

end Event

theorem Event.tag_of_not_whole {event : Event} (h : event.isWhole = false) :
    (∃ name, event = .opening name) ∨ event = .closing := by
  cases event with
  | opening name => exact .inl ⟨name, rfl⟩
  | closing => exact .inr rfl
  | childless name => cases h
  | text content => cases h
  | cdata content => cases h
  | reference body => cases h
  | aside => cases h

/-- Events between the tags of an element. -/
inductive Balanced : List Event → Prop
  | nothing : Balanced []
  | whole {event : Event} {later : List Event} (h : event.isWhole = true) (rest : Balanced later) :
      Balanced (event :: later)
  | element (name : List Char) {inside later : List Event} (content : Balanced inside)
      (rest : Balanced later) : Balanced (.opening name :: (inside ++ .closing :: later))

/-- Events of one element from its first to its last. -/
inductive IsElement : List Event → Prop
  | childless (name : List Char) : IsElement [.childless name]
  | element (name : List Char) {inside : List Event} (content : Balanced inside) :
      IsElement (.opening name :: (inside ++ [.closing]))

/-- A complete document of one root, whose references all stand for characters. `around` says what
there may be before the root and after it. -/
def IsDocument (around : Event → Bool) (found : Events) : Prop :=
  ∃ before root after, found = ⟨before ++ root ++ after, none⟩ ∧ IsElement root ∧
    (∀ event ∈ root, event.isResolved = true) ∧ ∀ event ∈ before ++ after, around event = true

/-- How many elements are open after some events, unless one is closed that was never opened. -/
def depthAfter : Nat → List Event → Option Nat
  | n, [] => some n
  | n, .opening _ :: later => depthAfter (n + 1) later
  | 0, .closing :: _ => none
  | n + 1, .closing :: later => depthAfter n later
  | n, _ :: later => depthAfter n later

theorem depthAfter_whole {event : Event} (h : event.isWhole = true) (n : Nat) (later : List Event) :
    depthAfter n (event :: later) = depthAfter n later := by
  cases event with
  | opening name => cases h
  | closing => cases h
  | childless name => cases n <;> rfl
  | text content => cases n <;> rfl
  | cdata content => cases n <;> rfl
  | reference body => cases n <;> rfl
  | aside => cases n <;> rfl

theorem depthAfter_opening (name : List Char) (n : Nat) (later : List Event) :
    depthAfter n (.opening name :: later) = depthAfter (n + 1) later := by
  cases n <;> rfl

/-- An element that is open and is closed at last is closed after events that nest. -/
theorem exists_closing {n m : Nat} (hm : m ≤ n) (es : List Event) (h : depthAfter (n + 1) es = some m) :
    ∃ inside later, es = inside ++ .closing :: later ∧ Balanced inside ∧
      depthAfter n later = some m := by
  -- What follows an element inside is shorter, though it is no tail of a tail.
  induction hlength : es.length using Nat.strong_induction_on generalizing n es with
  | _ length ih =>
      subst hlength
      cases es with
      | nil =>
          cases h
          omega
      | cons event es =>
          cases hwhole : event.isWhole with
          | true =>
              rw [depthAfter_whole hwhole] at h
              obtain ⟨inside, later, rfl, hinside, hlater⟩ := ih es.length (by simp) hm es h rfl
              exact ⟨event :: inside, later, rfl, .whole hwhole hinside, hlater⟩
          | false =>
              rcases Event.tag_of_not_whole hwhole with ⟨name, rfl⟩ | rfl
              · rw [depthAfter_opening] at h
                obtain ⟨first, es', rfl, hfirst, hes'⟩ := ih es.length (by simp) (by omega) es h rfl
                have hshort : es'.length < (Event.opening name :: (first ++ .closing :: es')).length := by
                  simp only [List.length_cons, List.length_append]
                  omega
                obtain ⟨second, later, rfl, hsecond, hlater⟩ := ih es'.length hshort hm es' hes' rfl
                refine ⟨.opening name :: (first ++ .closing :: second), later, ?_,
                  .element name hfirst hsecond, hlater⟩
                simp only [List.cons_append, List.append_assoc]
              · exact ⟨[], es, rfl, .nothing, h⟩

/-- Events that nest leave as many elements open as there were. -/
theorem Balanced.depthAfter_append {inside : List Event} (h : Balanced inside) (n : Nat)
    (later : List Event) : depthAfter n (inside ++ later) = depthAfter n later := by
  induction h generalizing n later with
  | nothing => rfl
  | whole hwhole rest ih => rw [List.cons_append, depthAfter_whole hwhole, ih]
  | element name content rest ihcontent ihrest =>
      rw [List.cons_append, depthAfter_opening, List.append_assoc, ihcontent]
      exact ihrest n later

theorem Balanced.depthAfter {inside : List Event} (h : Balanced inside) (n : Nat) :
    Xml.depthAfter n inside = some n := by
  have hend := h.depthAfter_append n []
  rw [List.append_nil] at hend
  cases n <;> exact hend

theorem Balanced.append {first second : List Event} (h : Balanced first) (h' : Balanced second) :
    Balanced (first ++ second) := by
  induction h with
  | nothing => exact h'
  | whole hwhole rest ih => exact .whole hwhole ih
  | element name content rest ihcontent ihrest =>
      rw [List.cons_append, List.append_assoc]
      exact .element name content ihrest

theorem balanced_of_whole {es : List Event} (h : ∀ event ∈ es, event.isWhole = true) : Balanced es := by
  induction es with
  | nil => exact .nothing
  | cons event es ih =>
      obtain ⟨hevent, hlater⟩ := List.forall_mem_cons.1 h
      exact .whole hevent (ih hlater)

theorem IsElement.balanced {root : List Event} (h : IsElement root) : Balanced root := by
  cases h with
  | childless name => exact .whole rfl .nothing
  | element name content => exact .element name content .nothing

/-- Every section of character data stands in an element. -/
def CDataInside (es : List Event) : Prop :=
  ∀ before content after, es = before ++ .cdata content :: after → depthAfter 0 before ≠ some 0

theorem isWhole_of_isPassedOver {event : Event} (h : event.isPassedOver = true) :
    event.isWhole = true := by
  cases event with
  | opening name => cases h
  | closing => cases h
  | _ => rfl

theorem balanced_of_isPassedOver {es : List Event} (h : ∀ event ∈ es, event.isPassedOver = true) :
    Balanced es :=
  balanced_of_whole fun event hevent => isWhole_of_isPassedOver (h event hevent)

/-- Where nothing is open, no section is let through if all of them stand in elements. -/
theorem CDataInside.isOutside {sofar es later : List Event} (h : CDataInside (sofar ++ es ++ later))
    (hsofar : Balanced sofar) (hes : ∀ event ∈ es, event.isPassedOver = true) :
    ∀ event ∈ es, event.isOutside = true := by
  intro event hevent
  cases event with
  | cdata content =>
      obtain ⟨first, rest, rfl⟩ := List.append_of_mem hevent
      have hfirst := balanced_of_isPassedOver fun other hother => hes other (List.mem_append_left _ hother)
      refine absurd ((hsofar.append hfirst).depthAfter 0) (h (sofar ++ first) content (rest ++ later) ?_)
      simp only [List.append_assoc, List.cons_append]
  | aside => rfl
  | text content => simpa [Event.isPassedOver, Event.isCData] using hes _ hevent
  | opening name => cases hes _ hevent
  | childless name => cases hes _ hevent
  | closing => cases hes _ hevent
  | reference body => cases hes _ hevent

theorem IsDocument.strict {found : Events} (h : IsDocument Event.isPassedOver found)
    (hinside : CDataInside found.events) : IsDocument Event.isOutside found := by
  obtain ⟨before, root, after, rfl, helement, hresolved, haround⟩ := h
  obtain ⟨hbefore, hafter⟩ := List.forall_mem_append.1 haround
  have hleading : CDataInside ([] ++ before ++ (root ++ after)) := by
    rw [List.nil_append, ← List.append_assoc]
    exact hinside
  have htrailing : CDataInside (before ++ root ++ after ++ []) := by
    rw [List.append_nil]
    exact hinside
  refine ⟨before, root, after, rfl, helement, hresolved, List.forall_mem_append.2 ⟨?_, ?_⟩⟩
  · exact hleading.isOutside .nothing hbefore
  · exact htrailing.isOutside ((balanced_of_isPassedOver hbefore).append helement.balanced) hafter

/-! ### The events of a text -/

/-- How an event changes which elements are open, the innermost first. -/
inductive Leads : List (List Char) → Event → List (List Char) → Prop
  | opening (name : List Char) (opens : List (List Char)) : Leads opens (.opening name) (name :: opens)
  | closing (name : List Char) (opens : List (List Char)) : Leads (name :: opens) .closing opens
  | whole {event : Event} (h : event.isWhole = true) (opens : List (List Char)) : Leads opens event opens

section

variable {opens opens' : List (List Char)} {whole cs rest : List Char} {event : Event}

theorem leads_of_declaration (h : declarationStep opens whole cs = .delivered event opens' rest) :
    Leads opens event opens' := by
  unfold declarationStep at h
  repeat' split at h
  all_goals cases h
  all_goals exact .whole rfl opens

theorem leads_of_instruction (h : instructionStep opens whole cs = .delivered event opens' rest) :
    Leads opens event opens' := by
  unfold instructionStep at h
  repeat' split at h
  all_goals cases h
  exact .whole rfl opens

theorem leads_of_end (h : endStep opens whole cs = .delivered event opens' rest) :
    Leads opens event opens' := by
  unfold endStep at h
  repeat' split at h
  all_goals cases h
  exact .closing _ opens'

theorem leads_of_tag (h : tagStep opens whole cs = .delivered event opens' rest) :
    Leads opens event opens' := by
  unfold tagStep at h
  split at h
  · cases h
  · split at h
    · cases h
      exact .whole rfl opens
    · cases h
      exact .opening _ opens

theorem leads_of_delivered (h : next opens cs = .delivered event opens' rest) :
    Leads opens event opens' := by
  unfold next at h
  split at h
  · cases h
  · split at h
    · unfold markupStep at h
      split at h
      · exact leads_of_declaration h
      · exact leads_of_instruction h
      · exact leads_of_end h
      · exact leads_of_tag h
    · split at h
      · split at h
        · cases h
          exact .whole rfl opens
        · cases h
      · cases h
        exact .whole rfl opens

end

/-- No element is closed that was not opened. -/
theorem exists_depthAfter (opens : List (List Char)) (cs : List Char) :
    ∃ n, depthAfter opens.length (eventsFrom opens cs).events = some n := by
  fun_induction eventsFrom opens cs with
  | case1 opens cs hnext => exact ⟨opens.length, rfl⟩
  | case2 opens cs fault rest hnext => exact ⟨opens.length, rfl⟩
  | case3 opens cs event opens' rest hnext later ih =>
      cases leads_of_delivered hnext with
      | opening name opens =>
          rw [depthAfter_opening]
          exact ih
      | closing name opens => exact ih
      | whole hwhole opens =>
          rw [depthAfter_whole hwhole]
          exact ih

end Strongbox.Xml
