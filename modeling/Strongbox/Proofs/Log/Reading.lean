import Strongbox.Log.Config
import Strongbox.Proofs.Text.Bytes
import Strongbox.Proofs.Text.Lowercase
/-! How directives are read. Parts are cut where they would stand without the blanks in front of them, so only
a piece that begins with a blank and has a character of several bytes may be torn. -/
namespace Strongbox

namespace Text

/-- Between two characters, or at an end. -/
def Boundary (cs : List Char) (n : Nat) : Prop :=
  ∃ before after, cs = before ++ after ∧ utf8Size before = n

variable {cs : List Char} {first last : Nat}

theorem boundary_end (cs : List Char) : Boundary cs (utf8Size cs) := ⟨cs, [], (List.append_nil cs).symm, rfl⟩

theorem utf8Size_cons (c : Char) (cs : List Char) : utf8Size (c :: cs) = c.utf8Size + utf8Size cs := by
  have happend := utf8Size_append [c] cs
  have hone : utf8Size [c] = c.utf8Size := Nat.zero_add _
  rwa [hone] at happend

theorem dropBytes?_append (before after : List Char) :
    dropBytes? (utf8Size before) (before ++ after) = some after := by
  induction before with
  | nil => cases after <;> rfl
  | cons c before ih =>
      have hpos := c.utf8Size_pos
      have hsize := utf8Size_cons c before
      obtain ⟨n, hn⟩ : ∃ n, utf8Size (c :: before) = n + 1 := ⟨_, (Nat.sub_add_cancel (by omega)).symm⟩
      have hrest : n + 1 - c.utf8Size = utf8Size before := by omega
      rw [hn, List.cons_append, dropBytes?, if_pos (by omega), hrest, ih]

theorem takeBytes?_append (before after : List Char) :
    takeBytes? (utf8Size before) (before ++ after) = some before := by
  induction before with
  | nil => cases after <;> rfl
  | cons c before ih =>
      have hpos := c.utf8Size_pos
      have hsize := utf8Size_cons c before
      obtain ⟨n, hn⟩ : ∃ n, utf8Size (c :: before) = n + 1 := ⟨_, (Nat.sub_add_cancel (by omega)).symm⟩
      have hrest : n + 1 - c.utf8Size = utf8Size before := by omega
      rw [hn, List.cons_append, takeBytes?, if_pos (by omega), hrest, ih, Option.map_some]

/-- What lies between two boundaries can be cut out. -/
theorem slice?_of_boundary (hfirst : Boundary cs first) (hlast : Boundary cs last) :
    ∃ part, slice? cs first last = some part := by
  obtain ⟨before, after, rfl, rfl⟩ := hfirst
  obtain ⟨before', after', hsame, rfl⟩ := hlast
  rw [slice?, dropBytes?_append, Option.bind_some]
  rcases List.append_eq_append_iff.1 hsame with ⟨part, rfl, rfl⟩ | ⟨part, rfl, rfl⟩
  · rw [utf8Size_append, Nat.add_sub_cancel_left]
    exact ⟨part, takeBytes?_append part after'⟩
  · rw [utf8Size_append, Nat.sub_eq_zero_of_le (Nat.le_add_right _ _)]
    exact ⟨[], by cases after <;> rfl⟩

theorem utf8Size_of_ascii (h : IsAscii cs) : utf8Size cs = cs.length := by
  induction cs with
  | nil => rfl
  | cons c cs ih =>
      have hone : c.utf8Size = 1 := Char.utf8Size_eq_one_iff.2 (UInt32.le_iff_toNat_le.2 (Nat.le_of_lt_succ (h c (by simp))))
      rw [utf8Size_cons, hone, ih fun c' hc' => h c' (List.mem_cons_of_mem c hc'), List.length_cons, Nat.add_comm]

theorem boundary_of_ascii (h : IsAscii cs) {n : Nat} (hn : n ≤ cs.length) : Boundary cs n := by
  refine ⟨cs.take n, cs.drop n, (List.take_append_drop n cs).symm, ?_⟩
  rw [utf8Size_of_ascii fun c hc => h c (List.mem_of_mem_take hc), List.length_take, Nat.min_eq_left hn]

theorem trimEndChars_prefix (cs : List Char) : trimEndChars cs <+: cs := by
  have hback := List.reverse_prefix.2 (List.dropWhile_suffix isSpace (l := cs.reverse))
  rwa [List.reverse_reverse] at hback

end Text

namespace Log

open Text (Boundary IsAscii)

namespace Directive

variable {whole : List Char}

/-- Where the present part begins, if there is one. -/
def Place.start? : Place → Option Nat
  | .word n | .span n | .field n | .level n => some n
  | .start | .fields | .target => none

/-- The present part begins between two characters. -/
def Place.Clean (whole : List Char) (place : Place) : Prop :=
  ∀ n, place.start? = some n → Boundary whole n

/-- Nothing is torn: not so far, nor is the part that has just begun. -/
def Intact (whole : List Char) : Except FilterError (Directive × Place) → Prop
  | .ok (_, place) => place.Clean whole
  | .error e => e ≠ .torn

theorem part_eq_ok {first last : Nat} (hfirst : Boundary whole first) (hlast : Boundary whole last) :
    ∃ cs, part whole first last = .ok cs := by
  obtain ⟨cs, hslice⟩ := Text.slice?_of_boundary hfirst hlast
  exact ⟨cs, by rw [part, hslice]⟩

theorem readField_ne_torn (cs : List Char) : readField cs ≠ .error .torn := by
  unfold readField Wanted.read
  dsimp only
  split
  · simp
  · split
    · simp [Except.map]
    · split <;> simp [Except.map]

theorem clean_of_start {place : Place} {n : Nat} (hstart : place.start? = some n) (hn : Boundary whole n) :
    place.Clean whole := by
  intro m hm
  cases hstart.symm.trans hm
  exact hn

theorem clean_of_none {place : Place} (hstart : place.start? = none) : place.Clean whole := by
  intro m hm
  cases hstart.symm.trans hm

/-- A mark takes one byte, and the next part begins behind it. -/
theorem clean_of_mark {place : Place} {i : Nat} {c mark : Char} (hc : c = mark) (hmark : mark.utf8Size = 1)
    (hstart : place.start? = some (i + 1)) (hnext : Boundary whole (i + c.utf8Size)) : place.Clean whole := by
  rw [hc, hmark] at hnext
  exact clean_of_start hstart hnext

/-- One step tears nothing where the character lies between boundaries. -/
theorem step_intact {d : Directive} {place : Place} {i : Nat} {c : Char} (hplace : place.Clean whole)
    (hi : Boundary whole i) (hnext : Boundary whole (i + c.utf8Size)) :
    Intact whole (step whole d place i c) := by
  cases place with
  | start =>
      rw [step]
      split
      · exact clean_of_mark ‹_› rfl rfl hnext
      · split
        · exact clean_of_start rfl hi
        · exact fun h => by cases h
  | word first =>
      obtain ⟨cs, hpart⟩ := part_eq_ok (hplace first rfl) hi
      rw [step, hpart]
      split
      · exact clean_of_mark ‹_› rfl rfl hnext
      · split
        · exact clean_of_mark ‹_› rfl rfl hnext
        · exact hplace
  | span first =>
      obtain ⟨cs, hpart⟩ := part_eq_ok (hplace first rfl) hi
      rw [step, hpart]
      split
      · exact clean_of_none rfl
      · split
        · exact clean_of_mark ‹_› rfl rfl hnext
        · exact hplace
  | field first =>
      obtain ⟨cs, hpart⟩ := part_eq_ok (hplace first rfl) hi
      rw [step, hpart]
      split
      · have hfield := readField_ne_torn cs
        simp only [Except.bind]
        split
        · exact fun h => by cases h
        · cases hread : readField cs with
          | error e =>
              rw [hread] at hfield
              exact fun h => hfield (congrArg _ h)
          | ok f => exact clean_of_none rfl
      · exact hplace
  | fields =>
      rw [step]
      split
      · exact clean_of_none rfl
      · exact fun h => by cases h
  | target =>
      rw [step]
      split
      · exact clean_of_mark ‹_› rfl rfl hnext
      · exact fun h => by cases h
  | level first => exact hplace

theorem scan_intact {d : Directive} {place : Place} {i : Nat} {rest : List Char} (hplace : place.Clean whole)
    (hrest : ∀ before after, rest = before ++ after → Boundary whole (i + Text.utf8Size before)) :
    Intact whole (scan whole d place i rest) := by
  induction rest generalizing d place i with
  | nil => exact hplace
  | cons c rest ih =>
      have hi : Boundary whole i := hrest [] (c :: rest) rfl
      have hnext := hrest [c] rest rfl
      rw [Text.utf8Size_cons] at hnext
      have hstep := step_intact (d := d) hplace hi hnext
      rw [scan]
      cases hresult : step whole d place i c with
      | error e =>
          rw [hresult] at hstep
          exact hstep
      | ok next =>
          rw [hresult] at hstep
          refine ih hstep fun before after hsplit => ?_
          have hlater := hrest (c :: before) after (by rw [hsplit]; rfl)
          rwa [Text.utf8Size_cons, ← Nat.add_assoc] at hlater

theorem finish_ne_torn {d : Directive} {place : Place} (hplace : place.Clean whole) :
    finish whole d place ≠ .error .torn := by
  cases place with
  | word first =>
      obtain ⟨cs, hpart⟩ := part_eq_ok (hplace first rfl) (Text.boundary_end whole)
      rw [finish, hpart]
      rintro ⟨⟩
  | level first =>
      obtain ⟨cs, hpart⟩ := part_eq_ok (hplace first rfl) (Text.boundary_end whole)
      rw [finish, hpart]
      simp only [Except.bind]
      split
      · rintro ⟨⟩
      · split <;> rintro ⟨⟩
  | target => rintro ⟨⟩
  | _ => rintro ⟨⟩

/-- Nothing is torn where what is scanned lies between the boundaries of what is cut. -/
theorem parse_ne_torn (h : ∀ before after, Text.trimEndChars (Text.trimStartChars whole) = before ++ after →
    Boundary whole (Text.utf8Size before)) : parse whole ≠ .error .torn := by
  have hscan : Intact whole (scan whole blank .start 0 (Text.trimEndChars (Text.trimStartChars whole))) := by
    refine scan_intact (clean_of_none rfl) fun before after hsplit => ?_
    rw [Nat.zero_add]
    exact h before after hsplit
  rw [parse]
  cases hresult : scan whole blank .start 0 (Text.trimEndChars (Text.trimStartChars whole)) with
  | error e =>
      rw [hresult] at hscan
      exact fun herror => hscan (Except.error.inj herror)
  | ok next =>
      rw [hresult] at hscan
      exact finish_ne_torn hscan

/-- A piece that is torn begins with a blank. -/
theorem blank_of_torn (h : parse whole = .error .torn) : ∃ c later, whole = c :: later ∧ Text.isSpace c = true := by
  by_contra hnone
  simp only [not_exists, not_and] at hnone
  have hstart : Text.trimStartChars whole = whole := by
    cases whole with
    | nil => rfl
    | cons c later => exact List.dropWhile_cons_of_neg (hnone c later rfl)
  refine parse_ne_torn (fun before after hsplit => ?_) h
  obtain ⟨blanks, hblanks⟩ := Text.trimEndChars_prefix (Text.trimStartChars whole)
  rw [hsplit, hstart, List.append_assoc] at hblanks
  exact ⟨before, after ++ blanks, hblanks.symm, rfl⟩

/-- A piece that is torn has a character of several bytes. -/
theorem not_isAscii_of_torn (h : parse whole = .error .torn) : ¬ IsAscii whole := by
  intro hascii
  refine parse_ne_torn (fun before after hsplit => ?_) h
  have hfront := Text.trimEndChars_prefix (Text.trimStartChars whole)
  have hback : Text.trimStartChars whole <:+ whole := List.dropWhile_suffix _
  rw [hsplit] at hfront
  have hmem : ∀ c ∈ before, c ∈ whole := fun c hc =>
    hback.subset (hfront.subset (List.mem_append_left after hc))
  have hlength := hfront.length_le.trans hback.length_le
  rw [List.length_append] at hlength
  rw [Text.utf8Size_of_ascii fun c hc => hascii c (hmem c hc)]
  exact Text.boundary_of_ascii hascii (by omega)

end Directive

namespace Filter

theorem mem_of_mem_pieces {cs piece : List Char} (h : piece ∈ pieces cs) {c : Char} (hc : c ∈ piece) : c ∈ cs := by
  induction cs generalizing piece with
  | nil =>
      rw [pieces, List.mem_singleton] at h
      rwa [h] at hc
  | cons c' cs ih =>
      rw [pieces] at h
      split at h
      · rcases List.mem_cons.1 h with rfl | hlater
        · cases hc
        · exact List.mem_cons_of_mem c' (ih hlater hc)
      · split at h
        · rename_i first later hpieces
          rw [hpieces] at ih
          rcases List.mem_cons.1 h with rfl | hlater
          · rcases List.mem_cons.1 hc with rfl | hmem
            · exact List.mem_cons_self
            · exact List.mem_cons_of_mem c' (ih List.mem_cons_self hmem)
          · exact List.mem_cons_of_mem c' (ih (List.mem_cons_of_mem first hlater) hc)
        · obtain rfl := List.mem_singleton.1 h
          obtain rfl := List.mem_singleton.1 hc
          exact List.mem_cons_self

theorem parseAll_eq_error {texts : List (List Char)} {e : FilterError} (h : parseAll texts = .error e) :
    ∃ piece ∈ texts, Directive.parse piece = .error e := by
  induction texts with
  | nil => cases h
  | cons piece later ih =>
      rw [parseAll] at h
      cases hpiece : Directive.parse piece with
      | error e' =>
          rw [hpiece] at h
          cases h
          exact ⟨piece, List.mem_cons_self, hpiece⟩
      | ok d =>
          rw [hpiece] at h
          cases hlater : parseAll later with
          | error e' =>
              rw [hlater] at h
              cases h
              obtain ⟨other, hmem, hother⟩ := ih hlater
              exact ⟨other, List.mem_cons_of_mem piece hmem, hother⟩
          | ok ds =>
              rw [hlater] at h
              cases h

/-- What makes a filter tear: a piece of it begins with a blank and has a character of several bytes. -/
theorem piece_of_torn {s : String} (h : parse s = .error .torn) : ∃ piece ∈ pieces s.toList,
    ¬ IsAscii piece ∧ ∃ c later, piece = c :: later ∧ Text.isSpace c = true := by
  have hall : parseAll ((pieces s.toList).filter (!·.isEmpty)) = .error .torn := by
    rw [parse] at h
    cases hall : parseAll ((pieces s.toList).filter (!·.isEmpty)) with
    | error e =>
        rw [hall] at h
        exact congrArg _ (Except.error.inj h)
    | ok ds =>
        rw [hall] at h
        cases h
  obtain ⟨piece, hmem, hpiece⟩ := parseAll_eq_error hall
  exact ⟨piece, (List.mem_filter.1 hmem).1, Directive.not_isAscii_of_torn hpiece, Directive.blank_of_torn hpiece⟩

/-- No text in ASCII tears. -/
theorem parse_ne_torn_of_ascii {s : String} (h : IsAscii s.toList) : parse s ≠ .error .torn := by
  intro htorn
  obtain ⟨piece, hmem, hpiece, -⟩ := piece_of_torn htorn
  exact hpiece fun c hc => h c (mem_of_mem_pieces hmem hc)

end Filter

namespace Config

/-- The directive that a level is written as is read as the filter of that level. -/
theorem parse_levelDirective (c : Config) : Filter.parse c.levelDirective = .ok (.ofLevel ownTarget c.level) := by
  have hlevels : ∀ level : Level,
      Filter.parse (ownTarget ++ "=" ++ level.toText) = .ok (.ofLevel ownTarget level) := by
    intro level
    cases level <;> decide +kernel
  exact hlevels c.level

/-- A filter is always one that is read, of what is given or else of the level. -/
theorem filter_eq (c : Config) :
    c.filter = (Filter.parse (c.directives.getD c.levelDirective)).mapError unfiltered := by
  rw [filter]
  cases c.directives with
  | some text => rfl
  | none =>
      rw [Option.getD_none, c.parse_levelDirective]
      rfl

end Config
end Log
end Strongbox
