import Strongbox.Proofs.Xml.Nesting
/-! What is met in a text is met in every longer one, and inside elements as well as outside: a piece
that is complete stays what it is, whatever follows. Only a run of plain text may grow. -/
namespace Strongbox.Xml

section

variable {cs before after more : List Char}

theorem length_le_of_cutAt {mark : List Char} (h : cutAt mark cs = some (before, after)) :
    mark.length ≤ cs.length := by
  induction cs generalizing before with
  | nil => cases h
  | cons c cs ih =>
      rw [cutAt] at h
      split at h
      · rename_i hprefix
        exact (List.isPrefixOf_iff_prefix.1 hprefix).length_le
      · obtain ⟨⟨between, rest⟩, hcut, heq⟩ := Option.map_eq_some_iff.1 h
        cases heq
        exact Nat.le_succ_of_le (ih hcut)

theorem isPrefixOf_longer {mark : List Char} (h : mark.isPrefixOf cs = true) (more : List Char) :
    mark.isPrefixOf (cs ++ more) = true :=
  List.isPrefixOf_iff_prefix.2 ((List.isPrefixOf_iff_prefix.1 h).trans (List.prefix_append cs more))

/-- A mark that fits in a text begins it if it begins a longer one. -/
theorem isPrefixOf_of_longer {mark : List Char} (hfits : mark.length ≤ cs.length)
    (h : mark.isPrefixOf (cs ++ more) = true) : mark.isPrefixOf cs = true :=
  List.isPrefixOf_iff_prefix.2
    (List.prefix_of_prefix_length_le (List.isPrefixOf_iff_prefix.1 h) (List.prefix_append cs more) hfits)

theorem cutAt_longer {mark : List Char} (h : cutAt mark cs = some (before, after)) (more : List Char) :
    cutAt mark (cs ++ more) = some (before, after ++ more) := by
  induction cs generalizing before with
  | nil => cases h
  | cons c cs ih =>
      have hfits := length_le_of_cutAt h
      rw [cutAt] at h
      rw [List.cons_append, cutAt, ← List.cons_append]
      split at h
      · rename_i hprefix
        cases h
        rw [if_pos (isPrefixOf_longer hprefix more), List.drop_append_of_le_length hfits]
      · rename_i hprefix
        obtain ⟨⟨between, rest⟩, hcut, heq⟩ := Option.map_eq_some_iff.1 h
        cases heq
        rw [if_neg (mt (isPrefixOf_of_longer hfits) hprefix), ih hcut]
        rfl

theorem cutReference_longer (h : cutReference cs = some (before, after)) (more : List Char) :
    cutReference (cs ++ more) = some (before, after ++ more) := by
  induction cs generalizing before with
  | nil => cases h
  | cons c cs ih =>
      rw [cutReference] at h
      rw [List.cons_append, cutReference]
      split at h
      · rename_i hsemicolon
        cases h
        rw [if_pos hsemicolon]
      · rename_i hsemicolon
        split at h
        · cases h
        · rename_i hmarkup
          obtain ⟨⟨between, rest⟩, hcut, heq⟩ := Option.map_eq_some_iff.1 h
          cases heq
          rw [if_neg hsemicolon, if_neg hmarkup, ih hcut]
          rfl

theorem cutTag_longer {quote : Option Char} (h : cutTag quote cs = .ok (before, after))
    (more : List Char) : cutTag quote (cs ++ more) = .ok (before, after ++ more) := by
  induction cs generalizing quote before with
  | nil => cases quote <;> cases h
  | cons c cs ih =>
      have hlater : ∀ {quote before},
          (cutTag quote cs).map (fun found => (c :: found.1, found.2)) = Except.ok (before, after) →
            (cutTag quote (cs ++ more)).map (fun found => (c :: found.1, found.2)) =
              Except.ok (before, after ++ more) := by
        intro quote before hcut
        cases hrest : cutTag quote cs with
        | error e =>
            rw [hrest] at hcut
            cases hcut
        | ok found =>
            obtain ⟨between, rest⟩ := found
            rw [hrest] at hcut
            cases hcut
            rw [ih hrest]
            rfl
      rw [List.cons_append]
      cases quote with
      | none =>
          rw [cutTag] at h ⊢
          split at h
          · rename_i hbracket
            cases h
            rw [if_pos hbracket]
          · rename_i hbracket
            rw [if_neg hbracket]
            exact hlater h
      | some q =>
          rw [cutTag] at h ⊢
          exact hlater h

end

/-! ### Document types -/

namespace Doctype

variable {state : Doctype} {cs rest : List Char}

/-- A document type ends at a closing bracket, outside quotes and brackets. -/
theorem step_eq_none {c : Char} :
    step state c cs = none ↔ c = '>' ∧ (state = .head none ∨ state = .tail) := by
  unfold step
  split <;> (repeat' split) <;> simp_all

/-- What is left begins with the bracket at which the document type ends. -/
theorem split_of_findEnd (h : findEnd state cs = some rest) :
    ∃ front tail, rest = '>' :: tail ∧ cs = front ++ rest := by
  induction cs generalizing state with
  | nil => cases h
  | cons c cs ih =>
      rw [findEnd] at h
      cases hstep : step state c cs with
      | some next =>
          rw [hstep] at h
          obtain ⟨front, tail, hrest, rfl⟩ := ih h
          exact ⟨c :: front, tail, hrest, rfl⟩
      | none =>
          rw [hstep] at h
          cases h
          obtain ⟨rfl, -⟩ := step_eq_none.1 hstep
          exact ⟨[], cs, rfl, rfl⟩

theorem mem_of_findEnd (h : findEnd state cs = some rest) : '>' ∈ cs := by
  obtain ⟨front, tail, rfl, rfl⟩ := split_of_findEnd h
  exact List.mem_append_right front List.mem_cons_self

/-- A word that has no closing bracket is no longer begun behind one. -/
theorem isPrefixOf_append_of_mem (word : List Char) (hword : '>' ∉ word) (h : '>' ∈ cs)
    (more : List Char) : word.isPrefixOf (cs ++ more) = word.isPrefixOf cs := by
  rw [Bool.eq_iff_iff, List.isPrefixOf_iff_prefix, List.isPrefixOf_iff_prefix]
  refine ⟨fun hlong => ?_, fun hshort => hshort.trans (List.prefix_append cs more)⟩
  rcases List.prefix_or_prefix_of_prefix hlong (List.prefix_append cs more) with hshort | hword'
  · exact hshort
  · exact absurd (hword'.subset h) hword

theorem ofMarkup_longer (h : '>' ∈ cs) (more : List Char) : ofMarkup (cs ++ more) = ofMarkup cs := by
  have hcomment := isPrefixOf_append_of_mem ['!', '-', '-'] (by decide) h more
  have hinstruction := isPrefixOf_append_of_mem ['?'] (by decide) h more
  have hentity := isPrefixOf_append_of_mem "!ENTITY".toList (by decide) h more
  have hattributes := isPrefixOf_append_of_mem "!ATTLIST".toList (by decide) h more
  have hnotation := isPrefixOf_append_of_mem "!NOTATION".toList (by decide) h more
  simp only [ofMarkup, hcomment, hinstruction, List.any_cons, List.any_nil, hentity, hattributes,
    hnotation]

theorem step_longer (h : '>' ∈ cs) (state : Doctype) (c : Char) (more : List Char) :
    step state c (cs ++ more) = step state c cs := by
  cases state with
  | subset => simp only [step, ofMarkup_longer h more]
  | head quote => cases quote <;> rfl
  | declaration quoted quote => cases quote <;> rfl
  | _ => rfl

/-- What is looked at ahead is decided before the end that was found. -/
theorem findEnd_longer (h : findEnd state cs = some rest) (more : List Char) :
    findEnd state (cs ++ more) = some (rest ++ more) := by
  induction cs generalizing state with
  | nil => cases h
  | cons c cs ih =>
      rw [findEnd] at h
      rw [List.cons_append, findEnd]
      cases hstep : step state c cs with
      | none =>
          rw [hstep] at h
          cases h
          have hlonger : step state c (cs ++ more) = none := step_eq_none.2 (step_eq_none.1 hstep)
          rw [hlonger]
          rfl
      | some next =>
          rw [hstep] at h
          rw [step_longer (mem_of_findEnd h), hstep]
          exact ih h

theorem ne_nil_of_findEnd (h : findEnd state cs = some rest) : rest ≠ [] := by
  obtain ⟨front, tail, rfl, -⟩ := split_of_findEnd h
  exact List.cons_ne_nil '>' tail

end Doctype

/-! ### Deliveries -/

section

variable {opens opens' : List (List Char)} {whole cs rest : List Char} {event : Event}

theorem declarationStep_longer (h : declarationStep opens whole cs = .delivered event opens' rest)
    (outer : List (List Char)) (whole' more : List Char) :
    declarationStep (opens ++ outer) whole' (cs ++ more) =
      .delivered event (opens' ++ outer) (rest ++ more) := by
  unfold declarationStep at h
  split at h
  · rename_i cs
    split at h
    · rename_i hword
      have hdrop : (cs ++ more).drop 6 = cs.drop 6 ++ more :=
        List.drop_append_of_le_length (List.isPrefixOf_iff_prefix.1 hword).length_le
      split at h
      · rename_i hcut
        cases h
        rw [List.cons_append, declarationStep, if_pos (isPrefixOf_longer hword more), hdrop,
          cutAt_longer hcut more]
      · cases h
    · cases h
  · rename_i cs
    split at h
    · rename_i hword
      have hdrop : (cs ++ more).drop 1 = cs.drop 1 ++ more :=
        List.drop_append_of_le_length (List.isPrefixOf_iff_prefix.1 hword).length_le
      split at h
      · rename_i hcut
        cases h
        rw [List.cons_append, declarationStep, if_pos (isPrefixOf_longer hword more), hdrop,
          cutAt_longer hcut more]
      · cases h
    · cases h
  · rename_i c cs hsection hcomment
    split at h
    · rename_i hletter
      split at h
      · rename_i hword
        have hlength : 6 ≤ cs.length := by
          have hsix := congrArg List.length hword
          simp only [List.length_map, List.length_take, List.length_cons, List.length_nil] at hsix
          omega
        have hdrop : (cs ++ more).drop 6 = cs.drop 6 ++ more := List.drop_append_of_le_length hlength
        have htake : (cs ++ more).take 6 = cs.take 6 := List.take_append_of_le_length hlength
        split at h
        · rename_i found hend
          have hshort := Doctype.length_findEnd hend
          rw [List.length_drop] at hshort
          split at h
          · cases h
          · rename_i hnamed
            cases h
            have hcount : (cs ++ more).length - 6 - (found ++ more).length =
                cs.length - 6 - found.length := by
              simp only [List.length_append]
              omega
            have hcontent : (cs.drop 6 ++ more).take (cs.length - 6 - found.length) =
                (cs.drop 6).take (cs.length - 6 - found.length) :=
              List.take_append_of_le_length (by rw [List.length_drop]; omega)
            have htail : (found ++ more).tail = found.tail ++ more :=
              List.tail_append_of_ne_nil (Doctype.ne_nil_of_findEnd hend)
            rw [List.cons_append, declarationStep]
            · rw [if_pos hletter, htake, if_pos hword, hdrop, Doctype.findEnd_longer hend more]
              dsimp only
              rw [hcount, hcontent, if_neg hnamed, htail]
            · exact hsection
            · exact hcomment
        · cases h
      · cases h
    · cases h
  · cases h

theorem instructionStep_longer (h : instructionStep opens whole cs = .delivered event opens' rest)
    (outer : List (List Char)) (whole' more : List Char) :
    instructionStep (opens ++ outer) whole' (cs ++ more) =
      .delivered event (opens' ++ outer) (rest ++ more) := by
  unfold instructionStep at h
  split at h
  · cases h
  · rename_i hbare
    split at h
    · rename_i hcut
      cases h
      have hfits : ['>'].length ≤ cs.length := by
        have htwo := length_le_of_cutAt hcut
        simp only [List.length_cons, List.length_nil] at htwo ⊢
        omega
      rw [instructionStep, if_neg (mt (isPrefixOf_of_longer hfits) hbare), cutAt_longer hcut more]
    · cases h

theorem endStep_longer (h : endStep opens whole cs = .delivered event opens' rest)
    (outer : List (List Char)) (whole' more : List Char) :
    endStep (opens ++ outer) whole' (cs ++ more) =
      .delivered event (opens' ++ outer) (rest ++ more) := by
  unfold endStep at h
  split at h
  · cases h
  · rename_i hcut
    split at h
    · cases h
    · split at h
      · rename_i hname
        cases h
        rw [endStep, cutTag_longer hcut more]
        exact if_pos hname
      · cases h

theorem tagStep_longer (h : tagStep opens whole cs = .delivered event opens' rest)
    (outer : List (List Char)) (whole' more : List Char) :
    tagStep (opens ++ outer) whole' (cs ++ more) =
      .delivered event (opens' ++ outer) (rest ++ more) := by
  unfold tagStep at h
  split at h
  · cases h
  · rename_i hcut
    rw [tagStep, cutTag_longer hcut more]
    dsimp only
    split at h
    · rename_i hslash
      cases h
      exact if_pos hslash
    · rename_i hslash
      cases h
      exact if_neg hslash

theorem markupStep_longer (h : markupStep opens whole cs = .delivered event opens' rest)
    (outer : List (List Char)) (whole' more : List Char) :
    markupStep (opens ++ outer) whole' (cs ++ more) =
      .delivered event (opens' ++ outer) (rest ++ more) := by
  unfold markupStep at h
  split at h
  · exact declarationStep_longer h outer whole' more
  · exact instructionStep_longer h outer whole' more
  · exact endStep_longer h outer whole' more
  · rename_i hbang hask hslash
    cases cs with
    | nil => cases h
    | cons c cs =>
        rw [List.cons_append, markupStep]
        · exact tagStep_longer h outer whole' more
        · exact fun later heq => hbang cs (by rw [(List.cons.inj heq).1])
        · exact fun later heq => hask cs (by rw [(List.cons.inj heq).1])
        · exact fun later heq => hslash cs (by rw [(List.cons.inj heq).1])

/-- Markup is never delivered as plain text. -/
theorem not_text_of_markupStep (h : markupStep opens whole cs = .delivered event opens' rest)
    (content : List Char) : event ≠ .text content := by
  unfold markupStep at h
  rintro rfl
  split at h
  · unfold declarationStep at h
    repeat' split at h
    all_goals cases h
  · unfold instructionStep at h
    repeat' split at h
    all_goals cases h
  · unfold endStep at h
    repeat' split at h
    all_goals cases h
  · unfold tagStep at h
    repeat' split at h
    all_goals cases h

theorem not_text_of_next {c : Char} (hc : isPlain c = false)
    (h : next opens (c :: cs) = .delivered event opens' rest) (content : List Char) :
    event ≠ .text content := by
  rw [next] at h
  split at h
  · exact not_text_of_markupStep h content
  · rename_i hopen
    split at h
    · split at h
      · cases h
        simp
      · cases h
    · simp_all [isPlain]

/-- A run of plain text ends before anything else. -/
theorem plain_append (cs : List Char) {more : List Char} (h : ∀ c ∈ more.head?, isPlain c = false) :
    (cs ++ more).takeWhile isPlain = cs.takeWhile isPlain ∧
      (cs ++ more).dropWhile isPlain = cs.dropWhile isPlain ++ more := by
  induction cs with
  | nil =>
      cases more with
      | nil => exact ⟨rfl, rfl⟩
      | cons c more =>
          have hc := h c rfl
          exact ⟨List.takeWhile_cons_of_neg (by simp [hc]), List.dropWhile_cons_of_neg (by simp [hc])⟩
  | cons c cs ih =>
      cases hc : isPlain c with
      | true => simpa [hc] using ih
      | false => simp [hc]

/-- A delivery is the same in a longer text and inside elements, but for plain text that goes on. -/
theorem next_longer (h : next opens cs = .delivered event opens' rest) (outer : List (List Char))
    {more : List Char}
    (hends : (∀ content, event ≠ .text content) ∨ ∀ c ∈ more.head?, isPlain c = false) :
    next (opens ++ outer) (cs ++ more) = .delivered event (opens' ++ outer) (rest ++ more) := by
  cases cs with
  | nil => cases h
  | cons c cs =>
      cases hc : isPlain c with
      | true =>
          rw [next_plain hc] at h
          cases h
          have hmore : ∀ c ∈ more.head?, isPlain c = false :=
            hends.resolve_left fun hnone => hnone _ rfl
          obtain ⟨htake, hdrop⟩ := plain_append cs hmore
          rw [List.cons_append, next_plain hc, htake, hdrop]
      | false =>
          rw [List.cons_append]
          rw [next] at h ⊢
          split at h
          · rename_i hopen
            rw [if_pos hopen]
            exact markupStep_longer h outer _ more
          · rename_i hopen
            split at h
            · rename_i hamp
              split at h
              · rename_i hcut
                cases h
                rw [if_neg hopen, if_pos hamp, cutReference_longer hcut more]
              · cases h
            · simp_all [isPlain]

end

/-! ### All events -/

theorem eq_nil_of_finished {opens : List (List Char)} {cs : List Char} (h : next opens cs = .finished) :
    cs = [] := by
  cases cs with
  | nil => rfl
  | cons c cs =>
      rw [next] at h
      unfold markupStep declarationStep instructionStep endStep tagStep at h
      repeat' split at h
      all_goals cases h

theorem depthAfter_of_leads {opens opens' : List (List Char)} {event : Event}
    (h : Leads opens event opens') (later : List Event) :
    depthAfter opens.length (event :: later) = depthAfter opens'.length later := by
  cases h with
  | opening name opens => exact depthAfter_opening name _ later
  | closing name opens => rfl
  | whole hwhole opens => exact depthAfter_whole hwhole _ later

/-- A text in which no fault is met opens and closes some elements. Whatever follows it is then met as if
it stood alone in those that are left open. -/
theorem eventsFrom_append {opens : List (List Char)} {cs : List Char}
    (h : (eventsFrom opens cs).fault = none) :
    ∃ opens', depthAfter opens.length (eventsFrom opens cs).events = some opens'.length ∧
      ∀ outer {more : List Char}, (∀ c ∈ more.head?, isPlain c = false) →
        eventsFrom (opens ++ outer) (cs ++ more) =
          ⟨(eventsFrom opens cs).events ++ (eventsFrom (opens' ++ outer) more).events,
            (eventsFrom (opens' ++ outer) more).fault⟩ := by
  fun_induction eventsFrom opens cs with
  | case1 opens cs hnext =>
      obtain rfl := eq_nil_of_finished hnext
      exact ⟨opens, rfl, fun outer more _ => rfl⟩
  | case2 opens cs fault rest hnext => cases h
  | case3 opens cs event opens' rest hnext later ih =>
      obtain ⟨left, hdepth, hlater⟩ := ih h
      refine ⟨left, (depthAfter_of_leads (leads_of_delivered hnext) _).trans hdepth, ?_⟩
      intro outer more hmore
      rw [eventsFrom_of_delivered (next_longer hnext outer (.inr hmore)), hlater outer hmore]
      rfl

end Strongbox.Xml
