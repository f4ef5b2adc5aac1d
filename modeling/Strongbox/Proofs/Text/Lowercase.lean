import Strongbox.Proofs.Text.Case
/-! Lower case of whole texts. A capital sigma has two small forms, and what stands around it says which;
every other character is made small by itself. The rule for sigma is left open here. A text whose lower
case is ASCII is made of ASCII and of Kelvin signs, so no rule has a say in it. -/
namespace Strongbox.Text

section

variable (isFinal : List Char → List Char → Bool)

/-- Lower case of what comes after `before`, which is in reverse. A sigma that is final between what is
before it and what is after it takes the form for the end of a word. -/
def lowerAfter (before : List Char) : List Char → List Char
  | [] => []
  | c :: rest => (if c = 'Σ' ∧ isFinal before rest = true then ['ς'] else lowerChar c) ++
      lowerAfter (c :: before) rest

def lowercaseBy (s : String) : String := String.ofList (lowerAfter isFinal [] s.toList)

end

variable {isFinal : List Char → List Char → Bool}

theorem lowerAfter_cons {before cs : List Char} {c : Char} (hc : c ≠ 'Σ') :
    lowerAfter isFinal before (c :: cs) = lowerChar c ++ lowerAfter isFinal (c :: before) cs := by
  rw [lowerAfter, if_neg fun h => hc h.1]

theorem lowerAfter_never (before cs : List Char) :
    lowerAfter (fun _ _ => false) before cs = lowerChars cs := by
  induction cs generalizing before with
  | nil => rfl
  | cons c cs ih => simp [lowerAfter, ih, lowerChars]

/-- Where no sigma is final, lower case goes character by character. -/
theorem lowercaseBy_never (s : String) : lowercaseBy (fun _ _ => false) s = lowercase s := by
  rw [lowercaseBy, lowerAfter_never, lowercase]

theorem lowercaseBy_eq_iff {s t : String} : lowercaseBy isFinal s = lowercaseBy isFinal t ↔
    lowerAfter isFinal [] s.toList = lowerAfter isFinal [] t.toList :=
  String.ofList_inj

/-! ### Small forms are kept -/

/-- What a character becomes in lower case is in lower case. -/
theorem lowerChar_of_mem {c d : Char} (h : d ∈ lowerChar c) : lowerChar d = [d] := by
  by_cases hdotted : c.toNat = 0x130
  · have hc : c = 'İ' := by rw [← Char.ofNat_toNat c, hdotted]
    have hform : lowerChar 'İ' = ['i', '\u0307'] := by decide +kernel
    rw [hc, hform, List.mem_pair] at h
    rcases h with rfl | rfl <;> decide +kernel
  · obtain ⟨e, he⟩ := List.length_eq_one_iff.1 (length_lowerChar hdotted)
    have hkept := lowerChars_lowerChar c
    rw [he, lowerChars, List.flatMap_singleton] at hkept
    rw [he, List.mem_singleton] at h
    rwa [h]

theorem lowerChar_of_mem_lowerAfter {before cs : List Char} {d : Char}
    (h : d ∈ lowerAfter isFinal before cs) : lowerChar d = [d] := by
  induction cs generalizing before with
  | nil => cases h
  | cons c cs ih =>
      rcases List.mem_append.1 h with h | h
      · split at h
        · rw [List.mem_singleton.1 h]
          decide +kernel
        · exact lowerChar_of_mem h
      · exact ih h

theorem lowerAfter_eq_self {before cs : List Char} (h : ∀ d ∈ cs, lowerChar d = [d]) :
    lowerAfter isFinal before cs = cs := by
  induction cs generalizing before with
  | nil => rfl
  | cons c cs ih =>
      obtain ⟨hc, hcs⟩ := List.forall_mem_cons.1 h
      have hsigma : c ≠ 'Σ' := by
        rintro rfl
        exact absurd hc (by decide +kernel)
      rw [lowerAfter_cons hsigma, hc, ih hcs]
      rfl

theorem lowercaseBy_lowercaseBy (s : String) :
    lowercaseBy isFinal (lowercaseBy isFinal s) = lowercaseBy isFinal s := by
  have hkept : lowerAfter isFinal [] (lowerAfter isFinal [] s.toList) = lowerAfter isFinal [] s.toList :=
    lowerAfter_eq_self fun _ => lowerChar_of_mem_lowerAfter
  rw [lowercaseBy, lowercaseBy, String.toList_ofList, hkept]

/-! ### Lower case in ASCII -/

/-- The sign of a unit of temperature, which is a letter k in lower case. -/
def kelvin : Char := '\u212A'

def IsAscii (cs : List Char) : Prop := ∀ c ∈ cs, c.toNat < 0x80

-- Decided along the text: a search through all characters would be found otherwise.
instance (cs : List Char) : Decidable (IsAscii cs) :=
  List.decidableBAll (fun c : Char => c.toNat < 0x80) cs

/-- A character whose small form is in ASCII. -/
def IsPlain (c : Char) : Prop := c.toNat < 0x80 ∨ c = kelvin

instance (c : Char) : Decidable (IsPlain c) :=
  inferInstanceAs (Decidable (c.toNat < 0x80 ∨ c = kelvin))

/-- The small form of a plain character. -/
def plainChar (c : Char) : Char := if c = kelvin then 'k' else c.toLower

def plain (s : String) : List Char := s.toList.map plainChar

/-- No capital beyond ASCII but the Kelvin sign has a small form in ASCII. -/
theorem beyond_small : ∀ r ∈ caseRuns,
    0x80 ≤ r.small r.first ∨ r.first = kelvin.toNat ∧ r.last = kelvin.toNat := by decide +kernel

theorem toLower_ascii : ∀ n < 0x80, (Char.ofNat n).toLower.toNat < 0x80 := by decide

theorem toNat_toLower_lt {c : Char} : c.toLower.toNat < 0x80 ↔ c.toNat < 0x80 := by
  constructor
  · intro h
    by_contra hbeyond
    rw [toLower_eq_self (by omega)] at h
    exact hbeyond h
  · intro h
    have htable := toLower_ascii c.toNat h
    rwa [Char.ofNat_toNat] at htable

theorem lowerChar_eq_plainChar {c : Char} (h : IsPlain c) : lowerChar c = [plainChar c] := by
  rcases h with h | rfl
  · have hc : c ≠ kelvin := by
      rintro rfl
      exact absurd h (by decide)
    rw [plainChar, if_neg hc]
    exact if_pos h
  · decide +kernel

theorem isPlain_of_lowerChar {c : Char} (h : IsAscii (lowerChar c)) : IsPlain c := by
  rcases lowerChar_cases c with ⟨hascii, -⟩ | rfl | hself | ⟨r, hr, hn⟩
  · exact .inl hascii
  · exact absurd h (by decide +kernel)
  · exact .inl (h c (by simp [hself]))
  · have hsound := sound_of_mem r hr
    rw [lowerChar_of_holds hr hn] at h
    have hsmall : r.small c.toNat < 0x80 := by
      rw [← hsound.toNat_small hn]
      exact h _ List.mem_cons_self
    rcases beyond_small r hr with hbeyond | ⟨hfirst, hlast⟩
    · have := (hsound.small_le hn).1
      omega
    · obtain ⟨hlow, hhigh, -⟩ := CaseRun.holds_iff.1 hn
      refine .inr (Char.toNat_inj.1 ?_)
      omega

theorem isPlain_of_plainChar {c : Char} (h : (plainChar c).toNat < 0x80) : IsPlain c := by
  unfold plainChar at h
  split at h
  · exact .inr ‹_›
  · exact .inl (toNat_toLower_lt.1 h)

theorem plainChar_of_isSpace {c : Char} (h : isSpace c = true) : plainChar c = c := by
  have hkelvin : c ≠ kelvin := by
    rintro rfl
    exact absurd h (by decide)
  rw [plainChar, if_neg hkelvin]
  refine toLower_eq_self fun hcapital => ?_
  simp only [isSpace, Bool.or_eq_true, Bool.and_eq_true, decide_eq_true_eq, beq_iff_eq] at h
  omega

theorem lowerAfter_of_isPlain {before cs : List Char} (h : ∀ c ∈ cs, IsPlain c) :
    lowerAfter isFinal before cs = cs.map plainChar := by
  induction cs generalizing before with
  | nil => rfl
  | cons c cs ih =>
      obtain ⟨hc, hcs⟩ := List.forall_mem_cons.1 h
      have hsigma : c ≠ 'Σ' := by
        rintro rfl
        exact absurd hc (by decide)
      rw [lowerAfter_cons hsigma, lowerChar_eq_plainChar hc, ih hcs]
      rfl

theorem isPlain_of_lowerAfter {before cs : List Char} (h : IsAscii (lowerAfter isFinal before cs)) :
    ∀ c ∈ cs, IsPlain c := by
  induction cs generalizing before with
  | nil => exact fun c hc => by cases hc
  | cons c cs ih =>
      obtain ⟨hform, hrest⟩ := List.forall_mem_append.1 h
      refine List.forall_mem_cons.2 ⟨?_, ih hrest⟩
      split at hform
      · exact absurd (hform 'ς' List.mem_cons_self) (by decide)
      · exact isPlain_of_lowerChar hform

/-- Lower case in ASCII, whatever the rule for sigma. -/
theorem lowerAfter_eq_iff {before cs w : List Char} (hw : IsAscii w) :
    lowerAfter isFinal before cs = w ↔ cs.map plainChar = w := by
  constructor
  · rintro rfl
    exact (lowerAfter_of_isPlain (isPlain_of_lowerAfter hw)).symm
  · rintro rfl
    exact lowerAfter_of_isPlain fun c hc =>
      isPlain_of_plainChar (hw _ (List.mem_map_of_mem hc))

theorem isAscii_plain {cs : List Char} (h : IsAscii cs) : IsAscii (cs.map plainChar) := by
  intro d hd
  obtain ⟨c, hc, rfl⟩ := List.mem_map.1 hd
  unfold plainChar
  split
  · decide
  · exact toNat_toLower_lt.2 (h c hc)

/-- The lower case of an ASCII text is that of another text just if it is so character by character. -/
theorem lowercaseBy_eq_ascii_iff {s a : String} (ha : IsAscii a.toList) :
    lowercaseBy isFinal s = lowercaseBy isFinal a ↔ plain s = plain a := by
  rw [lowercaseBy_eq_iff, (lowerAfter_eq_iff (isAscii_plain ha)).2 (rfl : a.toList.map plainChar = _),
    lowerAfter_eq_iff (isAscii_plain ha)]
  rfl

theorem kelvin_not_mem {cs : List Char} (h : IsAscii cs) : kelvin ∉ cs :=
  fun hmem => absurd (h _ hmem) (by decide)

theorem map_plainChar {cs : List Char} (h : kelvin ∉ cs) : cs.map plainChar = cs.map Char.toLower := by
  refine List.map_congr_left fun c hc => if_neg ?_
  rintro rfl
  exact h hc

/-- Against an ASCII text, folding ASCII letters only comes to lower case but for the Kelvin sign. -/
theorem eqIgnoreAsciiCase_iff {s a : String} (ha : IsAscii a.toList) :
    eqIgnoreAsciiCase a s = true ↔ plain s = plain a ∧ kelvin ∉ s.toList := by
  rw [eqIgnoreAsciiCase, beq_iff_eq, plain, plain, map_plainChar (kelvin_not_mem ha)]
  constructor
  · intro heq
    have hs : kelvin ∉ s.toList := by
      intro hmem
      have hfold : kelvin.toLower ∈ a.toList.map Char.toLower := heq ▸ List.mem_map_of_mem hmem
      obtain ⟨c, hc, hlower⟩ := List.mem_map.1 hfold
      have hsmall := toNat_toLower_lt.2 (ha c hc)
      rw [hlower] at hsmall
      exact absurd hsmall (by decide)
    exact ⟨by rw [map_plainChar hs, heq], hs⟩
  · rintro ⟨heq, hs⟩
    rw [← heq, map_plainChar hs]

end Strongbox.Text
