import Mathlib.Data.List.Chain
import Strongbox.Text.Blank
import Strongbox.Text.Lowercase
/-! Upper case beside lower case. A capital leads to a small form and a small form to its capital, but
some characters are written in upper case like others, or with several letters; what they become has
another small form than they have. -/
namespace Strongbox.Text

namespace CaseRun

/-- The small form of a capital in the run, as a number. -/
def small (r : CaseRun) (n : Nat) : Nat := (n + r.shift).toNat

/-- The number of which a number would be the small form. -/
def large (r : CaseRun) (n : Nat) : Nat := (n - r.shift).toNat

end CaseRun

/-- Characters that upper case leads away from their lower case, each with what it is in upper case. -/
def strays : List (Nat × List Nat) := [
  (0xB5, [0x39C]), (0xDF, [0x53, 0x53]), (0x131, [0x49]), (0x149, [0x2BC, 0x4E]), (0x17F, [0x53]),
  (0x1F0, [0x4A, 0x30C]), (0x345, [0x399]), (0x390, [0x399, 0x308, 0x301]),
  (0x3B0, [0x3A5, 0x308, 0x301]), (0x3C2, [0x3A3]), (0x3D0, [0x392]), (0x3D1, [0x398]),
  (0x3D5, [0x3A6]), (0x3D6, [0x3A0]), (0x3F0, [0x39A]), (0x3F1, [0x3A1]), (0x3F5, [0x395]),
  (0x587, [0x535, 0x552]), (0x1C80, [0x412]), (0x1C81, [0x414]), (0x1C82, [0x41E]),
  (0x1C83, [0x421]), (0x1C84, [0x422]), (0x1C85, [0x422]), (0x1C86, [0x42A]), (0x1C87, [0x462]),
  (0x1C88, [0xA64A]), (0x1E96, [0x48, 0x331]), (0x1E97, [0x54, 0x308]), (0x1E98, [0x57, 0x30A]),
  (0x1E99, [0x59, 0x30A]), (0x1E9A, [0x41, 0x2BE]), (0x1E9B, [0x1E60]), (0x1F50, [0x3A5, 0x313]),
  (0x1F52, [0x3A5, 0x313, 0x300]), (0x1F54, [0x3A5, 0x313, 0x301]),
  (0x1F56, [0x3A5, 0x313, 0x342]), (0x1F80, [0x1F08, 0x399]), (0x1F81, [0x1F09, 0x399]),
  (0x1F82, [0x1F0A, 0x399]), (0x1F83, [0x1F0B, 0x399]), (0x1F84, [0x1F0C, 0x399]),
  (0x1F85, [0x1F0D, 0x399]), (0x1F86, [0x1F0E, 0x399]), (0x1F87, [0x1F0F, 0x399]),
  (0x1F88, [0x1F08, 0x399]), (0x1F89, [0x1F09, 0x399]), (0x1F8A, [0x1F0A, 0x399]),
  (0x1F8B, [0x1F0B, 0x399]), (0x1F8C, [0x1F0C, 0x399]), (0x1F8D, [0x1F0D, 0x399]),
  (0x1F8E, [0x1F0E, 0x399]), (0x1F8F, [0x1F0F, 0x399]), (0x1F90, [0x1F28, 0x399]),
  (0x1F91, [0x1F29, 0x399]), (0x1F92, [0x1F2A, 0x399]), (0x1F93, [0x1F2B, 0x399]),
  (0x1F94, [0x1F2C, 0x399]), (0x1F95, [0x1F2D, 0x399]), (0x1F96, [0x1F2E, 0x399]),
  (0x1F97, [0x1F2F, 0x399]), (0x1F98, [0x1F28, 0x399]), (0x1F99, [0x1F29, 0x399]),
  (0x1F9A, [0x1F2A, 0x399]), (0x1F9B, [0x1F2B, 0x399]), (0x1F9C, [0x1F2C, 0x399]),
  (0x1F9D, [0x1F2D, 0x399]), (0x1F9E, [0x1F2E, 0x399]), (0x1F9F, [0x1F2F, 0x399]),
  (0x1FA0, [0x1F68, 0x399]), (0x1FA1, [0x1F69, 0x399]), (0x1FA2, [0x1F6A, 0x399]),
  (0x1FA3, [0x1F6B, 0x399]), (0x1FA4, [0x1F6C, 0x399]), (0x1FA5, [0x1F6D, 0x399]),
  (0x1FA6, [0x1F6E, 0x399]), (0x1FA7, [0x1F6F, 0x399]), (0x1FA8, [0x1F68, 0x399]),
  (0x1FA9, [0x1F69, 0x399]), (0x1FAA, [0x1F6A, 0x399]), (0x1FAB, [0x1F6B, 0x399]),
  (0x1FAC, [0x1F6C, 0x399]), (0x1FAD, [0x1F6D, 0x399]), (0x1FAE, [0x1F6E, 0x399]),
  (0x1FAF, [0x1F6F, 0x399]), (0x1FB2, [0x1FBA, 0x399]), (0x1FB3, [0x391, 0x399]),
  (0x1FB4, [0x386, 0x399]), (0x1FB6, [0x391, 0x342]), (0x1FB7, [0x391, 0x342, 0x399]),
  (0x1FBC, [0x391, 0x399]), (0x1FBE, [0x399]), (0x1FC2, [0x1FCA, 0x399]), (0x1FC3, [0x397, 0x399]),
  (0x1FC4, [0x389, 0x399]), (0x1FC6, [0x397, 0x342]), (0x1FC7, [0x397, 0x342, 0x399]),
  (0x1FCC, [0x397, 0x399]), (0x1FD2, [0x399, 0x308, 0x300]), (0x1FD3, [0x399, 0x308, 0x301]),
  (0x1FD6, [0x399, 0x342]), (0x1FD7, [0x399, 0x308, 0x342]), (0x1FE2, [0x3A5, 0x308, 0x300]),
  (0x1FE3, [0x3A5, 0x308, 0x301]), (0x1FE4, [0x3A1, 0x313]), (0x1FE6, [0x3A5, 0x342]),
  (0x1FE7, [0x3A5, 0x308, 0x342]), (0x1FF2, [0x1FFA, 0x399]), (0x1FF3, [0x3A9, 0x399]),
  (0x1FF4, [0x38F, 0x399]), (0x1FF6, [0x3A9, 0x342]), (0x1FF7, [0x3A9, 0x342, 0x399]),
  (0x1FFC, [0x3A9, 0x399]), (0xFB00, [0x46, 0x46]), (0xFB01, [0x46, 0x49]), (0xFB02, [0x46, 0x4C]),
  (0xFB03, [0x46, 0x46, 0x49]), (0xFB04, [0x46, 0x46, 0x4C]), (0xFB05, [0x53, 0x54]),
  (0xFB06, [0x53, 0x54]), (0xFB13, [0x544, 0x546]), (0xFB14, [0x544, 0x535]),
  (0xFB15, [0x544, 0x53B]), (0xFB16, [0x54E, 0x546]), (0xFB17, [0x544, 0x53D])]

def isStray (c : Char) : Bool := (strays.lookup c.toNat).isSome

/-- Letters of two, of which the first alone is a capital. -/
def titled : List Nat := [0x1C5, 0x1C8, 0x1CB, 0x1F2]

/-- Upper case of a character; a character without case is its own. -/
def upperChar (c : Char) : List Char :=
  let n := c.toNat
  if n < 0x80 then [c.toUpper]
  else match strays.lookup n with
    | some form => form.map Char.ofNat
    | none =>
      if n ∈ titled then [Char.ofNat (n - 1)]
      else match caseRuns.find? (·.holds n) with
        | some _ => [c]
        | none => match caseRuns.find? fun r => r.holds (r.large n) with
          | some r => [Char.ofNat (r.large n)]
          | none => [c]

/-! ### Capitals and small forms -/

/-- All capitals, those of ASCII too. -/
def capitals : List CaseRun := ⟨0x41, 0x5A, 1, 32⟩ :: ⟨0x130, 0x130, 1, 0⟩ :: caseRuns

/-- No number from `low` to `high`, `step` apart, is in a run. -/
def CaseRun.misses (r : CaseRun) (low high step : Nat) : Bool :=
  Nat.blt high r.first || Nat.blt r.last low ||
    (step % r.step == 0 && (low - r.first) % r.step != 0)

/-- No small form of a run is a capital. -/
def CaseRun.leavesCapitals (r : CaseRun) : Bool :=
  capitals.all (·.misses (r.small r.first) (r.small r.last) (if r.first = r.last then 0 else r.step))

theorem leavesCapitals : caseRuns.all CaseRun.leavesCapitals = true := by decide +kernel

/-- What a run of capitals is made of: characters, and none of ASCII, whose small forms are characters. -/
structure CaseRun.Sound (r : CaseRun) : Prop where
  order : r.first ≤ r.last
  beyond : 0x80 ≤ r.first
  large : r.last < 0xD800 ∨ 0xDFFF < r.first ∧ r.last < 0x110000
  positive : 0 ≤ r.first + r.shift
  small : r.small r.last < 0xD800 ∨ 0xDFFF < r.small r.first ∧ r.small r.last < 0x110000

instance (r : CaseRun) : Decidable r.Sound :=
  decidable_of_iff (r.first ≤ r.last ∧ 0x80 ≤ r.first ∧
      (r.last < 0xD800 ∨ 0xDFFF < r.first ∧ r.last < 0x110000) ∧ 0 ≤ r.first + r.shift ∧
      (r.small r.last < 0xD800 ∨ 0xDFFF < r.small r.first ∧ r.small r.last < 0x110000))
    ⟨fun ⟨h₁, h₂, h₃, h₄, h₅⟩ => ⟨h₁, h₂, h₃, h₄, h₅⟩, fun ⟨h₁, h₂, h₃, h₄, h₅⟩ => ⟨h₁, h₂, h₃, h₄, h₅⟩⟩

theorem sound_of_mem : ∀ r ∈ caseRuns, r.Sound := by decide +kernel

def CaseRun.Before (r s : CaseRun) : Prop := r.last < s.first ∧ s.first ≤ s.last

instance : DecidableRel CaseRun.Before := fun r s =>
  inferInstanceAs (Decidable (r.last < s.first ∧ s.first ≤ s.last))

instance : Trans CaseRun.Before CaseRun.Before CaseRun.Before where
  trans h h' := ⟨Nat.lt_trans (Nat.lt_of_lt_of_le h.1 h.2) h'.1, h'.2⟩

theorem ascending : caseRuns.Pairwise CaseRun.Before :=
  List.isChain_iff_pairwise.1 (by decide +kernel)

theorem CaseRun.holds_iff {r : CaseRun} {n : Nat} :
    r.holds n = true ↔ r.first ≤ n ∧ n ≤ r.last ∧ (n - r.first) % r.step = 0 := by
  simp [CaseRun.holds, and_assoc]

/-- No character is in two runs. -/
theorem find?_of_holds {r : CaseRun} (hr : r ∈ caseRuns) {n : Nat} (hn : r.holds n = true) :
    caseRuns.find? (·.holds n) = some r := by
  have hapart : caseRuns.Pairwise fun r s => ¬ (r.holds n = true ∧ s.holds n = true) := by
    refine ascending.imp ?_
    rintro r s ⟨hlast, -⟩ ⟨hr, hs⟩
    have := (CaseRun.holds_iff.1 hr).2.1
    have := (CaseRun.holds_iff.1 hs).1
    omega
  obtain ⟨s, hfind⟩ := Option.isSome_iff_exists.1
    (List.find?_isSome (p := (·.holds n)) |>.2 ⟨r, hr, hn⟩)
  rw [hfind]
  by_contra hne
  have : Std.Symm fun r s : CaseRun => ¬ (r.holds n = true ∧ s.holds n = true) :=
    ⟨fun _ _ h => h ∘ And.symm⟩
  have hs : s.holds n = true := by simpa using List.find?_some hfind
  exact hapart.forall (List.mem_of_find?_eq_some hfind) hr (fun heq => hne (congrArg some heq)) ⟨hs, hn⟩

theorem CaseRun.holds_of_misses {r : CaseRun} {low high step i : Nat}
    (h : r.misses low high step = true) (hlow : low ≤ i) (hhigh : i ≤ high) (hstep : step ∣ i - low) :
    r.holds i = false := by
  rw [← Bool.not_eq_true, CaseRun.holds_iff]
  rintro ⟨hfirst, hlast, hmod⟩
  simp only [CaseRun.misses, Bool.or_eq_true, Nat.blt_eq, Bool.and_eq_true, beq_iff_eq, bne_iff_ne] at h
  rcases h with (h | h) | ⟨h, hoff⟩
  · omega
  · omega
  · have hdvd : r.step ∣ i - low := Nat.dvd_trans (Nat.dvd_of_mod_eq_zero h) hstep
    have hle : r.first ≤ low := by
      by_contra hlt
      rw [Nat.sub_eq_zero_of_le (by omega), Nat.zero_mod] at hoff
      exact hoff rfl
    have hsum : i - r.first = (i - low) + (low - r.first) := by omega
    rw [hsum, Nat.add_mod, Nat.mod_eq_zero_of_dvd hdvd, Nat.zero_add, Nat.mod_mod] at hmod
    exact hoff hmod

section

variable {r : CaseRun} {n : Nat}

theorem CaseRun.Sound.small_eq (h : r.Sound) (hn : r.holds n = true) :
    r.small n = r.small r.first + (n - r.first) := by
  have := (CaseRun.holds_iff.1 hn).1
  have := h.positive
  unfold CaseRun.small
  omega

theorem CaseRun.Sound.small_large (h : r.Sound) (hn : r.holds (r.large n) = true) :
    r.small (r.large n) = n := by
  have := (CaseRun.holds_iff.1 hn).1
  have := h.beyond
  unfold CaseRun.large CaseRun.small at *
  omega

theorem CaseRun.Sound.small_le (h : r.Sound) (hn : r.holds n = true) :
    r.small r.first ≤ r.small n ∧ r.small n ≤ r.small r.last := by
  have := (CaseRun.holds_iff.1 hn).2.1
  have := h.small_eq hn
  have := h.positive
  unfold CaseRun.small at *
  omega

theorem toNat_ofNat {n : Nat} (h : n.isValidChar) : (Char.ofNat n).toNat = n := by
  rw [Char.ofNat, dif_pos h]
  rfl

theorem CaseRun.Sound.toNat_small (h : r.Sound) (hn : r.holds n = true) :
    (Char.ofNat (r.small n)).toNat = r.small n := by
  obtain ⟨hlow, hhigh⟩ := h.small_le hn
  refine Text.toNat_ofNat ?_
  rcases h.small with hsmall | ⟨hsmall, htop⟩
  · exact .inl (by omega)
  · exact .inr ⟨by omega, by omega⟩

theorem CaseRun.Sound.toNat_ofNat (h : r.Sound) (hn : r.holds n = true) : (Char.ofNat n).toNat = n := by
  obtain ⟨hfirst, hlast, -⟩ := CaseRun.holds_iff.1 hn
  refine Text.toNat_ofNat ?_
  rcases h.large with hlow | ⟨hlow, htop⟩
  · exact .inl (by omega)
  · exact .inr ⟨by omega, by omega⟩

theorem not_capital_small (hr : r ∈ caseRuns) (hn : r.holds n = true) :
    ∀ s ∈ capitals, s.holds (r.small n) = false := by
  intro s hs
  have hsound := sound_of_mem r hr
  obtain ⟨hlow, hhigh⟩ := hsound.small_le hn
  have hleaves := List.all_eq_true.1 (List.all_eq_true.1 leavesCapitals r hr) s hs
  refine CaseRun.holds_of_misses hleaves hlow hhigh ?_
  rw [hsound.small_eq hn, Nat.add_sub_cancel_left]
  obtain ⟨hfirst, hlast, hmod⟩ := CaseRun.holds_iff.1 hn
  split
  · rename_i hsingle
    have hzero : n - r.first = 0 := by omega
    exact ⟨0, hzero⟩
  · exact Nat.dvd_of_mod_eq_zero hmod

theorem lowerChar_of_holds {c : Char} (hr : r ∈ caseRuns) (hn : r.holds c.toNat = true) :
    lowerChar c = [Char.ofNat (r.small c.toNat)] := by
  have hbeyond := (sound_of_mem r hr).beyond
  have hfirst := (CaseRun.holds_iff.1 hn).1
  have hdotted : c.toNat ≠ 0x130 := by
    intro heq
    rw [heq] at hn
    have hnone : caseRuns.find? (·.holds 0x130) = none := by decide +kernel
    rw [find?_of_holds hr hn] at hnone
    cases hnone
  unfold lowerChar
  dsimp only
  rw [if_neg (by omega), if_neg (by simpa using hdotted), find?_of_holds hr hn]
  rfl

theorem toLower_eq_self {c : Char} (h : ¬ (0x41 ≤ c.toNat ∧ c.toNat ≤ 0x5A)) : c.toLower = c := by
  unfold Char.toLower
  rw [dif_neg]
  exact h

theorem lowerChar_eq_self {c : Char} (h : ∀ s ∈ capitals, s.holds c.toNat = false) :
    lowerChar c = [c] := by
  obtain ⟨hascii, h⟩ := List.forall_mem_cons.1 h
  obtain ⟨hdotted, hruns⟩ := List.forall_mem_cons.1 h
  unfold lowerChar
  dsimp only
  split
  · have hlow : ¬ (0x41 ≤ c.toNat ∧ c.toNat ≤ 0x5A) := by
      rintro ⟨hfirst, hlast⟩
      have hholds : CaseRun.holds ⟨0x41, 0x5A, 1, 32⟩ c.toNat = true :=
        CaseRun.holds_iff.2 ⟨hfirst, hlast, Nat.mod_one _⟩
      rw [hascii] at hholds
      cases hholds
    rw [toLower_eq_self hlow]
  · rw [if_neg, List.find?_eq_none.2]
    · intro s hs
      simp [hruns s hs]
    · intro heq
      rw [beq_iff_eq.1 heq] at hdotted
      exact absurd hdotted (by decide)

/-- What a character may be for its lower case. -/
theorem lowerChar_cases (c : Char) : (c.toNat < 0x80 ∧ lowerChar c = [c.toLower]) ∨ c = 'İ' ∨
    lowerChar c = [c] ∨ ∃ r ∈ caseRuns, r.holds c.toNat = true := by
  by_cases hascii : c.toNat < 0x80
  · exact .inl ⟨hascii, if_pos hascii⟩
  · by_cases hdotted : c.toNat = 0x130
    · refine .inr (.inl ?_)
      rw [← Char.ofNat_toNat c, hdotted]
    · cases hfind : caseRuns.find? (·.holds c.toNat) with
      | some r =>
          have hn : r.holds c.toNat = true := by simpa using List.find?_some hfind
          exact .inr (.inr (.inr ⟨r, List.mem_of_find?_eq_some hfind, hn⟩))
      | none =>
          refine .inr (.inr (.inl ?_))
          unfold lowerChar
          dsimp only
          rw [if_neg hascii, if_neg (by simpa using hdotted), hfind]

theorem lowerChars_ascii : ∀ n < 0x80, lowerChars (lowerChar (Char.ofNat n)) = lowerChar (Char.ofNat n) ∧
    lowerChar (Char.ofNat n).toUpper = lowerChar (Char.ofNat n) := by decide +kernel

/-- What is in lower case stays as it is. -/
theorem lowerChars_lowerChar (c : Char) : lowerChars (lowerChar c) = lowerChar c := by
  rcases lowerChar_cases c with ⟨hascii, -⟩ | rfl | hself | ⟨r, hr, hn⟩
  · have htable := (lowerChars_ascii _ hascii).1
    rwa [Char.ofNat_toNat] at htable
  · decide +kernel
  · simp [hself, lowerChars]
  · have hvalid := (sound_of_mem r hr).toNat_small hn
    have hsmall := not_capital_small hr hn
    rw [← hvalid] at hsmall
    rw [lowerChar_of_holds hr hn, lowerChars, List.flatMap_singleton, lowerChar_eq_self hsmall]

end

/-! ### Upper case -/

theorem titled_folds : ∀ n ∈ titled, lowerChar (Char.ofNat (n - 1)) = lowerChar (Char.ofNat n) := by
  decide +kernel

theorem lowerChars_upperChar {c : Char} (h : isStray c = false) :
    lowerChars (upperChar c) = lowerChar c := by
  have hsingle : ∀ d : Char, lowerChars [d] = lowerChar d := fun d => by simp [lowerChars]
  have hnone : strays.lookup c.toNat = none := by simpa [isStray] using h
  unfold upperChar
  dsimp only
  rw [hnone]
  dsimp only
  split
  · rename_i hascii
    have htable := (lowerChars_ascii _ hascii).2
    rwa [Char.ofNat_toNat, ← hsingle] at htable
  · split
    · rename_i htitled
      have htable := titled_folds _ htitled
      rwa [Char.ofNat_toNat, ← hsingle] at htable
    · split
      · exact hsingle c
      · rename_i hcapital
        split
        · rename_i r hfind
          have hr : r ∈ caseRuns := List.mem_of_find?_eq_some hfind
          have hn : r.holds (r.large c.toNat) = true := by simpa using List.find?_some hfind
          have hback : r.small (r.large c.toNat) = c.toNat := (sound_of_mem r hr).small_large hn
          have hkept := not_capital_small hr hn
          rw [hback] at hkept
          have hlarge : r.holds (Char.ofNat (r.large c.toNat)).toNat = true := by
            rwa [(sound_of_mem r hr).toNat_ofNat hn]
          rw [hsingle, lowerChar_of_holds hr hlarge, (sound_of_mem r hr).toNat_ofNat hn, hback,
            Char.ofNat_toNat, lowerChar_eq_self hkept]
        · exact hsingle c

/-- What a stray is in upper case: something to be seen, that has several letters or is another letter. -/
structure Astray (n : Nat) (form : List Char) : Prop where
  beyond : 0x80 ≤ n
  undotted : n ≠ 0x130
  seen : form.any (!isSpace ·) = true
  away : 2 ≤ form.length ∨ lowerChars form ≠ lowerChar (Char.ofNat n)

instance (n : Nat) (form : List Char) : Decidable (Astray n form) :=
  decidable_of_iff (0x80 ≤ n ∧ n ≠ 0x130 ∧ form.any (!isSpace ·) = true ∧
      (2 ≤ form.length ∨ lowerChars form ≠ lowerChar (Char.ofNat n)))
    ⟨fun ⟨h₁, h₂, h₃, h₄⟩ => ⟨h₁, h₂, h₃, h₄⟩, fun ⟨h₁, h₂, h₃, h₄⟩ => ⟨h₁, h₂, h₃, h₄⟩⟩

theorem astray_of_mem : ∀ p ∈ strays, Astray p.1 (p.2.map Char.ofNat) := by decide +kernel

theorem astray_upperChar {c : Char} (h : isStray c = true) : Astray c.toNat (upperChar c) := by
  obtain ⟨form, hform⟩ := Option.isSome_iff_exists.1 h
  obtain ⟨before, after, hsplit, -⟩ := List.lookup_eq_some_iff.1 hform
  have hastray := astray_of_mem (c.toNat, form) (by simp [hsplit])
  have hupper : upperChar c = form.map Char.ofNat := by
    have := hastray.beyond
    unfold upperChar
    dsimp only
    rw [if_neg (by omega), hform]
  rwa [hupper]

theorem length_lowerChar {c : Char} (h : c.toNat ≠ 0x130) : (lowerChar c).length = 1 := by
  rcases lowerChar_cases c with ⟨-, hlower⟩ | rfl | hself | ⟨r, hr, hn⟩
  · rw [hlower]
    rfl
  · exact absurd rfl h
  · rw [hself]
    rfl
  · rw [lowerChar_of_holds hr hn]
    rfl

theorem length_le_lowerChars (cs : List Char) : cs.length ≤ (lowerChars cs).length := by
  have hpos : ∀ c, 1 ≤ (lowerChar c).length := by
    intro c
    by_cases hdotted : c.toNat = 0x130
    · have hc : c = 'İ' := by rw [← Char.ofNat_toNat c, hdotted]
      rw [hc]
      decide
    · rw [length_lowerChar hdotted]
  induction cs with
  | nil => exact Nat.zero_le _
  | cons c cs ih =>
      have := hpos c
      simp only [lowerChars, List.flatMap_cons, List.length_append, List.length_cons] at ih ⊢
      omega

/-- Upper case leads back to the same lower case from every character but the strays. -/
theorem lowerChars_upperChar_iff (c : Char) :
    lowerChars (upperChar c) = lowerChar c ↔ isStray c = false := by
  refine ⟨fun heq => ?_, lowerChars_upperChar⟩
  by_contra hstray
  have hastray := astray_upperChar (by simpa using hstray)
  rcases hastray.away with hlong | haway
  · have hlength := length_le_lowerChars (upperChar c)
    rw [heq, length_lowerChar hastray.undotted] at hlength
    omega
  · rw [Char.ofNat_toNat] at haway
    exact haway heq

/-! ### Texts -/

/-- Texts of which one has each character of the other as it is, in upper case or in lower case. -/
inductive CaseVariant : List Char → List Char → Prop
  | nothing : CaseVariant [] []
  | char {c : Char} {form v w : List Char} (h : form = [c] ∨ form = upperChar c ∨ form = lowerChar c)
      (rest : CaseVariant v w) : CaseVariant (c :: v) (form ++ w)

theorem CaseVariant.refl (v : List Char) : CaseVariant v v := by
  induction v with
  | nil => exact .nothing
  | cons c v ih => exact .char (.inl rfl) ih

theorem CaseVariant.append_left (before : List Char) {v w : List Char} (h : CaseVariant v w) :
    CaseVariant (before ++ v) (before ++ w) := by
  induction before with
  | nil => exact h
  | cons c before ih => exact @CaseVariant.char c [c] _ _ (.inl rfl) ih

/-- A text without strays is folded like all its variants. -/
theorem CaseVariant.lowerChars {v w : List Char} (h : CaseVariant v w)
    (hv : ∀ c ∈ v, isStray c = false) : lowerChars w = lowerChars v := by
  induction h with
  | nothing => rfl
  | @char c form v w hform rest ih =>
      obtain ⟨hc, hrest⟩ := List.forall_mem_cons.1 hv
      have hfold : Text.lowerChars form = lowerChar c := by
        rcases hform with rfl | rfl | rfl
        · simp [Text.lowerChars]
        · exact lowerChars_upperChar hc
        · exact lowerChars_lowerChar c
      have hlater := ih hrest
      unfold Text.lowerChars at *
      rw [List.flatMap_append, List.flatMap_cons, hfold, hlater]

/-- A text with a stray has a variant that is folded unlike it. -/
theorem exists_variant_of_stray {v : List Char} {c : Char} (hc : c ∈ v) (hstray : isStray c = true) :
    ∃ w, CaseVariant v w ∧ w.all isSpace = false ∧ lowerChars w ≠ lowerChars v := by
  obtain ⟨before, after, rfl⟩ := List.append_of_mem hc
  refine ⟨before ++ (upperChar c ++ after), .append_left _ (.char (.inr (.inl rfl)) (.refl after)), ?_, ?_⟩
  · obtain ⟨d, hd, hseen⟩ := List.any_eq_true.1 (astray_upperChar hstray).seen
    rw [List.all_eq_false]
    exact ⟨d, by simp [hd], by simpa using hseen⟩
  · intro heq
    have hfold : lowerChars (upperChar c) = lowerChar c := by simpa [lowerChars] using heq
    rw [(lowerChars_upperChar_iff c).1 hfold] at hstray
    cases hstray

end Strongbox.Text
