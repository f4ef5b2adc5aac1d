import Strongbox.Proofs.Text.Digits
import Strongbox.Json.Value
/-! A text in quotes reads back as the text, whatever it holds and whatever follows it. -/
namespace Strongbox.Json

theorem unit?_hex4 {n : Nat} (h : n < 0x10000) : ∃ a b c d, hex4 n = [a, b, c, d] ∧
    unit? a b c d = some n := by
  refine ⟨_, _, _, _, rfl, ?_⟩
  have hread := Text.readHex?_hexDigits n 4
  rwa [Nat.mod_eq_of_lt (Nat.lt_of_lt_of_eq h (by decide))] at hread

/-- A control character without a short escape is written by its number. -/
theorem readText_control {n : Nat} (h : n < 0x20) (rest : List Char) :
    readText ('\\' :: 'u' :: (hex4 n ++ rest)) =
      (readText rest).map fun p => (Char.ofNat n :: p.1, p.2) := by
  obtain ⟨a, b, c, d, hdigits, hunit⟩ := unit?_hex4 (Nat.lt_trans h (by decide))
  have hlow : isLow n = false := by
    simp only [isLow, Bool.and_eq_false_iff, decide_eq_false_iff_not]
    omega
  have hhigh : isHigh n = false := by
    simp only [isHigh, Bool.and_eq_false_iff, decide_eq_false_iff_not]
    omega
  rw [hdigits]
  simp only [List.cons_append, List.nil_append, readText, hunit, hlow, hhigh, bind, Option.bind]
  cases readText rest <;> rfl

/-- A short escape stands for one character, and its letter is not that of a number. -/
theorem readText_short {letter c : Char} (h : shortEscape? letter = some c) (rest : List Char) :
    readText ('\\' :: letter :: rest) = (readText rest).map fun p => (c :: p.1, p.2) := by
  have hu : letter ≠ 'u' := by
    rintro rfl
    cases h
  rw [readText]
  · simp only [h, bind, Option.bind]
    cases readText rest <;> rfl
  · intro a b c d rest heq
    exact absurd heq hu

theorem readText_plain {c : Char} (hquote : c ≠ '"') (hslash : c ≠ '\\') (hvisible : ¬ c.toNat < 0x20)
    (rest : List Char) :
    readText (c :: rest) = (readText rest).map fun p => (c :: p.1, p.2) := by
  rw [readText]
  · simp only [hslash, hvisible, or_self, if_false, bind, Option.bind]
    cases readText rest <;> rfl
  · exact fun heq => hquote heq
  · intro a b c d rest heq
    exact absurd heq hslash
  · intro d rest heq
    exact absurd heq hslash

theorem readText_escapeChar (c : Char) (rest : List Char) :
    readText (escapeChar c ++ rest) = (readText rest).map fun p => (c :: p.1, p.2) := by
  have hback : Char.ofNat c.toNat = c := Char.ofNat_toNat c
  unfold escapeChar
  split
  · rename_i h
    exact readText_short (by rcases h with rfl | rfl <;> rfl) rest
  rename_i hmark
  split
  · rename_i h
    exact readText_short (by rw [← hback, h]; rfl) rest
  split
  · rename_i h
    exact readText_short (by rw [← hback, h]; rfl) rest
  split
  · rename_i h
    exact readText_short (by rw [h]; rfl) rest
  split
  · rename_i h
    exact readText_short (by rw [h]; rfl) rest
  split
  · rename_i h
    exact readText_short (by rw [h]; rfl) rest
  split
  · rename_i h
    have hcontrol := readText_control h rest
    rwa [hback] at hcontrol
  · rename_i h
    exact readText_plain (fun heq => hmark (.inl heq)) (fun heq => hmark (.inr heq)) h rest

theorem readText_escaped (text rest : List Char) :
    readText (text.flatMap escapeChar ++ '"' :: rest) = some (text, rest) := by
  induction text with
  | nil => rw [List.flatMap_nil, List.nil_append, readText]
  | cons c text ih =>
      rw [List.flatMap_cons, List.append_assoc, readText_escapeChar, ih]
      rfl

end Strongbox.Json
