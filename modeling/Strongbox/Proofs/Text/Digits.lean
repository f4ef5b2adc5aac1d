import Mathlib.Algebra.Ring.Nat
import Mathlib.Data.List.Induction
import Strongbox.Text.Digits
/-! Hexadecimal and decimal digits read back as the number that they were written for. -/
namespace Strongbox.Text

theorem hexValue?_hexDigit : ∀ n < 16, hexValue? (hexDigit n) = some n := by decide

theorem length_hexDigits (n count : Nat) : (hexDigits n count).length = count := by
  induction count generalizing n with
  | zero => rfl
  | succ count ih => simp only [hexDigits, List.length_append, ih, List.length_singleton]

theorem mem_hexDigits {c : Char} {n count : Nat} (h : c ∈ hexDigits n count) :
    ∃ d < 16, c = hexDigit d := by
  induction count generalizing n with
  | zero => cases h
  | succ count ih =>
      rcases List.mem_append.1 h with front | last
      · exact ih front
      · exact ⟨n % 16, Nat.mod_lt _ (by decide), List.mem_singleton.1 last⟩

/-- Only the last digits of a number are written, so it is read back up to their count. -/
theorem readHex?_hexDigits (n count : Nat) : readHex? (hexDigits n count) = some (n % 16 ^ count) := by
  induction count generalizing n with
  | zero => simp [hexDigits, readHex?, Nat.mod_one]
  | succ count ih =>
      have hd := hexValue?_hexDigit (n % 16) (Nat.mod_lt _ (by decide))
      have hm : n % 16 ^ (count + 1) = n % 16 + 16 * (n / 16 % 16 ^ count) := by
        rw [Nat.pow_succ', Nat.mod_mul]
      unfold readHex? at ih ⊢
      rw [hexDigits, List.foldl_append, ih]
      simp only [List.foldl_cons, List.foldl_nil, hd, hm, pure, bind, Option.bind]
      congr 1
      omega

/-- The digits that are written, none of them in upper case. -/
def lowerDigits : List Char :=
  ['0', '1', '2', '3', '4', '5', '6', '7', '8', '9', 'a', 'b', 'c', 'd', 'e', 'f']

theorem mem_lowerDigits {c : Char} : c ∈ lowerDigits ↔ ∃ n < 16, c = hexDigit n := by
  have hdigits : lowerDigits = (List.range 16).map hexDigit := by decide
  rw [hdigits, List.mem_map]
  constructor
  · rintro ⟨n, hn, rfl⟩
    exact ⟨n, List.mem_range.1 hn, rfl⟩
  · rintro ⟨n, hn, rfl⟩
    exact ⟨n, List.mem_range.2 hn, rfl⟩

theorem readHex?_concat (ds : List Char) (c : Char) :
    readHex? (ds ++ [c]) = do return (← readHex? ds) * 16 + (← hexValue? c) := by
  unfold readHex?
  rw [List.foldl_append]
  rfl

/-- In lower case, a number is written in one way with so many digits. -/
theorem eq_hexDigits {ds : List Char} {n : Nat} (hlower : ∀ c ∈ ds, c ∈ lowerDigits)
    (h : readHex? ds = some n) : ds = hexDigits n ds.length := by
  induction ds using List.reverseRecOn generalizing n with
  | nil => rfl
  | append_singleton ds c ih =>
      obtain ⟨d, hd, rfl⟩ := mem_lowerDigits.1 (hlower c (by simp))
      rw [readHex?_concat, hexValue?_hexDigit d hd] at h
      cases hfront : readHex? ds with
      | none =>
          rw [hfront] at h
          cases h
      | some m =>
          rw [hfront] at h
          have hn : m * 16 + d = n := Option.some.inj h
          have hquotient : n / 16 = m := by omega
          have hremainder : n % 16 = d := by omega
          rw [List.length_append, List.length_singleton, hexDigits, hquotient, hremainder,
            ← ih (fun c hc => hlower c (List.mem_append_left _ hc)) hfront]

end Strongbox.Text
