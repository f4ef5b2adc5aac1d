import Mathlib.Data.List.SplitLengths
import Strongbox.Proofs.Text.Digits
import Strongbox.Proofs.Text.Blank
import Strongbox.Uuid
/-! The text of an identity is one of its literals: it reads back as the same 128 bits. It is the only one
that spells the identity in lower case, with its groups between hyphens. -/
namespace Strongbox.Uuid

open Text

theorem dropHyphens?_hyphenate {ns : List Nat} {ds : List Char} (hns : ns ≠ [])
    (hlen : ds.length = ns.sum) : dropHyphens? ns (hyphenate ns ds) = some ds := by
  induction ns generalizing ds with
  | nil => exact absurd rfl hns
  | cons n ns ih =>
      cases ns with
      | nil =>
          have hn : ds.length = n := by simpa using hlen
          simp [dropHyphens?, hyphenate, hn, List.take_of_length_le (Nat.le_of_eq hn)]
      | cons m ns =>
          have hn : (ds.take n).length = n := by
            simp only [List.sum_cons] at hlen
            rw [List.length_take]
            omega
          have hrest : dropHyphens? (m :: ns) (hyphenate (m :: ns) (ds.drop n)) =
              some (ds.drop n) := by
            refine ih (by simp) ?_
            rw [List.sum_cons] at hlen
            rw [List.length_drop]
            omega
          rw [dropHyphens?, hyphenate, List.drop_left' hn, List.take_left' hn]
          · simp only [hn, if_true, hrest]
            exact congrArg some (List.take_append_drop n ds)
          · simp
          · simp

theorem length_hyphenate {ns : List Nat} {ds : List Char} (hns : ns ≠ [])
    (hlen : ds.length = ns.sum) : (hyphenate ns ds).length + 1 = ds.length + ns.length := by
  induction ns generalizing ds with
  | nil => exact absurd rfl hns
  | cons n ns ih =>
      cases ns with
      | nil =>
          have hn : ds.length = n := by simpa using hlen
          simp [hyphenate, hn]
      | cons m ns =>
          rw [List.sum_cons] at hlen
          have hdrop : (ds.drop n).length = (m :: ns).sum := by
            rw [List.length_drop, hlen, Nat.add_sub_cancel_left]
          have hrest := ih (by simp) hdrop
          rw [hyphenate] <;> simp only [List.length_append, List.length_take, List.length_cons,
            List.length_drop] at hrest ⊢
          · omega
          · simp

theorem mem_hyphenate {c : Char} {ns : List Nat} {ds : List Char} (h : c ∈ hyphenate ns ds) :
    c = '-' ∨ c ∈ ds := by
  fun_induction hyphenate ns ds with
  | case1 => cases h
  | case2 n ds => exact .inr (List.mem_of_mem_take h)
  | case3 ds n ns _ ih =>
      rcases List.mem_append.1 h with front | back
      · exact .inr (List.mem_of_mem_take front)
      · rcases List.mem_cons.1 back with rfl | later
        · exact .inl rfl
        · exact (ih later).imp_right List.mem_of_mem_drop

theorem isSpace_hexDigit : ∀ n < 16, isSpace (hexDigit n) = false := by decide

theorem isSpace_of_mem_chars {u : Uuid} {c : Char} (h : c ∈ u.chars) : isSpace c = false := by
  rcases mem_hyphenate h with rfl | hc
  · decide
  · obtain ⟨d, hd, rfl⟩ := mem_hexDigits hc
    exact isSpace_hexDigit d hd

theorem readHex?_bits (u : Uuid) :
    readHex? (hexDigits u.bits.toNat 32) = some u.bits.toNat := by
  have hbits : u.bits.toNat < 16 ^ 32 := u.bits.isLt
  rw [readHex?_hexDigits, Nat.mod_eq_of_lt hbits]

theorem parseChars_chars (u : Uuid) : parseChars u.chars = .ok u := by
  have hlen : (hexDigits u.bits.toNat 32).length = groupLengths.sum := length_hexDigits _ _
  have hdigits : digits? u.chars = some (hexDigits u.bits.toNat 32) := by
    have hsize := length_hyphenate (by simp [groupLengths]) hlen
    have h36 : u.chars.length = 36 := by
      rw [length_hexDigits] at hsize
      exact Nat.succ.inj hsize
    rw [digits?, if_neg (by omega), if_pos h36]
    exact dropHyphens?_hyphenate (by simp [groupLengths]) hlen
  simp [parseChars, hdigits, readHex?_bits]

/-- White space around the text makes no difference, and it has none itself. -/
theorem parse_trim_toText (u : Uuid) : parse (Text.trim u.toText) = .ok u := by
  have htrim : Text.trim u.toText = u.toText :=
    Text.trim_of_no_space fun c hc => isSpace_of_mem_chars (by simpa [toText] using hc)
  rw [htrim, parse, toText, String.toList_ofList, parseChars_chars]

/-! ### The one text of an identity -/

/-- Groups of lower-case digits with hyphens between them, which make the number of the bits. -/
def Spells (u : Uuid) (text : String) : Prop :=
  ∃ groups : List (List Char), groups.map List.length = groupLengths ∧
    (∀ c ∈ groups.flatten, c ∈ lowerDigits) ∧ readHex? groups.flatten = some u.bits.toNat ∧
      text = String.ofList (['-'].intercalate groups)

theorem hyphenate_flatten (groups : List (List Char)) :
    hyphenate (groups.map List.length) groups.flatten = ['-'].intercalate groups := by
  induction groups with
  | nil => rfl
  | cons g groups ih =>
      cases groups with
      | nil => simp [hyphenate, List.intercalate]
      | cons g' groups =>
          rw [List.map_cons, List.flatten_cons, List.map_cons, hyphenate, List.take_left,
            List.drop_left, ← List.map_cons, ih, List.intercalate_cons_cons]
          · simp
          · simp

theorem spells_iff {u : Uuid} {text : String} : u.Spells text ↔ text = u.toText := by
  constructor
  · rintro ⟨groups, hlengths, hlower, hread, rfl⟩
    have hcount : groups.flatten.length = 32 := by
      rw [List.length_flatten, hlengths]
      rfl
    have hdigits := eq_hexDigits hlower hread
    rw [hcount] at hdigits
    rw [toText, chars, ← hdigits, ← hlengths, hyphenate_flatten]
  · rintro rfl
    have hcount : (hexDigits u.bits.toNat 32).length = groupLengths.sum := length_hexDigits _ _
    have hlengths := List.map_splitLengths_length _ _ (Nat.le_of_eq hcount.symm)
    have hflatten := List.flatten_splitLengths _ _ (Nat.le_of_eq hcount)
    refine ⟨groupLengths.splitLengths (hexDigits u.bits.toNat 32), hlengths, ?_, ?_, ?_⟩
    · intro c hc
      rw [hflatten] at hc
      exact mem_lowerDigits.2 (mem_hexDigits hc)
    · rw [hflatten, readHex?_bits]
    · rw [← hyphenate_flatten, hlengths, hflatten]
      rfl

end Strongbox.Uuid
