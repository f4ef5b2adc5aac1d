import Strongbox.Proofs.Xml.Source
/-! References that are written as they should be stand for the character that they were written for. -/
namespace Strongbox.Xml

variable {base : Nat} {values : List Nat} {cs : List Char}

/-- Digits that are added make no number smaller. -/
theorem le_foldl_digits (hbase : 1 ≤ base) (values : List Nat) (acc : Nat) :
    acc ≤ values.foldl (fun n d => n * base + d) acc := by
  induction values generalizing acc with
  | nil => exact Nat.le_refl acc
  | cons d values ih =>
      have hmul : acc ≤ acc * base := Nat.le_mul_of_pos_right acc hbase
      have hlater := ih (acc * base + d)
      rw [List.foldl_cons]
      omega

/-- No number on the way to one of 32 bits is larger than it. -/
theorem readDigits_of_values (hbase : 1 ≤ base) (hvalues : cs.mapM (digitValue? base) = some values)
    (acc : Nat) (hsmall : values.foldl (fun n d => n * base + d) acc < 1 <<< 32) :
    readDigits base acc cs = .ok (values.foldl (fun n d => n * base + d) acc) := by
  induction cs generalizing values acc with
  | nil =>
      cases hvalues
      rfl
  | cons c cs ih =>
      rw [List.mapM_cons] at hvalues
      obtain ⟨d, hd, hrest⟩ := Option.bind_eq_some_iff.1 hvalues
      obtain ⟨later, hlater, heq⟩ := Option.bind_eq_some_iff.1 hrest
      cases heq
      have hnow : acc * base + d < 1 <<< 32 :=
        Nat.lt_of_le_of_lt (le_foldl_digits hbase later (acc * base + d)) hsmall
      simp only [readDigits, hd, if_pos hnow]
      exact ih hlater (acc * base + d) hsmall

theorem exists_digitValue (hvalues : cs.mapM (digitValue? base) = some values) :
    ∀ c ∈ cs, ∃ d, digitValue? base c = some d := by
  induction cs generalizing values with
  | nil => simp
  | cons c cs ih =>
      rw [List.mapM_cons] at hvalues
      obtain ⟨d, hd, hrest⟩ := Option.bind_eq_some_iff.1 hvalues
      obtain ⟨later, hlater, -⟩ := Option.bind_eq_some_iff.1 hrest
      exact List.forall_mem_cons.2 ⟨⟨d, hd⟩, ih hlater⟩

/-- A character that is no digit of any base is none of a number. -/
theorem not_mem_of_number? {c : Char} (hc : Text.hexValue? c = none) {n : Nat}
    (h : Source.number? base cs = some n) : c ∉ cs := by
  intro hmem
  obtain ⟨values, hvalues, -⟩ := Option.map_eq_some_iff.1 h
  obtain ⟨d, hd⟩ := exists_digitValue hvalues c hmem
  rw [digitValue?, hc] at hd
  cases hd

theorem readNumber_of_number? (hbase : 1 ≤ base) {n : Nat} (h : Source.number? base cs = some n)
    (hne : n ≠ 0) (hsmall : n < 1 <<< 32) : readNumber base cs = .ok n := by
  have hplus := not_mem_of_number? (c := '+') (by decide) h
  have hminus := not_mem_of_number? (c := '-') (by decide) h
  obtain ⟨values, hvalues, rfl⟩ := Option.map_eq_some_iff.1 h
  cases cs with
  | nil =>
      cases hvalues
      exact absurd rfl hne
  | cons c cs =>
      have hsign : ¬ (c = '+' ∨ c = '-') := by
        rintro (rfl | rfl)
        · exact hplus List.mem_cons_self
        · exact hminus List.mem_cons_self
      rw [readNumber, if_neg hsign]
      exact readDigits_of_values hbase hvalues 0 hsmall

theorem numbered_of_numberBody {body : List Char} {c : Char} (h : numberBody body = .ok c.toNat)
    (hne : c.toNat ≠ 0) : numbered body = .ok c := by
  have hvalid : c.toNat.isValidChar := c.valid
  rw [numbered, h]
  exact (if_neg hne).trans (dif_pos hvalid)

namespace Source

theorem Numeral.readNumber {base : Nat} (hbase : 1 ≤ base) (n : Numeral base) :
    readNumber base n.digits = .ok n.char.toNat := by
  have hsmall : n.char.toNat < 1 <<< 32 := n.char.val.toNat_lt
  exact readNumber_of_number? hbase n.denotes n.nonzero hsmall

namespace Reference

theorem isReferenceBody_body (r : Reference) : isReferenceBody r.body = true := by
  have hdigits : ∀ {base} (n : Numeral base), isReferenceBody n.digits = true := by
    intro base n
    simp only [isReferenceBody, List.all_eq_true, Bool.and_eq_true, bne_iff_ne]
    intro c hc
    refine ⟨⟨?_, ?_⟩, ?_⟩ <;>
      · rintro rfl
        exact not_mem_of_number? (by decide) n.denotes hc
  cases r with
  | decimal n => exact hdigits n
  | hexadecimal n => exact hdigits n
  | _ => decide

theorem resolve_body (r : Reference) : resolve r.body = .ok r.char := by
  cases r with
  | decimal n =>
      have hbody : numberBody n.digits = .ok n.char.toNat := by
        rw [numberBody]
        · exact n.readNumber (by decide)
        · intro cs hcs
          exact not_mem_of_number? (c := 'x') (by decide) n.denotes (hcs ▸ List.mem_cons_self)
      rw [body, resolve, numbered_of_numberBody hbody n.nonzero]
      rfl
  | hexadecimal n =>
      have hbody : numberBody ('x' :: n.digits) = .ok n.char.toNat := n.readNumber (by decide)
      rw [body, resolve, numbered_of_numberBody hbody n.nonzero]
      rfl
  | _ => rfl

theorem next_text (r : Reference) {opens : List (List Char)} (rest : List Char) :
    next opens (r.text ++ rest) = .delivered (.reference r.body) opens rest := by
  have htext : r.text ++ rest = '&' :: (r.body ++ ';' :: rest) := by simp [text]
  rw [htext, next_reference r.isReferenceBody_body]

end Reference
end Source
end Strongbox.Xml
