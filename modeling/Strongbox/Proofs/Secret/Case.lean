import Mathlib.Logic.Basic
import Strongbox.Proofs.Text.Case
import Strongbox.Secret
/-! Sameness of tokens and of token pairs. It is sameness of what a hasher is fed, and it is blind to
case as far as lower case is: a value with a stray is told from itself in upper case. -/
namespace Strongbox

theorem TokenType.code_injective : Function.Injective TokenType.code := by
  intro s t h
  cases s <;> cases t <;> first | rfl | cases h

namespace Token

theorem same_iff {a b : Token} : a.same b = true ↔ a.type = b.type ∧ a.folded = b.folded := by
  simp [same]

theorem hashMarks_eq_iff {a b : Token} : a.hashMarks = b.hashMarks ↔ a.same b = true := by
  have hmarks : Function.Injective (List.map HashMark.char) :=
    List.map_injective_iff.2 fun c d h => by cases h; rfl
  simp only [hashMarks, same_iff, List.cons.injEq, HashMark.byte.injEq, hmarks.eq_iff,
    TokenType.code_injective.eq_iff]

theorem same_equivalence : Equivalence fun a b : Token => a.same b = true where
  refl _ := hashMarks_eq_iff.1 rfl
  symm h := hashMarks_eq_iff.1 (hashMarks_eq_iff.2 h).symm
  trans h h' := hashMarks_eq_iff.1 ((hashMarks_eq_iff.2 h).trans (hashMarks_eq_iff.2 h'))

/-- Of two tokens of one type, one has each character of the other's value in some case. -/
structure Recased (a b : Token) : Prop where
  type : b.type = a.type
  value : Text.CaseVariant a.value.toList b.value.toList

theorem Recased.refl (a : Token) : a.Recased a := ⟨rfl, .refl _⟩

theorem Recased.same {a b : Token} (h : a.Recased b) (hv : ∀ c ∈ a.value.toList, Text.isStray c = false) :
    a.same b = true :=
  same_iff.2 ⟨h.type.symm, (h.value.lowerChars hv).symm⟩

theorem exists_recased_of_stray {a : Token} {c : Char} (hc : c ∈ a.value.toList)
    (hstray : Text.isStray c = true) : ∃ b, a.Recased b ∧ b.target = a.target ∧ a.same b = false := by
  obtain ⟨w, hvariant, hseen, hfold⟩ := Text.exists_variant_of_stray hc hstray
  let b : Token := ⟨a.type, String.ofList w, a.target, by rw [Text.isBlank, String.toList_ofList, hseen]⟩
  have hlist : b.value.toList = w := String.toList_ofList
  refine ⟨b, ⟨rfl, hlist.symm ▸ hvariant⟩, rfl, ?_⟩
  rw [← Bool.not_eq_true, same_iff]
  rintro ⟨-, hsame⟩
  rw [folded, folded, hlist] at hsame
  exact hfold hsame.symm

end Token

namespace TokenPair

theorem same_iff {p q : TokenPair} :
    p.same q = true ↔ p.access.same q.access = true ∧ p.refresh.same q.refresh = true := by
  simp [same]

theorem hashMarks_of_same {p q : TokenPair} (h : p.same q = true) : p.hashMarks = q.hashMarks := by
  obtain ⟨haccess, hrefresh⟩ := same_iff.1 h
  rw [hashMarks, hashMarks, Token.hashMarks_eq_iff.2 haccess, Token.hashMarks_eq_iff.2 hrefresh]

theorem same_equivalence : Equivalence fun p q : TokenPair => p.same q = true where
  refl _ := same_iff.2 ⟨Token.same_equivalence.refl _, Token.same_equivalence.refl _⟩
  symm h := same_iff.2 ((same_iff.1 h).imp Token.same_equivalence.symm Token.same_equivalence.symm)
  trans h h' := same_iff.2 ⟨Token.same_equivalence.trans (same_iff.1 h).1 (same_iff.1 h').1,
    Token.same_equivalence.trans (same_iff.1 h).2 (same_iff.1 h').2⟩

structure Recased (p q : TokenPair) : Prop where
  access : p.access.Recased q.access
  refresh : p.refresh.Recased q.refresh

theorem Recased.same {p q : TokenPair} (h : p.Recased q)
    (hv : ∀ c ∈ p.access.value.toList ++ p.refresh.value.toList, Text.isStray c = false) :
    p.same q = true := by
  obtain ⟨haccess, hrefresh⟩ := List.forall_mem_append.1 hv
  exact same_iff.2 ⟨h.access.same haccess, h.refresh.same hrefresh⟩

theorem exists_recased_of_stray {p : TokenPair} {c : Char}
    (hc : c ∈ p.access.value.toList ++ p.refresh.value.toList) (hstray : Text.isStray c = true) :
    ∃ q, p.Recased q ∧ p.same q = false := by
  rcases List.mem_append.1 hc with hc | hc
  · obtain ⟨b, hb, htarget, hother⟩ := Token.exists_recased_of_stray hc hstray
    let q : TokenPair := { p with
      access := b
      access_type := hb.type.trans p.access_type
      access_target := htarget.trans p.access_target }
    refine ⟨q, ⟨hb, .refl _⟩, ?_⟩
    simp [q, same, hother]
  · obtain ⟨b, hb, htarget, hother⟩ := Token.exists_recased_of_stray hc hstray
    let q : TokenPair := { p with
      refresh := b
      refresh_type := hb.type.trans p.refresh_type
      refresh_target := htarget.trans p.refresh_target }
    refine ⟨q, ⟨.refl _, hb⟩, ?_⟩
    simp [q, same, hother]

end TokenPair

/-- Sameness is an equivalence, agrees with what is hashed and keeps the types apart. It takes a value
for all its variants in case just if no character of it is a stray. -/
theorem Token.caseless_iff (a : Token) (p : TokenPair) :
    ((∀ b, a.Recased b → a.same b = true ∧ a.hashMarks = b.hashMarks) ↔
      ∀ c ∈ a.value.toList, Text.isStray c = false) ∧
    ((∀ q, p.Recased q → p.same q = true ∧ p.hashMarks = q.hashMarks) ↔
      ∀ c ∈ p.access.value.toList ++ p.refresh.value.toList, Text.isStray c = false) ∧
    (Equivalence fun a b : Token => a.same b = true) ∧
    (Equivalence fun p q : TokenPair => p.same q = true) ∧
    (∀ b, a.hashMarks = b.hashMarks ↔ a.same b = true) ∧
    ∀ b, a.same b = true → a.type = b.type := by
  refine ⟨⟨fun h c hc => ?_, fun hv b hb => ?_⟩, ⟨fun h c hc => ?_, fun hv q hq => ?_⟩,
    Token.same_equivalence, TokenPair.same_equivalence, fun _ => Token.hashMarks_eq_iff,
    fun _ h => (Token.same_iff.1 h).1⟩
  · by_contra hstray
    obtain ⟨b, hb, -, hother⟩ := Token.exists_recased_of_stray hc (by simpa using hstray)
    rw [(h b hb).1] at hother
    cases hother
  · exact ⟨hb.same hv, Token.hashMarks_eq_iff.2 (hb.same hv)⟩
  · by_contra hstray
    obtain ⟨q, hq, hother⟩ := TokenPair.exists_recased_of_stray hc (by simpa using hstray)
    rw [(h q hq).1] at hother
    cases hother
  · exact ⟨hq.same hv, TokenPair.hashMarks_of_same (hq.same hv)⟩

/-- One letter of a value is in lower case. -/
theorem Token.caseless_letters : Token.same ⟨.access, "É1", Uuid.nil, by decide⟩
    ⟨.access, "é1", Uuid.nil, by decide⟩ = true := by
  have hvariant : Text.CaseVariant "É1".toList "é1".toList := by
    have hchars : "É1".toList = ['É', '1'] ∧ "é1".toList = ['é'] ++ ['1'] := by decide
    rw [hchars.1, hchars.2]
    exact .char (.inr (.inr (by decide))) (.refl ['1'])
  have hplain : ("É1".toList.all fun c => !Text.isStray c) = true := by decide
  have hv : ∀ c ∈ "É1".toList, Text.isStray c = false :=
    fun c hc => by simpa using List.all_eq_true.1 hplain c hc
  let renewed : TokenPair := ⟨⟨.access, "É1", Uuid.nil, by decide⟩,
    ⟨.refresh, "É2", Uuid.nil, by decide⟩, [], rfl, rfl, rfl, rfl⟩
  exact ((caseless_iff renewed.access renewed).1.2 hv
    ⟨.access, "é1", Uuid.nil, by decide⟩ ⟨rfl, hvariant⟩).1

/-- The sigma at the end of a word is another letter in lower case than the sigma it is in upper case. -/
theorem Token.not_caseless : ¬ ∀ a b : Token, a.Recased b →
    a.same b = true ∧ a.hashMarks = b.hashMarks := by
  intro h
  have hvariant : Text.CaseVariant "ς".toList "Σ".toList := by
    have hchars : "ς".toList = ['ς'] ∧ "Σ".toList = ['Σ'] ++ [] := by decide
    rw [hchars.1, hchars.2]
    exact .char (.inr (.inl (by decide))) .nothing
  have hsame := (h ⟨.access, "ς", Uuid.nil, by decide⟩ ⟨.access, "Σ", Uuid.nil, by decide⟩
    ⟨rfl, hvariant⟩).1
  have hother : Token.same ⟨.access, "ς", Uuid.nil, by decide⟩ ⟨.access, "Σ", Uuid.nil, by decide⟩ =
      false := by decide +kernel
  rw [hsame] at hother
  cases hother

end Strongbox
