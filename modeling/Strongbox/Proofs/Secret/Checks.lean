import Strongbox.Proofs.Checks
import Strongbox.Secret
/-! The checks by which tokens are made and secrets are validated: what passes them, and that they refuse
the rest as input. -/
namespace Strongbox

/-- Whatever is wrong breaks a rule. -/
def RefusesInput {α : Type} (x : Except SecretError α) : Prop :=
  ∀ e, x = .error e → ∃ reason, e = .validation reason

namespace RefusesInput

variable {α β : Type}

theorem ok (a : α) : RefusesInput (.ok a) := by
  intro e h
  cases h

theorem broken (reason : String) : RefusesInput (.error (.validation reason) : Except SecretError α) := by
  intro e h
  cases h
  exact ⟨reason, rfl⟩

theorem ite {p : Prop} [Decidable p] {x y : Except SecretError α} (hx : RefusesInput x)
    (hy : RefusesInput y) : RefusesInput (if p then x else y) := by
  split
  · exact hx
  · exact hy

theorem bind {x : Except SecretError α} {f : α → Except SecretError β} (hx : RefusesInput x)
    (hf : ∀ a, RefusesInput (f a)) : RefusesInput (x >>= f) := by
  intro e h
  rcases bind_eq_error h with h | ⟨a, -, h⟩
  · exact hx e h
  · exact hf a e h

end RefusesInput

namespace Credential

theorem validate_refuses (c : Credential) : RefusesInput c.validate := by
  unfold validate
  exact .ite (.broken _) (.ite (.broken _) (.ok ()))

theorem validate_eq_ok {c : Credential} {u : Unit} : c.validate = .ok u ↔
    c.username.length ≤ usernameLimit ∧ c.password.length ≤ passwordLimit := by
  rw [validate, unless_eq_ok, unless_eq_ok, Nat.not_lt, Nat.not_lt]
  constructor
  · rintro ⟨hpassword, husername, -⟩
    exact ⟨husername, hpassword⟩
  · rintro ⟨husername, hpassword⟩
    exact ⟨hpassword, husername, rfl⟩

end Credential

namespace Token

theorem validate_refuses (t : Token) : RefusesInput t.validate := by
  unfold validate
  exact .ite (.broken _) (.ite (.broken _) (.ok ()))

/-- The value is not blank, or there would be no token. -/
theorem validate_eq (t : Token) : t.validate = if passwordLimit < t.value.length then
    .error (.validation s!"the token value cannot be longer than {passwordLimit} characters")
  else .ok () :=
  if_neg (by simp [t.value_not_blank])

theorem validate_eq_ok {t : Token} {u : Unit} : t.validate = .ok u ↔ t.value.length ≤ passwordLimit := by
  rw [validate_eq, unless_eq_ok, Nat.not_lt]
  exact ⟨And.left, fun h => ⟨h, rfl⟩⟩

theorem make_eq_error {value : String} {type : TokenType} {target : Uuid} {e : SecretError}
    (h : make value type target = .error e) : e = .validation "the token value is empty" := by
  unfold make at h
  split at h
  · cases h
  · cases h
    rfl

theorem make_refuses (value : String) (type : TokenType) (target : Uuid) :
    RefusesInput (make value type target) :=
  fun _ h => ⟨_, make_eq_error h⟩

theorem make_eq_ok {value : String} {type : TokenType} {target : Uuid} {t : Token} :
    make value type target = .ok t ↔ t.type = type ∧ t.value = value ∧ t.target = target := by
  unfold make
  constructor
  · intro h
    split at h
    · cases h
      exact ⟨rfl, rfl, rfl⟩
    · cases h
  · rintro ⟨rfl, rfl, rfl⟩
    exact dif_pos t.value_not_blank

end Token

namespace TokenPair

theorem validate_refuses (p : TokenPair) : RefusesInput p.validate := by
  unfold validate
  exact .bind p.access.validate_refuses fun _ => p.refresh.validate_refuses

theorem validate_eq_ok {p : TokenPair} {u : Unit} : p.validate = .ok u ↔
    p.access.value.length ≤ passwordLimit ∧ p.refresh.value.length ≤ passwordLimit := by
  simp only [validate, bind_eq_ok, Token.validate_eq_ok]
  constructor
  · rintro ⟨-, ha, hr⟩
    exact ⟨ha, hr⟩
  · rintro ⟨ha, hr⟩
    exact ⟨(), ha, hr⟩

/-- Whether the first token is blank decides which of them is blamed. -/
theorem make_eq_error {access refresh : String} {e : SecretError}
    (h : make access refresh = .error e) : e = .validation (if Text.isBlank access = true then
      "the access token is empty" else "the refresh token is empty") := by
  unfold make at h
  split at h
  · rename_i haccess
    split at h
    · cases h
    · cases h
      rw [if_neg (by simp [haccess])]
  · rename_i haccess
    cases h
    rw [if_pos (by simpa using haccess)]

theorem make_refuses (access refresh : String) : RefusesInput (make access refresh) :=
  fun _ h => ⟨_, make_eq_error h⟩

theorem make_eq_ok {access refresh : String} {p : TokenPair} : make access refresh = .ok p ↔
    p.access.value = access ∧ p.refresh.value = refresh ∧ p.parameters = [] := by
  constructor
  · intro h
    unfold make at h
    split at h
    · split at h
      · cases h
        exact ⟨rfl, rfl, rfl⟩
      · cases h
    · cases h
  · obtain ⟨⟨accessType, access', accessTarget, ha⟩, ⟨refreshType, refresh', refreshTarget, hr⟩, _,
      htypeA, htypeR, htargetA, htargetR⟩ := p
    rintro ⟨rfl, rfl, rfl⟩
    cases htypeA
    cases htypeR
    cases htargetA
    cases htargetR
    simp only [make, ha, hr, dite_true]
    rfl

theorem exists_make {access refresh : String} (ha : Text.isBlank access = false)
    (hr : Text.isBlank refresh = false) : ∃ p, make access refresh = .ok p := by
  unfold make
  rw [dif_pos ha, dif_pos hr]
  exact ⟨_, rfl⟩

end TokenPair
end Strongbox
