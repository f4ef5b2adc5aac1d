import Strongbox.Proofs.Secret.Acceptance
/-! Secrets as plain data, of which nothing is promised, and the rules that the data must keep to be a
secret. Reading and making hold their material against these rules and against nothing else; lengths are
left to `validate`, which has nothing else to look at. -/
namespace Strongbox

open Xml

structure PlainToken where
  type : TokenType
  value : String
  target : Uuid
  deriving DecidableEq, Repr

namespace PlainToken

def HasValue (t : PlainToken) : Prop := Text.isBlank t.value = false

/-- One of the two tokens of a grant, issued for nobody in particular. -/
structure Granted (type : TokenType) (t : PlainToken) : Prop where
  type : t.type = type
  value : t.HasValue
  target : t.target = Uuid.nil

end PlainToken

/-- What a secret is made of. -/
inductive PlainSecret where
  | credential (username password : String)
  | token (t : PlainToken)
  | tokenPair (access refresh : PlainToken) (parameters : List (String × String))
  deriving DecidableEq, Repr

namespace PlainSecret

/-- The rules for tokens. Of a credential nothing is asked. -/
def Sound : PlainSecret → Prop
  | credential _ _ => True
  | token t => t.HasValue
  | tokenPair access refresh _ => access.Granted .access ∧ refresh.Granted .refresh

def TooLong : PlainSecret → Prop
  | credential username password => 2047 < password.length ∨ 511 < username.length
  | token t => 2047 < t.value.length
  | tokenPair access refresh _ => 2047 < access.value.length ∨ 2047 < refresh.value.length

def within (limit : Nat) (reason text : String) : Except SecretError Unit :=
  if limit < text.length then .error (.validation reason) else .ok ()

/-- The checks of lengths, in their order. -/
def lengths : PlainSecret → Except SecretError Unit
  | credential username password => do
    within 2047 "the password cannot be longer than 2047 characters" password
    within 511 "the username cannot be longer than 511 characters" username
  | token t => within 2047 "the token value cannot be longer than 2047 characters" t.value
  | tokenPair access refresh _ => do
    within 2047 "the token value cannot be longer than 2047 characters" access.value
    within 2047 "the token value cannot be longer than 2047 characters" refresh.value

/-- Only a pair carries parameters. -/
def withParameters (parameters : List (String × String)) : PlainSecret → Option PlainSecret
  | tokenPair access refresh _ => some (tokenPair access refresh parameters)
  | credential _ _ | token _ => none

def granted (access refresh : String) : PlainSecret :=
  tokenPair ⟨.access, access, Uuid.nil⟩ ⟨.refresh, refresh, Uuid.nil⟩ []

theorem within_eq_error {limit : Nat} {reason text : String} {e : SecretError}
    (h : within limit reason text = .error e) : e = .validation reason := by
  unfold within at h
  split at h
  · cases h
    rfl
  · cases h

/-- Whatever is wrong, a text is too long. -/
theorem lengths_eq_error {material : PlainSecret} {e : SecretError} (h : material.lengths = .error e) :
    e ∈ [.validation "the password cannot be longer than 2047 characters",
      .validation "the username cannot be longer than 511 characters",
      .validation "the token value cannot be longer than 2047 characters"] := by
  cases material with
  | credential username password =>
      rcases bind_eq_error h with h | ⟨-, -, h⟩
      · rw [within_eq_error h]
        simp
      · rw [within_eq_error h]
        simp
  | token t =>
      rw [within_eq_error h]
      simp
  | tokenPair access refresh parameters =>
      rcases bind_eq_error h with h | ⟨-, -, h⟩
      · rw [within_eq_error h]
        simp
      · rw [within_eq_error h]
        simp

/-- The first texts of an element under the names of a kind, if it has all that the kind needs. -/
def ofElement? (e : Element) : SecretKind → Option PlainSecret
  | .credential => do
    let password ← e.childText? "Password"
    let username ← e.childText? "Username"
    return credential username password
  | .token => do
    let symbol ← e.childText? "Type"
    let type ← TokenType.ofSymbol? symbol
    let value ← e.childText? "Value"
    let target ← (Token.targetOfText (e.childText? "targetIdentity")).toOption
    return token ⟨type, value, target⟩
  | .tokenPair => do
    let access ← e.childText? "accessToken"
    let refresh ← e.childText? "refreshToken"
    return granted access refresh

/-- What a text holds that is read as a secret of a kind. -/
def ofDocument? (kind : SecretKind) (text : String) : Option PlainSecret := do
  let e ← (Element.parse text).toOption
  ofElement? e kind

end PlainSecret

theorem Xml.Element.toOption_requiredChild (e : Element) (name : String) :
    (e.requiredChild name).toOption = e.childText? name := by
  unfold requiredChild
  cases e.childText? name <;> rfl

theorem TokenType.toOption_parse (symbol : String) : (parse symbol).toOption = ofSymbol? symbol := by
  unfold parse
  cases ofSymbol? symbol <;> rfl

def Token.plain (t : Token) : PlainToken := ⟨t.type, t.value, t.target⟩

namespace Secret

def plain : Secret → PlainSecret
  | credential c => .credential c.username c.password
  | token t => .token t.plain
  | tokenPair p => .tokenPair p.access.plain p.refresh.plain p.parameters

def withParameters (parameters : List (String × String)) : Secret → Option Secret
  | tokenPair p => some (tokenPair (p.withParameters parameters))
  | credential _ | token _ => none

theorem validate_eq_lengths (s : Secret) : s.validate = s.plain.lengths := by
  cases s with
  | credential c =>
      change c.validate = _
      by_cases hlong : passwordLimit < c.password.length
      · have hwithin : 2047 < c.password.length := hlong
        rw [Credential.validate, if_pos hlong, plain, PlainSecret.lengths, PlainSecret.within,
          if_pos hwithin]
        rfl
      · have hwithin : ¬ 2047 < c.password.length := hlong
        rw [Credential.validate, if_neg hlong, plain, PlainSecret.lengths, PlainSecret.within,
          if_neg hwithin]
        rfl
  | token t => exact t.validate_eq
  | tokenPair p =>
      change p.validate = _
      rw [TokenPair.validate, p.access.validate_eq, p.refresh.validate_eq]
      rfl

theorem sound_plain (s : Secret) : s.plain.Sound := by
  cases s with
  | credential c => trivial
  | token t => exact t.value_not_blank
  | tokenPair p =>
      exact ⟨⟨p.access_type, p.access.value_not_blank, p.access_target⟩,
        ⟨p.refresh_type, p.refresh.value_not_blank, p.refresh_target⟩⟩

/-- Validating finds nothing but what is too long. -/
theorem validate_eq_ok (s : Secret) : s.validate = .ok () ↔ ¬ s.plain.TooLong := by
  cases s with
  | credential c =>
      simp only [validate, plain, PlainSecret.TooLong, Credential.validate_eq_ok, usernameLimit,
        passwordLimit]
      omega
  | token t =>
      simp only [validate, plain, Token.plain, PlainSecret.TooLong, Token.validate_eq_ok, passwordLimit]
      omega
  | tokenPair p =>
      simp only [validate, plain, Token.plain, PlainSecret.TooLong, TokenPair.validate_eq_ok, passwordLimit]
      omega

theorem validate_eq_error (s : Secret) : (∃ e, s.validate = .error e) ↔ s.plain.TooLong := by
  rw [← not_iff_not, ← s.validate_eq_ok]
  cases s.validate <;> simp

/-- The parameters of a pair are not validated. -/
theorem validate_persisted (s : Secret) : s.persisted.validate = s.validate := by
  cases s <;> rfl

end Secret

namespace PlainSecret

/-- Material that keeps the rules has become a secret as it was, and any other has become none. -/
inductive Checked : Option Secret → Option PlainSecret → Prop
  | made (s : Secret) (hsound : s.plain.Sound) : Checked (some s) (some s.plain)
  | refused {material : PlainSecret} (hunsound : ¬ material.Sound) : Checked none (some material)
  | absent : Checked none none

namespace Checked

variable {secret? : Option Secret} {material? : Option PlainSecret}

theorem sound {s : Secret} (h : Checked (some s) material?) : s.plain.Sound := by
  cases h with
  | made _ hsound => exact hsound

theorem eq_none {material : PlainSecret} (h : Checked secret? (some material))
    (hunsound : ¬ material.Sound) : secret? = none := by
  cases h with
  | made _ hsound => exact absurd hsound hunsound
  | refused _ => rfl

theorem of_make (value : String) (type : TokenType) (target : Uuid) :
    Checked ((Token.make value type target).toOption.map .token)
      (some (.token ⟨type, value, target⟩)) := by
  unfold Token.make
  split
  · exact .made (.token _) (Secret.sound_plain _)
  · rename_i hblank
    exact .refused hblank

theorem of_makePair (access refresh : String) :
    Checked ((TokenPair.make access refresh).toOption.map .tokenPair) (some (granted access refresh)) := by
  unfold TokenPair.make
  split
  · split
    · exact .made (.tokenPair _) (Secret.sound_plain _)
    · rename_i hblank
      exact .refused fun hsound => hblank hsound.2.value
  · rename_i hblank
    exact .refused fun hsound => hblank hsound.1.value

/-- What both depend on is looked up once. -/
theorem bind {α : Type} (found : Option α) {f : α → Option Secret} {g : α → Option PlainSecret}
    (h : ∀ a, Checked (f a) (g a)) : Checked (found.bind f) (found.bind g) := by
  cases found with
  | none => exact .absent
  | some a => exact h a

theorem of_element (e : Element) (kind : SecretKind) :
    Checked (Secret.ofElement kind e).toOption (ofElement? e kind) := by
  cases kind with
  | credential =>
      simp only [Secret.ofElement, Credential.ofElement, toOption_map, toOption_bind,
        Element.toOption_requiredChild, Option.map_bind, Function.comp_def]
      refine bind _ fun password => bind _ fun username => ?_
      exact .made (.credential ⟨username, password⟩) trivial
  | token =>
      simp only [Secret.ofElement, Token.ofElement, toOption_map, toOption_bind, toOption_mapError,
        Element.toOption_requiredChild, TokenType.toOption_parse, Option.map_bind, Function.comp_def]
      refine bind _ fun symbol => bind _ fun type => bind _ fun value => bind _ fun target => ?_
      exact of_make value type target
  | tokenPair =>
      simp only [Secret.ofElement, TokenPair.ofElement, toOption_map, toOption_bind, toOption_mapError,
        Element.toOption_requiredChild, Option.map_bind, Function.comp_def]
      exact bind _ fun access => bind _ fun refresh => of_makePair access refresh

theorem of_document (kind : SecretKind) (text : String) :
    Checked (Secret.decode kind text).toOption (ofDocument? kind text) := by
  rw [Secret.decode_eq, toOption_bind]
  exact bind _ fun e => of_element e kind

/-- Parameters break no rule and mend none. -/
theorem withParameters (h : Checked secret? material?) (parameters : List (String × String)) :
    Checked (secret?.bind (Secret.withParameters parameters))
      (material?.bind (PlainSecret.withParameters parameters)) := by
  cases h with
  | absent => exact .absent
  | made s hsound =>
      cases s with
      | credential | token => exact .absent
      | tokenPair p => exact .made (.tokenPair (p.withParameters parameters)) hsound
  | @refused material hunsound =>
      cases material with
      | credential | token => exact .absent
      | tokenPair => exact .refused hunsound

end Checked
end PlainSecret
end Strongbox
