import Strongbox.Command.Run
import Strongbox.Proofs.Secret.Checks
import Strongbox.Proofs.SecretStore.Opened
/-! What is asked of a secret before it is stored. The checks read nothing but the proposal, so storing is
one check and one deposit. -/
namespace Strongbox

namespace Secret

def content : (s : Secret) → s.kind.Content
  | credential c => c
  | token t => t
  | tokenPair p => p

theorem secret_content (s : Secret) : s.kind.secret s.content = s := by
  cases s <;> rfl

end Secret

namespace Command

/-- Commands that set, get and delete. -/
def Action.IsOfSecrets : Action → Prop
  | .set _ _ => True
  | .get _ _ _ _ => True
  | .delete _ _ => True
  | _ => False

def given (label : String) : Option String → Except Failure String
  | none => .error noTerminal
  | some value => if value = "" then .error (.input (label ++ " must not be empty")) else .ok value

namespace Proposal

def kind : Proposal → SecretKind
  | credential _ _ => .credential
  | token _ _ _ => .token
  | tokenPair _ _ => .tokenPair

/-- The secret of a proposal, or the first reason to refuse it. -/
def check : Proposal → Except Failure Secret
  | credential username password => do
    let password ← given "Password" password
    (Credential.mk username password).validate.mapError Failure.ofSecret
    return .credential ⟨username, password⟩
  | token typeName value target => do
    let type ← (TokenType.ofFriendlyName typeName).mapError Failure.ofSecret
    let value ← given "Token" value
    let token ← (Token.make value type (target.getD Uuid.nil)).mapError Failure.ofSecret
    token.validate.mapError Failure.ofSecret
    return .token token
  | tokenPair access refresh => do
    let access ← given "Access token" access
    let refresh ← given "Refresh token" refresh
    let pair ← (TokenPair.make access refresh).mapError Failure.ofSecret
    pair.validate.mapError Failure.ofSecret
    return .tokenPair pair

/-- A value of a token or of a pair that may be stored. -/
structure FitValue (value : String) : Prop where
  nonempty : value ≠ ""
  visible : Text.isBlank value = false
  short : value.length ≤ passwordLimit

/-- What a user has to know about proposals. -/
def Acceptable : Proposal → Prop
  | credential username password => username.length ≤ usernameLimit ∧
      ∃ p, password = some p ∧ p ≠ "" ∧ p.length ≤ passwordLimit
  | token typeName value _ => (∃ type, TokenType.ofFriendlyName typeName = .ok type) ∧
      ∃ v, value = some v ∧ FitValue v
  | tokenPair access refresh => (∃ a, access = some a ∧ FitValue a) ∧
      ∃ r, refresh = some r ∧ FitValue r

end Proposal

/-! ### Checks -/

theorem given_eq_ok {label value : String} {v : Option String} :
    given label v = .ok value ↔ v = some value ∧ value ≠ "" := by
  unfold given
  cases v with
  | none => simp
  | some text =>
      by_cases hempty : text = ""
      · subst hempty
        simp
      · simp only [if_neg hempty, Except.ok.injEq, Option.some.injEq]
        constructor
        · rintro rfl
          exact ⟨rfl, hempty⟩
        · exact And.left

theorem given_eq_error {label : String} {v : Option String} {f : Failure}
    (h : given label v = .error f) : f.exitStatus = 1 := by
  unfold given at h
  cases v with
  | none =>
      cases h
      rfl
  | some text =>
      dsimp only at h
      split at h
      · cases h
        rfl
      · cases h

theorem exitStatus_of_refused {α : Type} {x : Except SecretError α} {f : Failure} (hx : RefusesInput x)
    (h : x.mapError Failure.ofSecret = .error f) : f.exitStatus = 1 := by
  cases x with
  | ok a => cases h
  | error e =>
      obtain ⟨reason, rfl⟩ := hx e rfl
      cases h
      rfl

theorem ofFriendlyName_refuses (name : String) : RefusesInput (TokenType.ofFriendlyName name) := by
  unfold TokenType.ofFriendlyName
  refine .ite (.broken _) ?_
  split
  · exact .ok _
  · exact .broken _

namespace Proposal

/-- A proposal is accepted just if it keeps the rules. -/
theorem acceptable_iff (p : Proposal) : p.Acceptable ↔ ∃ s, p.check = .ok s := by
  cases p with
  | credential username password =>
      simp only [Acceptable, check, bind_eq_ok, given_eq_ok, mapError_eq_ok, Credential.validate_eq_ok]
      constructor
      · rintro ⟨huser, p, rfl, hne, hshort⟩
        exact ⟨_, p, ⟨rfl, hne⟩, (), ⟨huser, hshort⟩, rfl⟩
      · rintro ⟨_, p, ⟨rfl, hne⟩, -, ⟨huser, hshort⟩, -⟩
        exact ⟨huser, p, rfl, hne, hshort⟩
  | token typeName value target =>
      simp only [Acceptable, check, bind_eq_ok, given_eq_ok, mapError_eq_ok, Token.validate_eq_ok, Token.make_eq_ok]
      constructor
      · rintro ⟨⟨type, htype⟩, v, rfl, hne, hvisible, hshort⟩
        exact ⟨_, type, htype, v, ⟨rfl, hne⟩, ⟨type, v, target.getD Uuid.nil, hvisible⟩,
          ⟨rfl, rfl, rfl⟩, (), hshort, rfl⟩
      · rintro ⟨_, type, htype, v, ⟨rfl, hne⟩, t, ⟨-, rfl, -⟩, -, hshort, -⟩
        exact ⟨⟨type, htype⟩, t.value, rfl, hne, t.value_not_blank, hshort⟩
  | tokenPair access refresh =>
      simp only [Acceptable, check, bind_eq_ok, given_eq_ok, mapError_eq_ok, TokenPair.validate_eq_ok]
      constructor
      · rintro ⟨⟨a, rfl, hne, hvisible, hshort⟩, r, rfl, hne', hvisible', hshort'⟩
        obtain ⟨p, hmake⟩ := TokenPair.exists_make hvisible hvisible'
        obtain ⟨ha, hr, -⟩ := TokenPair.make_eq_ok.1 hmake
        rw [← ha] at hshort
        rw [← hr] at hshort'
        exact ⟨_, a, ⟨rfl, hne⟩, r, ⟨rfl, hne'⟩, p, hmake, (), ⟨hshort, hshort'⟩, rfl⟩
      · rintro ⟨_, a, ⟨rfl, hne⟩, r, ⟨rfl, hne'⟩, p, hmake, -, ⟨hshort, hshort'⟩, -⟩
        obtain ⟨rfl, rfl, -⟩ := TokenPair.make_eq_ok.1 hmake
        exact ⟨⟨_, rfl, hne, p.access.value_not_blank, hshort⟩, _, rfl, hne',
          p.refresh.value_not_blank, hshort'⟩

/-- What a proposal comes to if it passes. A pair that is proposed has no parameters. -/
inductive Makes : Proposal → Secret → Prop
  | credential (username password : String) :
      Makes (.credential username (some password)) (.credential ⟨username, password⟩)
  | token {typeName : String} {target : Option Uuid} {t : Token}
      (htype : TokenType.ofFriendlyName typeName = .ok t.type) (htarget : t.target = target.getD Uuid.nil) :
      Makes (.token typeName (some t.value) target) (.token t)
  | tokenPair {p : TokenPair} (hbare : p.parameters = []) :
      Makes (.tokenPair (some p.access.value) (some p.refresh.value)) (.tokenPair p)

theorem makes_of_check {p : Proposal} {s : Secret} (h : p.check = .ok s) : p.Makes s := by
  cases p with
  | credential username password =>
      simp only [check, bind_eq_ok, given_eq_ok] at h
      obtain ⟨v, ⟨rfl, -⟩, -, -, hs⟩ := h
      cases hs
      exact .credential username v
  | token typeName value target =>
      simp only [check, bind_eq_ok, given_eq_ok, mapError_eq_ok, Token.make_eq_ok] at h
      obtain ⟨type, htype, v, ⟨rfl, -⟩, t, ⟨rfl, rfl, htarget⟩, -, -, hs⟩ := h
      cases hs
      exact .token htype htarget
  | tokenPair access refresh =>
      simp only [check, bind_eq_ok, given_eq_ok, mapError_eq_ok] at h
      obtain ⟨a, ⟨rfl, -⟩, r, ⟨rfl, -⟩, p, hmake, -, -, hs⟩ := h
      cases hs
      obtain ⟨rfl, rfl, hbare⟩ := TokenPair.make_eq_ok.1 hmake
      exact .tokenPair hbare

theorem kind_of_check {p : Proposal} {s : Secret} (h : p.check = .ok s) : s.kind = p.kind := by
  cases makes_of_check h <;> rfl

theorem exitStatus_of_check {p : Proposal} {f : Failure} (h : p.check = .error f) :
    f.exitStatus = 1 := by
  cases p with
  | credential username password =>
      rcases bind_eq_error h with h | ⟨v, -, h⟩
      · exact given_eq_error h
      · rcases bind_eq_error h with h | ⟨_, -, h⟩
        · exact exitStatus_of_refused (Credential.validate_refuses _) h
        · cases h
  | token typeName value target =>
      rcases bind_eq_error h with h | ⟨type, -, h⟩
      · exact exitStatus_of_refused (ofFriendlyName_refuses _) h
      rcases bind_eq_error h with h | ⟨v, -, h⟩
      · exact given_eq_error h
      rcases bind_eq_error h with h | ⟨t, -, h⟩
      · exact exitStatus_of_refused (Token.make_refuses _ _ _) h
      rcases bind_eq_error h with h | ⟨_, -, h⟩
      · exact exitStatus_of_refused (Token.validate_refuses _) h
      · cases h
  | tokenPair access refresh =>
      rcases bind_eq_error h with h | ⟨a, -, h⟩
      · exact given_eq_error h
      rcases bind_eq_error h with h | ⟨r, -, h⟩
      · exact given_eq_error h
      rcases bind_eq_error h with h | ⟨p, -, h⟩
      · exact exitStatus_of_refused (TokenPair.make_refuses _ _) h
      rcases bind_eq_error h with h | ⟨_, -, h⟩
      · exact exitStatus_of_refused (TokenPair.validate_refuses _) h
      · cases h

end Proposal

/-! ### Storing -/

/-- Warns before a secret goes where others may read it. -/
def warn {α : Type} (store : SecretStore (Backends Unit) α) : Run Unit :=
  if store.isSecure then pure () else note ⟨(), [unprotected store.backendId]⟩

def addTo {α : Type} (store : SecretStore (Backends Unit) α) (kind : SecretKind) (key : String) (a : α) :
    Run Unit := do
  if ← onStore (store.add key a) then
    print s!"Stored {kind.typeName} '{key}' in {store.backendId}\n"
  else
    throw (.secret (s!"Failed to store {kind.typeName} '{key}' in {store.backendId}" ++
      " (run with -v for details)"))

/-- Puts a secret that was checked into the store that is chosen. -/
def deposit (p : Provider Unit) (key : String) {kind : SecretKind} (a : kind.Content) : Run Unit := do
  let store ← openStore p kind.format
  warn store
  addTo store kind key a

theorem keep_eq (p : Provider Unit) (kind : SecretKind)
    (validate : kind.Content → Except SecretError Unit) (key : String) (a : kind.Content) :
    keep p kind.format validate kind key a = (do
      orFail Failure.ofSecret (validate a)
      deposit p key a) := by
  unfold keep deposit
  congr 1
  funext _
  congr 1
  funext store
  unfold warn
  cases store.isSecure <;> rfl

theorem orFail_eq {ε α : Type} (failure : ε → Failure) (x : Except ε α) :
    orFail failure x = orFail id (x.mapError failure) := by
  cases x <;> rfl

theorem orFail_bind {α β : Type} (x : Except Failure α) (f : α → Except Failure β) :
    orFail id (x >>= f) = orFail id x >>= fun a => orFail id (f a) := by
  cases x <;> rfl

theorem needValue_eq (label : String) (v : Option String) :
    needValue label v = orFail id (given label v) := by
  cases v with
  | none => rfl
  | some value =>
      rw [needValue, given]
      split <;> rfl

theorem storeSecret_eq (e : Environment) (i : Invocation) (key : String) (proposal : Proposal) :
    storeSecret e i key proposal = (do
      let p ← loadProvider e i
      let s ← orFail id proposal.check
      deposit p key s.content) := by
  unfold storeSecret
  congr 1
  funext p
  cases proposal with
  | credential username password =>
      have hkeep : ∀ a : Credential, keep p Credential.xml Credential.validate .credential key a = (do
          orFail Failure.ofSecret a.validate
          @deposit p key .credential a) := keep_eq p .credential Credential.validate key
      simp only [Proposal.check, hkeep, orFail_eq Failure.ofSecret, needValue_eq, orFail_bind, bind_assoc]
      rfl
  | token typeName value target =>
      have hkeep : ∀ a : Token, keep p Token.xml Token.validate .token key a = (do
          orFail Failure.ofSecret a.validate
          @deposit p key .token a) := keep_eq p .token Token.validate key
      simp only [Proposal.check, hkeep, orFail_eq Failure.ofSecret, needValue_eq, orFail_bind, bind_assoc]
      rfl
  | tokenPair access refresh =>
      have hkeep : ∀ a : TokenPair, keep p TokenPair.xml TokenPair.validate .tokenPair key a = (do
          orFail Failure.ofSecret a.validate
          @deposit p key .tokenPair a) := keep_eq p .tokenPair TokenPair.validate key
      simp only [Proposal.check, hkeep, orFail_eq Failure.ofSecret, needValue_eq, orFail_bind, bind_assoc]
      rfl

theorem findOfKind_eq (p : Provider Unit) (kind : SecretKind) (key : String) :
    findOfKind p kind key = find p kind.format kind.secret key := by
  cases kind <;> rfl

theorem dropOfKind_eq (p : Provider Unit) (kind : SecretKind) (key : String) :
    dropOfKind p kind key = drop p kind.format key := by
  cases kind <;> rfl

theorem withSecurity_eq (security : Option SecurityLevel) (p : Provider Unit) :
    withSecurity security p = { p with level := security.getD p.level } := by
  cases security <;> rfl

theorem readBackends_bind {α : Type} (next : Backends Unit → Run α) (p : Process) :
    (readBackends >>= next) p = next p.backends p := rfl

/-- Whether the keyring is found depends on nothing else. -/
theorem detect_eq {b b' : Backends Unit} (hkeyring : b.keyring = b'.keyring) (session : Option String)
    (platform : Platform) (space : String) : (Detector.keyring session : Detector Unit) platform space b' =
      Detector.keyring session platform space b := by
  unfold Detector.keyring
  rw [hkeyring]

end Command
end Strongbox
