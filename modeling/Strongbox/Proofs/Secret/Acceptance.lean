import Strongbox.Proofs.Association
import Strongbox.Proofs.Secret.RoundTrip
import Strongbox.Proofs.Xml.Acceptance
/-! Which documents describe a secret of a kind, and how reading fails on all others. Of a document that
is read, only the first child of each name that the kind knows counts, and the name of the root in the
texts of errors. -/
namespace Strongbox

open Xml

namespace SecretKind

/-- Names of the children that a secret of the kind is read from. -/
def childNames : SecretKind → List String
  | credential => ["Password", "Username"]
  | token => ["Type", "Value", "targetIdentity"]
  | tokenPair => ["accessToken", "refreshToken"]

end SecretKind

namespace Secret

def ofElement (kind : SecretKind) (e : Element) : Except SecretError Secret :=
  match kind with
  | .credential => credential <$> Credential.ofElement e
  | .token => token <$> Token.ofElement e
  | .tokenPair => tokenPair <$> TokenPair.ofElement e

theorem decode_eq (kind : SecretKind) (text : String) :
    decode kind text = Element.parse text >>= ofElement kind := by
  cases kind <;>
    simp only [decode, Credential.xml, Token.xml, TokenPair.xml, SecretFormat.xml] <;>
    cases Element.parse text <;> rfl

theorem decode_of_parse_error {text : String} {f : SecretError} (h : Element.parse text = .error f)
    (kind : SecretKind) : decode kind text = .error f := by
  rw [decode_eq, h]
  rfl

theorem decode_of_parse_ok {text : String} {e : Element} (h : Element.parse text = .ok e)
    (kind : SecretKind) : decode kind text = ofElement kind e := by
  rw [decode_eq, h]
  rfl

/-! ### What an element says -/

/-- The secret that an element describes, by its first children. -/
inductive Describes (e : Element) : Secret → Prop
  | credential {username password : String} (hpassword : e.childText? "Password" = some password)
      (husername : e.childText? "Username" = some username) :
      Describes e (.credential ⟨username, password⟩)
  | token (t : Token) (htype : e.childText? "Type" = some t.type.symbol)
      (hvalue : e.childText? "Value" = some t.value)
      (htarget : match e.childText? "targetIdentity" with
        | none => t.target = Uuid.nil
        | some text => Uuid.parse (Text.trim text) = .ok t.target) : Describes e (.token t)
  | tokenPair (p : TokenPair) (haccess : e.childText? "accessToken" = some p.access.value)
      (hrefresh : e.childText? "refreshToken" = some p.refresh.value) (hbare : p.parameters = []) :
      Describes e (.tokenPair p)

/-- A text of the element is there and is more than white space. -/
def HasText (e : Element) (name : String) : Prop :=
  ∃ text, e.childText? name = some text ∧ Text.isBlank text = false

/-- What an element must hold to describe a secret of a kind. -/
def Acceptable (e : Element) : SecretKind → Prop
  | .credential => (e.childText? "Password").isSome ∧ (e.childText? "Username").isSome
  | .token => (∃ type : TokenType, e.childText? "Type" = some type.symbol) ∧ HasText e "Value" ∧
      ∀ text, e.childText? "targetIdentity" = some text → ∃ u, Uuid.parse (Text.trim text) = .ok u
  | .tokenPair => HasText e "accessToken" ∧ HasText e "refreshToken"

end Secret

theorem TokenType.parse_eq_ok {text : String} {t : TokenType} :
    parse text = .ok t ↔ text = t.symbol := by
  constructor
  · intro h
    unfold parse ofSymbol? at h
    cases hfound : all.find? (·.symbol == text) with
    | none =>
        rw [hfound] at h
        cases h
    | some found =>
        rw [hfound] at h
        cases h
        have hsymbol := List.find?_some hfound
        exact (beq_iff_eq.1 hsymbol).symm
  · rintro rfl
    exact parse_symbol t

namespace Secret

variable {e : Element} {kind : SecretKind}

/-! ### What is read is what is described -/

theorem requiredChild_eq_ok {name text : String} :
    e.requiredChild name = .ok text ↔ e.childText? name = some text := by
  unfold Element.requiredChild
  cases e.childText? name <;> simp

theorem targetOfText_eq_ok {text? : Option String} {u : Uuid} :
    Token.targetOfText text? = .ok u ↔ match text? with
      | none => u = Uuid.nil
      | some text => Uuid.parse (Text.trim text) = .ok u := by
  cases text? with
  | none => simp [Token.targetOfText, eq_comm]
  | some text =>
      simp only [Token.targetOfText]
      cases Uuid.parse (Text.trim text) <;> simp

theorem credential_eq_ok {c : Credential} :
    Credential.ofElement e = .ok c ↔ Describes e (.credential c) := by
  simp only [Credential.ofElement, bind_eq_ok, requiredChild_eq_ok]
  constructor
  · rintro ⟨password, hpassword, username, husername, h⟩
    cases h
    exact .credential hpassword husername
  · intro h
    cases h with
    | credential hpassword husername => exact ⟨_, hpassword, _, husername, rfl⟩

theorem token_eq_ok {t : Token} : Token.ofElement e = .ok t ↔ Describes e (.token t) := by
  simp only [Token.ofElement, bind_eq_ok, requiredChild_eq_ok, TokenType.parse_eq_ok,
    targetOfText_eq_ok, mapError_eq_ok, Token.make_eq_ok]
  constructor
  · rintro ⟨symbol, hsymbol, type, rfl, value, hvalue, target, htarget, rfl, rfl, rfl⟩
    exact .token t hsymbol hvalue htarget
  · intro h
    cases h with
    | token t htype hvalue htarget =>
        exact ⟨_, htype, _, rfl, _, hvalue, _, htarget, rfl, rfl, rfl⟩

theorem tokenPair_eq_ok {p : TokenPair} :
    TokenPair.ofElement e = .ok p ↔ Describes e (.tokenPair p) := by
  simp only [TokenPair.ofElement, bind_eq_ok, requiredChild_eq_ok, mapError_eq_ok,
    TokenPair.make_eq_ok]
  constructor
  · rintro ⟨access, haccess, refresh, hrefresh, rfl, rfl, hbare⟩
    exact .tokenPair p haccess hrefresh hbare
  · intro h
    cases h with
    | tokenPair p haccess hrefresh hbare => exact ⟨_, haccess, _, hrefresh, rfl, rfl, hbare⟩

theorem ofElement_eq_ok {s : Secret} :
    ofElement kind e = .ok s ↔ s.kind = kind ∧ Describes e s := by
  cases kind with
  | credential =>
      simp only [ofElement, map_eq_ok, credential_eq_ok]
      cases s <;> simp [Secret.kind]
  | token =>
      simp only [ofElement, map_eq_ok, token_eq_ok]
      cases s <;> simp [Secret.kind]
  | tokenPair =>
      simp only [ofElement, map_eq_ok, tokenPair_eq_ok]
      cases s <;> simp [Secret.kind]

/-- An element describes a secret of a kind just if it holds what the kind asks for. -/
theorem acceptable_iff : Acceptable e kind ↔ ∃ s : Secret, s.kind = kind ∧ Describes e s := by
  cases kind with
  | credential =>
      simp only [Acceptable, Option.isSome_iff_exists]
      constructor
      · rintro ⟨⟨password, hpassword⟩, username, husername⟩
        exact ⟨_, rfl, .credential hpassword husername⟩
      · rintro ⟨s, hkind, h⟩
        cases h with
        | credential hpassword husername => exact ⟨⟨_, hpassword⟩, _, husername⟩
        | token | tokenPair => cases hkind
  | token =>
      constructor
      · rintro ⟨⟨type, htype⟩, ⟨value, hvalue, hvisible⟩, hidentity⟩
        cases htarget : e.childText? "targetIdentity" with
        | none =>
            refine ⟨_, rfl, .token ⟨type, value, Uuid.nil, hvisible⟩ htype hvalue ?_⟩
            rw [htarget]
        | some text =>
            obtain ⟨u, hu⟩ := hidentity text htarget
            refine ⟨_, rfl, .token ⟨type, value, u, hvisible⟩ htype hvalue ?_⟩
            rw [htarget]
            exact hu
      · rintro ⟨s, hkind, h⟩
        cases h with
        | token t htype hvalue htarget =>
            refine ⟨⟨_, htype⟩, ⟨_, hvalue, t.value_not_blank⟩, fun text htext => ⟨t.target, ?_⟩⟩
            rw [htext] at htarget
            exact htarget
        | credential | tokenPair => cases hkind
  | tokenPair =>
      constructor
      · rintro ⟨⟨access, haccess, ha⟩, refresh, hrefresh, hr⟩
        obtain ⟨p, hmake⟩ := TokenPair.exists_make ha hr
        obtain ⟨rfl, rfl, hbare⟩ := TokenPair.make_eq_ok.1 hmake
        exact ⟨_, rfl, .tokenPair p haccess hrefresh hbare⟩
      · rintro ⟨s, hkind, h⟩
        cases h with
        | tokenPair p haccess hrefresh hbare =>
            exact ⟨⟨_, haccess, p.access.value_not_blank⟩, _, hrefresh, p.refresh.value_not_blank⟩
        | credential | token => cases hkind

/-! ### Errors of an element that was read -/

/-- Whatever is wrong is wrong with the secret that was stored. -/
def BlamesSecret {α : Type} (x : Except SecretError α) : Prop :=
  ∀ f, x = .error f → ∃ reason, f = .malformed reason

namespace BlamesSecret

variable {α β : Type}

theorem bind {x : Except SecretError α} {f : α → Except SecretError β} (hx : BlamesSecret x)
    (hf : ∀ a, BlamesSecret (f a)) : BlamesSecret (x >>= f) := by
  intro e h
  rcases bind_eq_error h with h | ⟨a, -, h⟩
  · exact hx e h
  · exact hf a e h

theorem map {x : Except SecretError α} (f : α → β) (hx : BlamesSecret x) : BlamesSecret (f <$> x) :=
  fun e h => hx e (map_eq_error.1 h)

theorem pure (a : α) : BlamesSecret (.ok a) := fun _ h => by cases h

/-- A rule that is broken is the secret's fault, once the secret was stored. -/
theorem of_refusesInput {x : Except SecretError α} (hx : RefusesInput x) :
    BlamesSecret (x.mapError SecretError.asMalformed) := by
  intro f h
  cases x with
  | ok a => cases h
  | error e =>
      obtain ⟨reason, rfl⟩ := hx e rfl
      cases h
      exact ⟨reason, rfl⟩

theorem requiredChild (e : Element) (name : String) : BlamesSecret (e.requiredChild name) := by
  intro f h
  unfold Element.requiredChild at h
  split at h
  · cases h
  · cases h
    exact ⟨_, rfl⟩

theorem parse_type (text : String) : BlamesSecret (TokenType.parse text) := by
  intro f h
  unfold TokenType.parse at h
  split at h
  · cases h
  · cases h
    exact ⟨_, rfl⟩

theorem targetOfText (text? : Option String) : BlamesSecret (Token.targetOfText text?) := by
  intro f h
  unfold Token.targetOfText at h
  split at h
  · cases h
  · split at h
    · cases h
    · cases h
      exact ⟨_, rfl⟩

theorem ofElement (kind : SecretKind) (e : Element) : BlamesSecret (Secret.ofElement kind e) := by
  cases kind with
  | credential =>
      refine .map _ (.bind (requiredChild e _) fun password => ?_)
      exact .bind (requiredChild e _) fun username => .pure _
  | token =>
      refine .map _ (.bind (requiredChild e _) fun symbol => .bind (parse_type symbol) fun type => ?_)
      refine .bind (requiredChild e _) fun value => .bind (targetOfText _) fun target => ?_
      exact .of_refusesInput (Token.make_refuses value type target)
  | tokenPair =>
      refine .map _ (.bind (requiredChild e _) fun access => .bind (requiredChild e _) fun refresh => ?_)
      exact .of_refusesInput (TokenPair.make_refuses access refresh)

end BlamesSecret

/-- A text that is not decoded is the fault of whoever wrote it, and of no store. -/
theorem isDataError_of_decode {text : String} {f : SecretError} (h : decode kind text = .error f) :
    f.isDataError = true := by
  cases hparse : Element.parse text with
  | error f' =>
      rw [decode_of_parse_error hparse] at h
      cases h
      obtain ⟨reason, rfl⟩ := Element.parse_eq_error hparse
      rfl
  | ok e =>
      rw [decode_of_parse_ok hparse] at h
      obtain ⟨reason, rfl⟩ := BlamesSecret.ofElement kind e f h
      rfl

/-! ### What an answer depends on -/

/-- The elements have one text, or none, for each name that the kind knows. -/
def SameTexts (kind : SecretKind) (e e' : Element) : Prop :=
  ∀ name ∈ kind.childNames, e'.childText? name = e.childText? name

theorem SameTexts.of_rearranged {e e' : Element}
    (h : Association.Rearranged kind.childNames e.children e'.children) : SameTexts kind e e' :=
  fun _ hname => h.first?_eq hname

/-- That an element has no child of a name. The text quotes the name of the root. -/
def missing (e : Element) (name : String) : SecretError :=
  .malformed s!"<{e.name}> is missing required element <{name}>"

/-- One answer for two elements, but for the name of the root where a child is reported missing. -/
inductive SameAnswer (e e' : Element) {α : Type} :
    Except SecretError α → Except SecretError α → Prop
  | same (x : Except SecretError α) : SameAnswer e e' x x
  | missing (name : String) : SameAnswer e e' (.error (missing e name)) (.error (missing e' name))

namespace SameAnswer

variable {e' : Element} {α β : Type}

theorem bind {x x' : Except SecretError α} {f f' : α → Except SecretError β}
    (h : SameAnswer e e' x x') (hf : ∀ a, SameAnswer e e' (f a) (f' a)) :
    SameAnswer e e' (x >>= f) (x' >>= f') := by
  cases h with
  | missing name => exact .missing name
  | same x =>
      cases x with
      | ok a => exact hf a
      | error cause => exact .same _

theorem map {x x' : Except SecretError α} (f : α → β) (h : SameAnswer e e' x x') :
    SameAnswer e e' (f <$> x) (f <$> x') := by
  cases h with
  | missing name => exact .missing name
  | same x => exact .same _

theorem requiredChild {name : String} (h : e'.childText? name = e.childText? name) :
    SameAnswer e e' (e.requiredChild name) (e'.requiredChild name) := by
  unfold Element.requiredChild
  rw [h]
  cases e.childText? name with
  | some text => exact .same _
  | none => exact .missing name

theorem ofElement (h : SameTexts kind e e') :
    SameAnswer e e' (Secret.ofElement kind e) (Secret.ofElement kind e') := by
  cases kind with
  | credential =>
      refine .map _ (.bind (requiredChild (h "Password" (by decide))) fun password => ?_)
      exact .bind (requiredChild (h "Username" (by decide))) fun username => .same _
  | token =>
      have htarget := h "targetIdentity" (by decide)
      refine .map _ (.bind (requiredChild (h "Type" (by decide))) fun symbol => ?_)
      refine .bind (.same _) fun type => .bind (requiredChild (h "Value" (by decide))) fun value => ?_
      rw [htarget]
      exact .same _
  | tokenPair =>
      refine .map _ (.bind (requiredChild (h "accessToken" (by decide))) fun access => ?_)
      exact .bind (requiredChild (h "refreshToken" (by decide))) fun refresh => .same _

/-- Under one name of the root, there is nothing left to differ in. -/
theorem eq_of_name {x x' : Except SecretError α} (h : SameAnswer e e' x x') (hname : e'.name = e.name) :
    x' = x := by
  cases h with
  | same x => rfl
  | missing name => rw [Secret.missing, Secret.missing, hname]

end SameAnswer

/-! ### Reading a text -/

/-- All that comes of reading a text as a secret of a kind. -/
structure Exact (kind : SecretKind) (text : String) : Prop where
  /-- A text that is no document is reported as such. -/
  unread : ∀ f, Element.parse text = .error f → decode kind text = .error f
  /-- Nothing else is reported as a text that is no document. -/
  serialization : (∃ reason, decode kind text = .error (.serialization reason)) ↔
    ∃ f, Element.parse text = .error f
  accepted : (∃ s, decode kind text = .ok s) ↔
    ∃ e, Element.parse text = .ok e ∧ Acceptable e kind
  described : ∀ s, decode kind text = .ok s ↔
    s.kind = kind ∧ ∃ e, Element.parse text = .ok e ∧ Describes e s
  malformed : ∀ e, Element.parse text = .ok e → ¬ Acceptable e kind →
    ∃ reason, decode kind text = .error (.malformed reason)
  /-- Nothing but the first texts counts, and the name of the root in the text of an error. -/
  firsts : ∀ e text' e', Element.parse text = .ok e → Element.parse text' = .ok e' →
    SameTexts kind e e' → SameAnswer e e' (decode kind text) (decode kind text')
  /-- Children of other names, later ones of a name and the order of the names do not count. -/
  rearranged : ∀ e text' e', Element.parse text = .ok e → Element.parse text' = .ok e' →
    Association.Rearranged kind.childNames e.children e'.children → e'.name = e.name →
      decode kind text' = decode kind text

theorem exact_of_error {text : String} {f : SecretError} (h : Element.parse text = .error f) :
    Exact kind text := by
  have hdecode := decode_of_parse_error h kind
  have hno : ∀ e, Element.parse text ≠ .ok e := by simp [h]
  obtain ⟨reason, rfl⟩ := Element.parse_eq_error h
  refine ⟨?_, ?_, ?_, ?_, ?_, ?_, ?_⟩
  · intro f hf
    rw [h] at hf
    cases hf
    exact hdecode
  · exact ⟨fun _ => ⟨_, h⟩, fun _ => ⟨reason, hdecode⟩⟩
  · simp [hdecode, hno]
  · simp [hdecode, hno]
  · exact fun e he => absurd he (hno e)
  · exact fun e _ _ he => absurd he (hno e)
  · exact fun e _ _ he => absurd he (hno e)

theorem exact_of_ok {text : String} (h : Element.parse text = .ok e) : Exact kind text := by
  have hdecode := decode_of_parse_ok h kind
  have honly : ∀ {e'}, Element.parse text = .ok e' → e' = e := fun h' => by
    rw [h] at h'
    cases h'
    rfl
  have hfirsts : ∀ text' e', Element.parse text' = .ok e' → SameTexts kind e e' →
      SameAnswer e e' (decode kind text) (decode kind text') := by
    intro text' e' h' hsame
    rw [hdecode, decode_of_parse_ok h']
    exact .ofElement hsame
  refine ⟨?_, ?_, ?_, ?_, ?_, ?_, ?_⟩
  · intro f hf
    rw [h] at hf
    cases hf
  · constructor
    · rintro ⟨reason, herror⟩
      obtain ⟨reason', hblame⟩ := BlamesSecret.ofElement kind e _ (hdecode.symm.trans herror)
      cases hblame
    · rintro ⟨f, hf⟩
      rw [h] at hf
      cases hf
  · simp only [hdecode, h, ofElement_eq_ok, acceptable_iff, Except.ok.injEq, exists_eq_left']
  · intro s
    simp only [hdecode, h, ofElement_eq_ok, Except.ok.injEq, exists_eq_left']
  · intro e' h' hnot
    obtain rfl := honly h'
    rw [hdecode]
    cases hresult : ofElement kind e' with
    | ok s => exact absurd (acceptable_iff.2 ⟨s, ofElement_eq_ok.1 hresult⟩) hnot
    | error f =>
        obtain ⟨reason, rfl⟩ := BlamesSecret.ofElement kind e' f hresult
        exact ⟨reason, rfl⟩
  · intro e₁ text' e' h₁ h' hsame
    obtain rfl := honly h₁
    exact hfirsts text' e' h' hsame
  · intro e₁ text' e' h₁ h' hrearranged hname
    obtain rfl := honly h₁
    exact (hfirsts text' e' h' (.of_rearranged hrearranged)).eq_of_name hname

/-- Reading a secret is exact: which texts are read, as what, and how the others fail. -/
theorem decode_exact (kind : SecretKind) (text : String) : Exact kind text := by
  cases h : Element.parse text with
  | error f => exact exact_of_error h
  | ok e => exact exact_of_ok h

/-- The first texts do not tell everything: the root is named where a child is missing. Nor may the
children of a name change places with each other. -/
theorem not_told_by_texts :
    (∃ e e', Element.parse "<a></a>" = .ok e ∧ Element.parse "<b></b>" = .ok e' ∧
      SameTexts .credential e e' ∧ decode .credential "<b></b>" ≠ decode .credential "<a></a>") ∧
    ∃ e e', Element.parse
        "<value><Password>a</Password><Password>b</Password><Username>u</Username></value>" = .ok e ∧
      Element.parse
        "<value><Password>b</Password><Password>a</Password><Username>u</Username></value>" = .ok e' ∧
      e'.name = e.name ∧ e'.children.Perm e.children ∧
      (∀ child ∈ e.children, child.1 ∈ SecretKind.credential.childNames) ∧
      decode .credential
        "<value><Password>b</Password><Password>a</Password><Username>u</Username></value>" ≠
      decode .credential
        "<value><Password>a</Password><Password>b</Password><Username>u</Username></value>" := by
  constructor
  · have ha : Element.parse "<a></a>" = .ok ⟨"a", []⟩ :=
      Element.parse_of_render (by decide +kernel) (by decide)
    have hb : Element.parse "<b></b>" = .ok ⟨"b", []⟩ :=
      Element.parse_of_render (by decide +kernel) (by decide)
    refine ⟨_, _, ha, hb, fun name _ => rfl, ?_⟩
    rw [decode_of_parse_ok ha, decode_of_parse_ok hb]
    decide +kernel
  · have he : Element.parse
          "<value><Password>a</Password><Password>b</Password><Username>u</Username></value>" =
        .ok ⟨"value", [("Password", "a"), ("Password", "b"), ("Username", "u")]⟩ :=
      Element.parse_of_render (by decide +kernel) (by decide)
    have he' : Element.parse
          "<value><Password>b</Password><Password>a</Password><Username>u</Username></value>" =
        .ok ⟨"value", [("Password", "b"), ("Password", "a"), ("Username", "u")]⟩ :=
      Element.parse_of_render (by decide +kernel) (by decide)
    refine ⟨_, _, he, he', rfl, List.Perm.swap _ _ _, by decide, ?_⟩
    rw [decode_of_parse_ok he, decode_of_parse_ok he']
    decide +kernel

end Secret
end Strongbox
