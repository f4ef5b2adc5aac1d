import Strongbox.Proofs.Secret.Acceptance
import Strongbox.Proofs.SecretStore.Reports
import Strongbox.Proofs.Xml.Veil
/-! What the warning about a secret that cannot be decoded tells of its value: nothing, if the value is
read through as text. What the reader cannot read there, it quotes. -/
namespace Strongbox

open Xml

namespace Secret

/-- Names of the children that hold what nobody else may know. -/
def valueNames : List String := ["Password", "Value", "accessToken", "refreshToken"]

/-! ### Errors of two elements -/

/-- If both fail, then with one error. -/
def Silent {α β : Type} (x : Except SecretError α) (y : Except SecretError β) : Prop :=
  ∀ f f', x = .error f → y = .error f' → f' = f

namespace Silent

variable {α β γ δ : Type} {R : α → β → Prop} {x : Except SecretError α} {y : Except SecretError β}

theorem bind {f : α → Except SecretError γ} {g : β → Except SecretError δ} (h : FailAlike R x y)
    (hnext : ∀ a b, R a b → Silent (f a) (g b)) : Silent (x >>= f) (y >>= g) := by
  intro e e' hx hy
  cases h with
  | ok answers => exact hnext _ _ answers e e' hx hy
  | error cause =>
      cases hx
      cases hy
      rfl

theorem map (f : α → γ) (g : β → δ) (h : Silent x y) : Silent (f <$> x) (g <$> y) :=
  fun e e' hx hy => h e e' (map_eq_error.1 hx) (map_eq_error.1 hy)

theorem ok (a : α) (y : Except SecretError β) : Silent (.ok a) y := fun _ _ hx => by cases hx

theorem mapError (f : SecretError → SecretError) (h : Silent x y) :
    Silent (x.mapError f) (y.mapError f) := by
  intro e e' hx hy
  cases x with
  | ok a => cases hx
  | error cause =>
      cases y with
      | ok b => cases hy
      | error cause' =>
          cases hx
          cases hy
          rw [h cause cause' rfl rfl]

theorem make_token (value value' : String) (type : TokenType) (target : Uuid) :
    Silent (Token.make value type target) (Token.make value' type target) := by
  intro f f' hf hf'
  rw [Token.make_eq_error hf, Token.make_eq_error hf']

theorem make_pair {access access' : String} (h : Text.isBlank access' = Text.isBlank access)
    (refresh refresh' : String) :
    Silent (TokenPair.make access refresh) (TokenPair.make access' refresh') := by
  intro f f' hf hf'
  rw [TokenPair.make_eq_error hf, TokenPair.make_eq_error hf', h]

end Silent

section

variable {name text text' : String} {e e' : Element}

theorem requiredChild_alike (h : Element.SameBut name text text' e e') (other : String) :
    FailAlike (fun a a' => a' = a ∨ other = name ∧ a = text ∧ a' = text') (e.requiredChild other)
      (e'.requiredChild other) := by
  unfold Element.requiredChild
  rw [h.name_eq]
  rcases h.childText? other with hsame | ⟨hname, htext, htext'⟩
  · rw [hsame]
    cases e.childText? other with
    | some found => exact .ok (.inl rfl)
    | none => exact .error _
  · rw [htext, htext']
    exact .ok (.inr ⟨hname, rfl, rfl⟩)

theorem childText?_other (h : Element.SameBut name text text' e e') (hname : name ∈ valueNames)
    {other : String} (hother : other ∉ valueNames) : e'.childText? other = e.childText? other :=
  (h.childText? other).resolve_right fun hsame => hother (hsame.1 ▸ hname)

/-- Elements that differ in a value fail with one error. Whether the first token of a pair is blank
decides which token is blamed, so it has to be the same in both. -/
theorem ofElement_silent (h : Element.SameBut name text text' e e') (hname : name ∈ valueNames)
    {kind : SecretKind} (hblank : kind = .tokenPair → name = "accessToken" →
      Text.isBlank text' = Text.isBlank text) : Silent (ofElement kind e) (ofElement kind e') := by
  cases kind with
  | credential =>
      refine .map _ _ (.bind (requiredChild_alike h _) fun password password' _ => ?_)
      exact .bind (requiredChild_alike h _) fun username username' _ => .ok _ _
  | token =>
      have htype : e'.requiredChild "Type" = e.requiredChild "Type" := by
        rw [Element.requiredChild, Element.requiredChild, h.name_eq, childText?_other h hname (by decide)]
      refine .map _ _ ?_
      unfold Token.ofElement
      rw [htype, childText?_other h hname (by decide)]
      refine .bind .refl fun symbol symbol' hsymbol => ?_
      subst hsymbol
      refine .bind .refl fun type type' htype => ?_
      subst htype
      refine .bind (requiredChild_alike h _) fun value value' _ => ?_
      refine .bind .refl fun target target' htarget => ?_
      subst htarget
      exact .mapError _ (.make_token value value' type target)
  | tokenPair =>
      refine .map _ _ (.bind (requiredChild_alike h _) fun access access' haccess => ?_)
      refine .bind (requiredChild_alike h _) fun refresh refresh' _ => ?_
      refine .mapError _ (.make_pair ?_ refresh refresh')
      rcases haccess with rfl | ⟨rfl, rfl, rfl⟩
      · rfl
      · exact hblank rfl rfl

end

/-- Documents that differ in a value that is read through fail to be decoded with one error. -/
theorem decode_silent (around : Setting) (hname : around.name ∈ valueNames) (c c' : Interior)
    (hsize : Text.utf8Size c.chars = Text.utf8Size c'.chars) {kind : SecretKind}
    (hblank : kind = .tokenPair → around.name = "accessToken" →
      Text.isBlank c'.text = Text.isBlank c.text) :
    Silent (decode kind (around.fill c.chars)) (decode kind (around.fill c'.chars)) := by
  rw [decode_eq, decode_eq]
  exact .bind (around.parse_fill c c' hsize) fun e e' h => ofElement_silent h hname hblank

end Secret

/-! ### Reports -/

namespace Opened

variable {σ : Type} {native : NativeStore σ}

/-- A blob that cannot be decoded is reported with the error, and is absent. -/
theorem get_of_undecodable (s : Opened native) {key blob : String} {w w₁ : σ} {f : SecretError}
    (hread : native.get (s.nativeKey key) w = .ok (some blob) w₁)
    (hdecode : Secret.decode s.kind blob = .error f) :
    (s.store.get key w).1 = ⟨none, [s.store.failure .warn
      "Stored secret could not be decoded, treating it as absent" key f
      (s.store.spanOf "store.get" key)]⟩ := by
  have hdata := Secret.isDataError_of_decode hdecode
  rw [SecretKind.decode_format, map_eq_error] at hdecode
  have htry : s.store.tryGet key w = .error f w₁ := by
    rw [s.tryGet_of_found hread, decoded, hdecode]
    rfl
  rw [s.store.get_of_error htry, SecretStore.unread, if_pos hdata]

theorem error_of_absent (s : Opened native) {key blob : String} {w w₁ : σ}
    (hread : native.get (s.nativeKey key) w = .ok (some blob) w₁)
    (hnone : (s.store.get key w).1.value = none) : ∃ f, Secret.decode s.kind blob = .error f := by
  have hvalue := s.get_of_found hread
  rw [hnone, Option.bind_some] at hvalue
  cases hdecode : Secret.decode s.kind blob with
  | ok a =>
      rw [hdecode] at hvalue
      cases hvalue
  | error f => exact ⟨f, rfl⟩

/-- Two blobs that differ in a value, read through in both, are reported alike when neither can be
decoded. -/
theorem get_silent (s : Opened native) (around : Setting) (hname : around.name ∈ Secret.valueNames)
    (c c' : Interior) (hsize : Text.utf8Size c.chars = Text.utf8Size c'.chars)
    (hblank : s.kind = .tokenPair → around.name = "accessToken" →
      Text.isBlank c'.text = Text.isBlank c.text)
    {key : String} {w w' w₁ w₁' : σ}
    (hread : native.get (s.nativeKey key) w = .ok (some (around.fill c.chars)) w₁)
    (hread' : native.get (s.nativeKey key) w' = .ok (some (around.fill c'.chars)) w₁')
    (hnone : (s.store.get key w).1.value = none) (hnone' : (s.store.get key w').1.value = none) :
    (s.store.get key w').1.events = (s.store.get key w).1.events := by
  obtain ⟨f, hf⟩ := s.error_of_absent hread hnone
  obtain ⟨f', hf'⟩ := s.error_of_absent hread' hnone'
  obtain rfl := Secret.decode_silent around hname c c' hsize hblank f f' hf hf'
  rw [s.get_of_undecodable hread hf, s.get_of_undecodable hread' hf']

end Opened

/-! ### Around a password -/

/-- A document that holds a password, and something after it. -/
def aroundPassword (after : List Char) : Setting where
  before := Element.startTag "value".toList
  startTag := Element.startTag "Password".toList
  name := "Password"
  endTag := Element.endTag "Password".toList
  after := after
  whole := congrArg Events.fault (eventsFrom_startTag "value".toList (by decide))
  child := congrArg (depthAfter 0 ·.events) (eventsFrom_startTag "value".toList (by decide))
  opened := by decide +kernel
  closed := by decide +kernel

/-- What cannot be resolved in a password is quoted. -/
theorem parse_unresolved {body : List Char} {e : ReferenceError} (hbody : isReferenceBody body = true)
    (he : resolve body = .error e) (later after : List Char) :
    Element.parse ((aroundPassword after).fill ('&' :: (body ++ ';' :: later))) =
      .error (.serialization (ReadError.reference e).message) := by
  have hchars : ((aroundPassword after).fill ('&' :: (body ++ ';' :: later))).toList =
      Element.startTag "value".toList ++ (Element.startTag "Password".toList ++
        ('&' :: (body ++ ';' :: (later ++ (Element.endTag "Password".toList ++ after))))) := by
    simp [Setting.fill, aroundPassword]
  have hroot : Reading.start.opening "value".toList = .ok (Reading.within ⟨"value", []⟩) := by
    decide +kernel
  have hchild : (Reading.within ⟨"value", []⟩).opening "Password".toList =
      .ok ⟨2, some ⟨"value", []⟩, false, some ("Password", "")⟩ := by
    decide +kernel
  have honward : ∀ total, Reading.onward total .start [] (Element.startTag "value".toList ++
      (Element.startTag "Password".toList ++
        ('&' :: (body ++ ';' :: (later ++ (Element.endTag "Password".toList ++ after)))))) =
      .error (.reference e) := by
    intro total
    rw [Reading.onward_startTag (by decide) hroot, Reading.onward_startTag (by decide) hchild]
    exact Reading.onward_of_failed (next_reference hbody) (by simp [Reading.step, he])
  rw [Element.parse, (Element.read_of_toList hchars).trans (honward _)]
  rfl

namespace Opened

open Request (memoryCredentials)

/-- A store in memory with one blob. -/
def holding (blob : String) : MemoryStore := ⟨[(memoryCredentials.nativeKey "mail", blob)], false⟩

theorem get_holding (blob : String) :
    (MemoryStore.native true).get (memoryCredentials.nativeKey "mail") (holding blob) =
      .ok (some blob) (holding blob) := by
  simp [MemoryStore.native, MemoryStore.guarded, MemoryStore.lookup, holding]

/-- Two passwords whose username is missing. -/
theorem get_silent_in_memory :
    (memoryCredentials.store.get "mail" (holding "<value><Password>b</Password></value>")).1.events =
      (memoryCredentials.store.get "mail" (holding "<value><Password>a</Password></value>")).1.events := by
  have habsent : ∀ blob password : String, blob = (⟨"value", [("Password", password)]⟩ : Element).render →
      (memoryCredentials.store.get "mail" (holding blob)).1.value = none := by
    intro blob password hblob
    have hdecode : Secret.decode .credential blob =
        .error (Secret.missing ⟨"value", [("Password", password)]⟩ "Username") := by
      rw [Secret.decode_of_parse_ok (Element.parse_of_render hblob (by simp [Element.wellNamed]; decide))]
      rfl
    rw [memoryCredentials.get_of_undecodable (get_holding blob) hdecode]
  have ha : "<value><Password>a</Password></value>" =
      (aroundPassword (Element.endTag "value".toList)).fill ['a'] := by decide +kernel
  have hb : "<value><Password>b</Password></value>" =
      (aroundPassword (Element.endTag "value".toList)).fill ['b'] := by decide +kernel
  have hnone := habsent "<value><Password>a</Password></value>" "a" (by decide +kernel)
  have hnone' := habsent "<value><Password>b</Password></value>" "b" (by decide +kernel)
  rw [ha] at hnone ⊢
  rw [hb] at hnone' ⊢
  exact memoryCredentials.get_silent (aroundPassword (Element.endTag "value".toList)) (by decide)
    (.plain ['a'] (List.forall_mem_singleton.2 rfl)) (.plain ['b'] (List.forall_mem_singleton.2 rfl)) rfl
    (fun h => by cases h)
    (get_holding _) (get_holding _) hnone hnone'

/-- A reference that stands for nothing is quoted in the warning, though it is part of a password. -/
theorem get_quoting (body : List Char) (hbody : isReferenceBody body = true)
    (he : resolve body = .error (.unknown body)) (after : List Char) :
    (memoryCredentials.store.get "mail"
        (holding ((aroundPassword after).fill ('&' :: (body ++ [';']))))).1 =
      ⟨none, [memoryCredentials.store.failure .warn
        "Stored secret could not be decoded, treating it as absent" "mail"
        (.serialization ("unknown entity reference &" ++ String.ofList body ++ ";"))
        (memoryCredentials.store.spanOf "store.get" "mail")]⟩ :=
  memoryCredentials.get_of_undecodable (get_holding _)
    (Secret.decode_of_parse_error (parse_unresolved hbody he [] after) .credential)

theorem not_silent : ¬ ∀ (σ : Type) (native : NativeStore σ) (s : Opened native) (around : Setting)
    (content content' : List Char) (key : String) (w w' w₁ w₁' : σ),
    around.name ∈ Secret.valueNames → content.length = content'.length →
    Text.utf8Size content = Text.utf8Size content' →
    native.get (s.nativeKey key) w = .ok (some (around.fill content)) w₁ →
    native.get (s.nativeKey key) w' = .ok (some (around.fill content')) w₁' →
    (s.store.get key w).1.value = none → (s.store.get key w').1.value = none →
    (s.store.get key w').1.events = (s.store.get key w).1.events := by
  intro h
  have hone := get_quoting ['o', 'n', 'e'] (by decide) (by decide)
    "<Username>u</Username></value>".toList
  have htwo := get_quoting ['t', 'w', 'o'] (by decide) (by decide)
    "<Username>u</Username></value>".toList
  have hevents := h _ _ memoryCredentials (aroundPassword "<Username>u</Username></value>".toList)
    ['&', 'o', 'n', 'e', ';'] ['&', 't', 'w', 'o', ';'] "mail" _ _ _ _ (by decide) rfl rfl
    (get_holding _) (get_holding _) (congrArg Log.Logged.value hone) (congrArg Log.Logged.value htwo)
  have hfields := congrArg (List.map Log.Event.fields)
    ((congrArg Log.Logged.events htwo).symm.trans (hevents.trans (congrArg Log.Logged.events hone)))
  revert hfields
  decide +kernel

end Opened
end Strongbox
