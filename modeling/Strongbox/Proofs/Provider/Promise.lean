import Strongbox.Proofs.NativeKey.Rendering
import Strongbox.Proofs.Provider.Made
import Strongbox.Proofs.Provider.Must
import Strongbox.Proofs.Settings.Directory
/-! What was accepted once is not refused later: loaded settings, name spaces, and the keys that are made
from them. The rule for name spaces is written more than once, and it is the same rule each time. -/
namespace Strongbox

/-! ### One rule -/

namespace NativeKey

theorem checkComponent_refuses_iff (field value : String) :
    (∃ e, checkComponent field value = .error e) ↔ isComponent value = false := by
  cases hvalue : isComponent value with
  | true => simp [checkComponent_of_isComponent field hvalue]
  | false =>
      cases hcheck : checkComponent field value with
      | ok _ => exact absurd (isComponent_of_check hcheck) (by simp [hvalue])
      | error e => simp

theorem make_refuses_iff (space typeName key : String) :
    (∃ e, make space typeName key = .error e) ↔
      isComponent space = false ∨ isComponent typeName = false := by
  have hmade := exists_make_iff space typeName key
  cases hmake : make space typeName key with
  | ok k =>
      obtain ⟨hspace, htype⟩ := hmade.1 ⟨k, hmake⟩
      simp [hspace, htype]
  | error e =>
      rw [hmake] at hmade
      simpa [Decidable.or_iff_not_not_and_not] using hmade

end NativeKey

/-- Name spaces are looked at before every other field. -/
theorem Settings.validate_refuses_space_iff (s : Settings) :
    (∃ reason, s.validate = .error (.invalid "namespace" reason)) ↔
      NativeKey.isComponent s.space = false := by
  constructor
  · rintro ⟨reason, h⟩
    by_contra hspace
    simp only [Bool.not_eq_false, NativeKey.isComponent, Bool.and_eq_true, Bool.not_eq_true'] at hspace
    rw [validate, hspace.1, hspace.2] at h
    simp only [Bool.false_eq_true, if_false] at h
    split at h
    · simp at h
    · unfold LogSettings.validate at h
      split at h <;> simp at h
  · intro hspace
    rw [validate]
    split
    · exact ⟨_, rfl⟩
    · split
      · exact ⟨_, rfl⟩
      · simp_all [NativeKey.isComponent]

theorem SecretStore.make_refuses_iff {σ α : Type} (native : NativeStore σ) (space : String)
    (format : SecretFormat α) : (∃ e, make native space format = .error e) ↔
      NativeKey.isComponent space = false ∨ NativeKey.isComponent format.typeName = false := by
  cases hmake : make native space format with
  | ok s =>
      obtain ⟨-, hspace, hformat⟩ := make_eq_ok hmake
      have hcomponent := s.space_component
      have htype := s.type_component
      rw [hspace] at hcomponent
      rw [hformat] at htype
      simp [hcomponent, htype]
  | error e =>
      refine ⟨fun _ => ?_, fun _ => ⟨e, rfl⟩⟩
      by_contra hboth
      simp only [not_or, Bool.not_eq_false] at hboth
      obtain ⟨s, hs, -⟩ := make_of_components native hboth.1 hboth.2
      cases hmake.symm.trans hs

theorem Provider.make_refuses_iff {ρ : Type} (environment : Environment) (space fallback : String) :
    (∃ e, (make environment space fallback : Except SecretError (Provider ρ)) = .error e) ↔
      NativeKey.isComponent space = false := by
  rw [← NativeKey.checkComponent_refuses_iff "namespace" space]
  unfold make
  split
  · rename_i e he
    simp [he]
  · rename_i hok
    simp [hok]

/-- A name space that settings may not hold, wherever else it is brought. -/
structure RefusedAlike (ρ : Type) (s : Settings) : Prop where
  provider : ∀ environment fallback,
    (∃ reason, s.validate = .error (.invalid "namespace" reason)) ↔
      ∃ e, (Provider.make environment s.space fallback : Except SecretError (Provider ρ)) = .error e
  store : ∀ {σ α : Type} (native : NativeStore σ) (format : SecretFormat α),
    ((∃ reason, s.validate = .error (.invalid "namespace" reason)) ∨
        NativeKey.isComponent format.typeName = false) ↔
      ∃ e, SecretStore.make native s.space format = .error e
  key : ∀ typeName key,
    ((∃ reason, s.validate = .error (.invalid "namespace" reason)) ∨
        NativeKey.isComponent typeName = false) ↔
      ∃ e, NativeKey.make s.space typeName key = .error e

theorem refusedAlike (ρ : Type) (s : Settings) : RefusedAlike ρ s where
  provider environment fallback := by
    rw [s.validate_refuses_space_iff, Provider.make_refuses_iff]
  store native format := by
    rw [s.validate_refuses_space_iff, SecretStore.make_refuses_iff]
  key typeName key := by
    rw [s.validate_refuses_space_iff, NativeKey.make_refuses_iff]

/-! ### Errors of stores -/

/-- No answer of a rule that was broken. -/
def Lawful {α : Type} (answer : Except SecretError α) : Prop :=
  ∀ reason, answer ≠ .error (.validation reason)

namespace Lawful

variable {α β : Type}

theorem pure (a : α) : Lawful (.ok a) := by
  rintro reason ⟨⟩

theorem bind {x : Except SecretError α} {f : α → Except SecretError β} (hx : Lawful x)
    (hf : ∀ a, Lawful (f a)) : Lawful (x >>= f) := by
  cases x with
  | ok a => exact hf a
  | error e =>
      rintro reason ⟨⟩
      exact hx reason rfl

theorem asMalformed (x : Except SecretError α) : Lawful (x.mapError SecretError.asMalformed) := by
  rintro reason h
  cases x with
  | ok a => cases h
  | error e => cases e <;> cases h

end Lawful

theorem Xml.Element.lawful_parse (text : String) : Lawful (parse text) := by
  rintro reason h
  obtain ⟨reason', hserialization⟩ := parse_eq_error h
  cases hserialization

theorem Xml.Element.lawful_requiredChild (e : Xml.Element) (name : String) :
    Lawful (e.requiredChild name) := by
  unfold requiredChild
  split <;> rintro reason ⟨⟩

theorem TokenType.lawful_parse (s : String) : Lawful (parse s) := by
  unfold parse
  split <;> rintro reason ⟨⟩

theorem Token.lawful_targetOfText (text : Option String) : Lawful (targetOfText text) := by
  unfold targetOfText
  split
  · rintro reason ⟨⟩
  · split <;> rintro reason ⟨⟩

/-- What is stored may be malformed, but it breaks no rule. -/
theorem SecretKind.lawful_deserialize (kind : SecretKind) (text : String) :
    Lawful (kind.format.deserialize text) := by
  cases kind with
  | credential =>
      refine (Xml.Element.lawful_parse text).bind fun e => ?_
      refine (e.lawful_requiredChild "Password").bind fun password => ?_
      exact (e.lawful_requiredChild "Username").bind fun username => .pure _
  | token =>
      refine (Xml.Element.lawful_parse text).bind fun e => ?_
      refine (e.lawful_requiredChild "Type").bind fun name => ?_
      refine (TokenType.lawful_parse name).bind fun type => ?_
      refine (e.lawful_requiredChild "Value").bind fun value => ?_
      exact (Token.lawful_targetOfText _).bind fun target => .asMalformed _
  | tokenPair =>
      refine (Xml.Element.lawful_parse text).bind fun e => ?_
      refine (e.lawful_requiredChild "accessToken").bind fun access => ?_
      exact (e.lawful_requiredChild "refreshToken").bind fun refresh => .asMalformed _

/-- A call whose broken rules are those that the native store reports for the key. -/
def StoreCall.BlamesNative {σ α β : Type} (call : StoreCall σ α) (native : StoreCall σ β) : Prop :=
  ∀ w reason w', call w = .error (.validation reason) w' → native w = .error (.validation reason) w'

namespace SecretStore

variable {σ : Type} {kind : SecretKind} {s : SecretStore σ kind.Content}

/-- The checks of a native key find nothing in a store that was made. -/
theorem make_nativeKey {α : Type} (s : SecretStore σ α) (key : String) :
    NativeKey.make s.space s.format.typeName key = .ok (s.nativeKey key) :=
  NativeKey.make_eq_ok_iff.2 ⟨rfl, rfl, rfl⟩

theorem tryGet_blames (hformat : s.format = kind.format) (key : String) :
    (s.tryGet key).BlamesNative (s.native.get (s.nativeKey key)) := by
  intro w reason w' h
  unfold tryGet at h
  split at h
  · rename_i hget
    cases h
    exact hget
  · cases h
  · split at h
    · cases h
    · rename_i hdecode
      cases h
      rw [hformat] at hdecode
      exact absurd hdecode (kind.lawful_deserialize _ reason)

theorem tryAdd_blames (hformat : s.format = kind.format) (key : String) (a : kind.Content) :
    (s.tryAdd key a).BlamesNative
      (s.native.put (s.nativeKey key) (kind.secret a).encodeDocument) := by
  intro w reason w' h
  unfold tryAdd at h
  rw [hformat, kind.serialize_format] at h
  exact h

end SecretStore

theorem Keyring.lawful_explain (p : KeyringPlatform) (e : KeyringError) (reason : String) :
    explain p e ≠ .validation reason := by
  cases e <;> rintro ⟨⟩

/-- A keyring is asked for a key that its name space cannot spoil. -/
theorem Keyring.lawful_probe (p : KeyringPlatform) {space : String}
    (hspace : NativeKey.isComponent space = true) (k : Keyring) : Lawful (probe p space k).value := by
  unfold probe
  split
  · rintro reason ⟨⟩
  · split
    · rename_i e hmake
      obtain ⟨key, hkey⟩ := (NativeKey.exists_make_iff space "Probe" probeKey).2 ⟨hspace, by decide⟩
      cases hmake.symm.trans hkey
    · split
      · rename_i e k' hbuild
        unfold explained at hbuild
        split at hbuild
        · cases hbuild
        · cases hbuild
          intro reason h
          exact lawful_explain p _ reason (Except.error.inj h)
      · split <;> rintro reason ⟨⟩

/-! ### Providers -/

namespace Provider

variable {ρ : Type}

/-- A provider that refuses nothing but what its choice of a native store refuses. -/
structure KeepsPromise (p : Provider ρ) (b : Backends ρ) : Prop where
  store : ∀ level (kind : SecretKind) e,
    (p.store level kind.format b).value = .error e ↔ (p.select level b).value = .error e
  key : ∀ level (kind : SecretKind) s, (p.store level kind.format b).value = .ok s →
    ∀ key, NativeKey.make p.space kind.typeName key = .ok (s.nativeKey key)
  get : ∀ level (kind : SecretKind) s, (p.store level kind.format b).value = .ok s →
    ∀ key, (s.tryGet key).BlamesNative (s.native.get (s.nativeKey key))
  add : ∀ level (kind : SecretKind) s, (p.store level kind.format b).value = .ok s →
    ∀ key a, (s.tryAdd key a).BlamesNative
      (s.native.put (s.nativeKey key) (kind.secret a).encodeDocument)
  delete : ∀ level (kind : SecretKind) s, (p.store level kind.format b).value = .ok s →
    ∀ key, (s.tryDelete key).BlamesNative (s.native.delete (s.nativeKey key))
  probe : ∀ platform k, Lawful (Keyring.probe platform p.space k).value

theorem store_eq_error_iff (p : Provider ρ) (b : Backends ρ) (level : SecurityLevel) (kind : SecretKind)
    (e : SecretError) :
    (p.store level kind.format b).value = .error e ↔ (p.select level b).value = .error e := by
  cases hselect : (p.select level b).value with
  | error e' =>
      rw [store_of_refused hselect kind]
      constructor <;> rintro ⟨⟩ <;> rfl
  | ok native =>
      obtain ⟨s, hstore, -⟩ := store_of_selected hselect kind
      rw [hstore]
      constructor <;> rintro ⟨⟩

theorem store_eq_ok {p : Provider ρ} {b : Backends ρ} {level : SecurityLevel} {kind : SecretKind}
    {s : SecretStore (Backends ρ) kind.Content} (h : (p.store level kind.format b).value = .ok s) :
    (p.select level b).value = .ok s.native ∧ s.space = p.space ∧ s.format = kind.format := by
  cases hselect : (p.select level b).value with
  | error e =>
      rw [store_of_refused hselect] at h
      cases h
  | ok native =>
      simp only [store, Log.Logged.map, hselect] at h
      obtain ⟨rfl, hspace, hformat⟩ := SecretStore.make_eq_ok h
      exact ⟨rfl, hspace, hformat⟩

/-- However a provider was made and whatever was set in it since, its name space is a component. -/
theorem keepsPromise (p : Provider ρ) (b : Backends ρ) : p.KeepsPromise b where
  store := p.store_eq_error_iff b
  key level kind s h key := by
    obtain ⟨-, hspace, hformat⟩ := store_eq_ok h
    rw [← hspace, ← kind.typeName_format, ← hformat]
    exact s.make_nativeKey key
  get _ _ _ h := SecretStore.tryGet_blames (store_eq_ok h).2.2
  add _ _ _ h := SecretStore.tryAdd_blames (store_eq_ok h).2.2
  delete _ _ _ _ _ _ _ _ h := h
  probe platform k := Keyring.lawful_probe platform p.space_component k

/-- What settings and name spaces were accepted for is never refused to them later, and a name space is
refused everywhere or nowhere. -/
theorem accepted_for_good (ρ : Type) :
    (∀ (d : SettingsDirectory) (disk : Disk) (s : Settings), (d.load disk).1.value = .ok s → s.Usable ρ) ∧
      (∀ (p : Provider ρ) (b : Backends ρ), p.KeepsPromise b) ∧ ∀ s : Settings, RefusedAlike ρ s :=
  ⟨fun _ _ _ h => Settings.usable_of_validate (SettingsDirectory.validate_of_load h), keepsPromise,
    refusedAlike ρ⟩

end Provider
end Strongbox
