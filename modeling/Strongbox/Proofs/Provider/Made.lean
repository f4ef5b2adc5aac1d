import Strongbox.Proofs.Log.Setup
import Strongbox.Provider
/-! Providers that are made from settings: what they take over, and that valid settings are enough to make
one wherever there is a place for its file. -/
namespace Strongbox

/-! ### Valid settings -/

theorem LogSettings.filter_of_validate {l : LogSettings} (h : l.validate = .ok ()) :
    ∃ f, l.config.filter = .ok f := by
  unfold validate at h
  split at h
  · exact ⟨_, ‹_›⟩
  · cases h
  · cases h

theorem Settings.logging_of_validate {s : Settings} (h : s.validate = .ok ()) :
    s.logging.validate = .ok () := by
  unfold validate at h
  split at h
  · cases h
  split at h
  · cases h
  split at h
  · cases h
  · exact h

/-- Settings bring their reader down by a filter that is torn, and by nothing else. -/
theorem LogSettings.torn_of_crash {l : LogSettings} {reason : String} (h : l.validate = .error (.crash reason)) :
    l.config.Torn := by
  have hfilters := l.config.filters
  unfold validate at h
  cases hfilter : l.config.filter with
  | ok f =>
      rw [hfilter] at h
      cases h
  | error e =>
      rw [hfilter] at hfilters h
      cases hfilters with
      | refused => cases h
      | torn _ htorn _ => exact htorn

theorem Settings.torn_of_crash {s : Settings} {reason : String} (h : s.validate = .error (.crash reason)) :
    s.logging.config.Torn := by
  unfold validate at h
  split at h
  · cases h
  split at h
  · cases h
  split at h
  · cases h
  · exact LogSettings.torn_of_crash h

theorem Settings.validate_ne_crash {s : Settings} (h : ∃ f, s.logging.config.filter = .ok f) {reason : String} :
    s.validate ≠ .error (.crash reason) := by
  intro hcrash
  obtain ⟨text, hdirectives, htorn⟩ := torn_of_crash hcrash
  obtain ⟨f, hfilter⟩ := h
  rw [Log.Config.filter, hdirectives] at hfilter
  dsimp only at hfilter
  rw [htorn] at hfilter
  cases hfilter

theorem Settings.fallbackPath_eq_error {s : Settings} {environment : Environment} {e : SettingsError}
    (h : s.fallbackPath environment = .error e) :
    e = .notFound fallbackName ∧ s.fallback = none ∧ environment.dataDirectory? = none := by
  unfold fallbackPath at h
  split at h
  · cases h
  · cases h
  · cases h
    exact ⟨rfl, ‹_›, ‹_›⟩

/-! ### Making a provider -/

namespace Provider

variable {ρ : Type} {environment : Environment} {s : Settings} {p : Provider ρ}

/-- What a provider takes over from settings, and from the surroundings that it is made in. -/
structure Follows (p : Provider ρ) (environment : Environment) (s : Settings) : Prop where
  space : p.space = s.space
  level : p.level = s.security
  fallback : s.fallbackPath environment = .ok p.fallback
  platform : p.platform = .current
  detect : p.detect = .keyring environment.session?

theorem follows_of_settings (h : ofSettings environment s = .ok p) : p.Follows environment s := by
  unfold ofSettings at h
  split at h
  · cases h
  · split at h
    · cases h
    · cases h
      exact ⟨rfl, rfl, ‹_›, rfl, rfl⟩

/-- Valid settings are refused only for want of a place for the file. -/
theorem fallbackPath_of_error {e : SettingsError} (hvalid : s.validate = .ok ())
    (h : (ofSettings environment s : Except SettingsError (Provider ρ)) = .error e) :
    s.fallbackPath environment = .error e := by
  unfold ofSettings at h
  split at h
  · rename_i e' hinvalid
    cases hvalid.symm.trans hinvalid
  · split at h
    · cases h
      assumption
    · cases h

end Provider

/-- Settings from which a provider is made wherever there is a place for its file, and whose filter is
read. -/
structure Settings.Usable (ρ : Type) (s : Settings) : Prop where
  provider : ∀ environment e,
    (Provider.ofSettings environment s : Except SettingsError (Provider ρ)) = .error e →
      e = .notFound fallbackName ∧ s.fallback = none ∧ environment.dataDirectory? = none
  filter : ∃ f, s.logging.config.filter = .ok f

theorem Settings.usable_of_validate {ρ : Type} {s : Settings} (h : s.validate = .ok ()) :
    s.Usable ρ where
  provider _ _ he := fallbackPath_eq_error (Provider.fallbackPath_of_error h he)
  filter := LogSettings.filter_of_validate (logging_of_validate h)

end Strongbox
