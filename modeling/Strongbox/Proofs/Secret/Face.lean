import Strongbox.Command.Report
import Strongbox.Proofs.Secret.RoundTrip
/-! What is left of a secret behind the mask: all of it but its password or its values. -/
namespace Strongbox

namespace Secret

/-- The same secrets, but for a password or for the values of tokens. -/
inductive SameFace : Secret → Secret → Prop
  | credential (username password password' : String) :
      SameFace (.credential ⟨username, password⟩) (.credential ⟨username, password'⟩)
  | token {t t' : Token} (type : t'.type = t.type) (target : t'.target = t.target) :
      SameFace (.token t) (.token t')
  | tokenPair (p p' : TokenPair) : SameFace (.tokenPair p) (.tokenPair p')

namespace SameFace

variable {s s' : Secret}

theorem refl (s : Secret) : SameFace s s := by
  cases s with
  | credential c => exact .credential c.username c.password c.password
  | token t => exact .token rfl rfl
  | tokenPair p => exact .tokenPair p p

theorem kind (h : SameFace s s') : s'.kind = s.kind := by
  cases h <;> rfl

theorem persisted (h : SameFace s s') : SameFace s.persisted s'.persisted := by
  cases h with
  | credential username password password' => exact .credential username password password'
  | token type target => exact .token type target
  | tokenPair p p' => exact .tokenPair p.persisted p'.persisted

theorem secretLines (h : SameFace s s') :
    Command.secretLines false s' = Command.secretLines false s := by
  cases h with
  | credential username password password' => rfl
  | @token t t' type target =>
      have hdisplay : t'.display = t.display := congrArg TokenType.friendlyName type
      have htarget : t'.hasTarget = t.hasTarget := congrArg (fun u : Uuid => !u.isNil) target
      simp only [Command.secretLines, hdisplay, htarget, target]
      rfl
  | tokenPair p p' => rfl

/-- What is printed of a secret behind the mask does not tell its values apart, nor their lengths. -/
theorem renderSecret (h : SameFace s s') (format : Command.Format) (key : String) :
    Command.renderSecret format false key s' = Command.renderSecret format false key s := by
  unfold Command.renderSecret
  rw [h.secretLines, h.kind]

end SameFace
end Secret
end Strongbox
