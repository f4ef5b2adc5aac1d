import Strongbox.Proofs.Secret.Plain
import Strongbox.Proofs.SecretStore.History
/-! The ways by which a program comes by a secret: it makes one, reads one from a document, finds one in
a store, or attaches parameters to a pair that it has. Whatever the way, the rules for tokens were checked
on it. -/
namespace Strongbox

open PlainSecret (Checked)

/-- A way to a secret. A native store may hold any blobs, of anybody's making. -/
inductive Provenance {σ : Type} (native : NativeStore σ) where
  | credential (username password : Option String)
  | token (value : String) (type : TokenType) (target : Uuid)
  | named (value typeName : String)
  | pair (access refresh : String)
  | document (kind : SecretKind) (text : String)
  | get (s : Opened native) (key : String) (w : σ)
  | tryGet (s : Opened native) (key : String) (w : σ)
  | withParameters (first : Provenance native) (parameters : List (String × String))

namespace Provenance

open Outcome SecretStore

variable {σ : Type} {native : NativeStore σ} {shows : σ → BlobMap → Prop}

/-- The secret at the end of the way, if it leads to one. -/
def result : Provenance native → Option Secret
  | credential username password => some (.credential (.ofParts username password))
  | token value type target => (Token.make value type target).toOption.map .token
  | named value typeName => (Token.ofFriendlyName value typeName).toOption.map .token
  | pair access refresh => (TokenPair.make access refresh).toOption.map .tokenPair
  | document kind text => (Secret.decode kind text).toOption
  | get s key w => (s.store.get key w).1.value.map s.kind.secret
  | tryGet s key w => (Call.answer? (s.store.tryGet key w)).join.map s.kind.secret
  | withParameters first parameters => first.result.bind (Secret.withParameters parameters)

/-- What lies under the native key of a secret, if the native store answers. -/
def blob? (s : Opened native) (key : String) (w : σ) : Option String :=
  (Call.answer? (native.get (s.nativeKey key) w)).join

/-- What the secret is to be made of, if there is anything to make it of. -/
def material? : Provenance native → Option PlainSecret
  | credential username password => some (.credential (username.getD "") (password.getD ""))
  | token value type target => some (.token ⟨type, value, target⟩)
  | named value typeName => do
    let type ← (TokenType.ofFriendlyName typeName).toOption
    return .token ⟨type, value, Uuid.nil⟩
  | pair access refresh => some (.granted access refresh)
  | document kind text => PlainSecret.ofDocument? kind text
  | get s key w | tryGet s key w => (blob? s key w).bind (PlainSecret.ofDocument? s.kind)
  | withParameters first parameters => first.material?.bind (PlainSecret.withParameters parameters)

theorem result_get_eq (s : Opened native) (key : String) (w : σ) :
    (get s key w).result = (tryGet s key w).result := by
  rw [result, result, s.store.value_get]

theorem result_get (s : Opened native) (key : String) (w : σ) :
    (get s key w).result = (blob? s key w).bind fun blob => (Secret.decode s.kind blob).toOption := by
  rw [result, blob?]
  cases hread : native.get (s.nativeKey key) w with
  | ok found w' =>
      rw [s.get_of_found hread]
      rfl
  | error e w' =>
      rw [s.get_of_failed hread]
      rfl

/-- No way to a secret leaves out a check of the rules, and none adds a check. -/
theorem checked (way : Provenance native) : Checked way.result way.material? := by
  induction way with
  | credential username password => exact .made (.credential _) trivial
  | token value type target => exact .of_make value type target
  | named value typeName =>
      rw [result, Token.ofFriendlyName, toOption_bind, Option.map_bind]
      exact .bind _ fun type => .of_make value type Uuid.nil
  | pair access refresh => exact .of_makePair access refresh
  | document kind text => exact .of_document kind text
  | get s key w =>
      rw [result_get]
      exact .bind _ fun blob => .of_document s.kind blob
  | tryGet s key w =>
      rw [← result_get_eq, result_get]
      exact .bind _ fun blob => .of_document s.kind blob
  | withParameters first parameters ih => exact ih.withParameters parameters

/-- After an add that was the last to take effect at a place, a read gives the secret that was added, or
nothing where the native store fails it. -/
theorem result_get_after (h : native.Keeps shows) {w : σ} {m : BlobMap} (hw : shows w m)
    (steps : List (Step native shows)) (s : Opened native) {key : String} {x : Secret}
    (hlast : lastEffect? (s.place key) (run w steps).1 = some (some x)) :
    (get s key (run w steps).2).result =
      (Call.answer? (native.get (s.nativeKey key) (run w steps).2)).map fun _ => x.persisted := by
  obtain ⟨m', hshows, hleft⟩ := run_left h hw steps
  have hblob := hleft s key
  have hfound := h.get hshows (s.nativeKey key)
  have hkind : x.kind = s.kind := kind_of_lastEffect hlast
  rw [hlast, blobAfter] at hblob
  rw [result_get, blob?]
  cases hread : native.get (s.nativeKey key) (run w steps).2 with
  | error e w' => rfl
  | ok found w' =>
      rw [hread] at hfound
      obtain rfl : found = some x.encodeDocument := hfound.1.trans hblob
      rw [← hkind]
      change (Secret.decode x.kind x.encodeDocument).toOption = some x.persisted
      rw [x.decode_encodeDocument]
      rfl

theorem sound_of_result {way : Provenance native} {s : Secret} (h : way.result = some s) :
    s.plain.Sound := by
  have hchecked := way.checked
  rw [h] at hchecked
  exact hchecked.sound

end Provenance

open Outcome SecretStore

/-- What holds of every secret that a program comes by over a native store. -/
structure Ruled {σ : Type} (native : NativeStore σ) : Prop where
  /-- No way to a secret leaves out a rule, and none makes a rule of its own. -/
  checked : ∀ way : Provenance native, Checked way.result way.material?
  token : ∀ (way : Provenance native) (t : Token), way.result = some (.token t) →
    Text.isBlank t.value = false
  pair : ∀ (way : Provenance native) (p : TokenPair), way.result = some (.tokenPair p) →
    (p.access.type = .access ∧ Text.isBlank p.access.value = false ∧ p.access.target = Uuid.nil) ∧
      p.refresh.type = .refresh ∧ Text.isBlank p.refresh.value = false ∧ p.refresh.target = Uuid.nil
  validate_fails : ∀ (way : Provenance native) (s : Secret), way.result = some s →
    ((∃ e, s.validate = .error e) ↔ s.plain.TooLong)
  /-- The first text that is too long is named. -/
  validate_eq : ∀ (way : Provenance native) (s : Secret), way.result = some s →
    s.validate = s.plain.lengths
  validate_ne_blank : ∀ (way : Provenance native) (s : Secret), way.result = some s →
    s.validate ≠ .error (.validation "the token value cannot be empty")
  /-- A secret that was stored passes `validate` when it is read just if it did so before. -/
  read_back : ∀ {shows : σ → BlobMap → Prop}, native.Keeps shows → ∀ {w : σ} {m : BlobMap}, shows w m →
    ∀ (steps : List (Step native shows)) (s : Opened native) (key : String) (x : Secret),
      lastEffect? (s.place key) (run w steps).1 = some (some x) →
        ∀ way ∈ [Provenance.get s key (run w steps).2, .tryGet s key (run w steps).2],
          (∀ found w', native.get (s.nativeKey key) (run w steps).2 = .ok found w' →
            way.result = some x.persisted) ∧
          ∀ y, way.result = some y → y = x.persisted ∧ y.validate = x.validate

/-- Secrets keep their rules on every way that leads to them. -/
theorem ruled {σ : Type} (native : NativeStore σ) : Ruled native := by
  refine ⟨Provenance.checked, ?_, ?_, ?_, ?_, ?_, ?_⟩
  · intro way t h
    exact Provenance.sound_of_result h
  · intro way p h
    obtain ⟨haccess, hrefresh⟩ := Provenance.sound_of_result h
    exact ⟨⟨haccess.type, haccess.value, haccess.target⟩,
      hrefresh.type, hrefresh.value, hrefresh.target⟩
  · intro way s _
    exact s.validate_eq_error
  · intro way s _
    exact s.validate_eq_lengths
  · intro way s _ h
    rw [s.validate_eq_lengths] at h
    have hreason := PlainSecret.lengths_eq_error h
    revert hreason
    decide
  · intro shows hkeeps w m hw steps s key x hlast
    have hget := Provenance.result_get_after hkeeps hw steps s hlast
    have hboth : ∀ way ∈ [Provenance.get s key (run w steps).2, .tryGet s key (run w steps).2],
        way.result = (Provenance.get s key (run w steps).2).result := by
      simp [Provenance.result_get_eq]
    intro way hway
    rw [hboth way hway, hget]
    constructor
    · intro found w' hread
      rw [hread]
      rfl
    · intro y hy
      obtain ⟨-, -, rfl⟩ := Option.map_eq_some_iff.1 hy
      exact ⟨rfl, x.validate_persisted⟩

/-- A token of blanks that somebody left in a store is not handed out, a username may be too long, and
what was added comes back. -/
theorem ruled_memory :
    let native := MemoryStore.native true
    let left := "<value><Type>Access</Type><Value> </Value></value>"
    let start : MemoryStore := ⟨[(memoryTokens.nativeKey "old", left)], false⟩
    let kept : Token := ⟨.access, "AbC", Uuid.nil, by decide⟩
    let steps : List (Step native MemoryStore.Shows) := [.add memoryTokens "new" kept]
    let long : Credential := ⟨String.ofList (List.replicate 512 'u'), ""⟩
    (Provenance.get memoryTokens "old" start).result = none ∧
      (Provenance.tryGet memoryTokens "new" (run start steps).2).result = some (.token kept) ∧
      (Secret.token kept).validate = .ok () ∧ ∃ e, (Secret.credential long).validate = .error e := by
  intro native left start kept steps long
  have hruled := ruled native
  have hshows : start.Shows fun key => start.lookup key := fun _ => rfl
  have hparse : Xml.Element.parse left = .ok ⟨"value", [("Type", "Access"), ("Value", " ")]⟩ :=
    Xml.Element.parse_of_render (by decide +kernel) (by decide)
  have hmaterial : PlainSecret.ofDocument? .token left = some (.token ⟨.access, " ", Uuid.nil⟩) := by
    rw [PlainSecret.ofDocument?, hparse]
    rfl
  refine ⟨?_, ?_, Token.validate_eq_ok.2 (by decide), ?_⟩
  · have hchecked := hruled.checked (.get memoryTokens "old" start)
    change Checked _ (PlainSecret.ofDocument? .token left) at hchecked
    rw [hmaterial] at hchecked
    exact hchecked.eq_none (show ¬ Text.isBlank " " = false by decide)
  · have hback := hruled.read_back (MemoryStore.keeps true) hshows steps memoryTokens "new" (.token kept) rfl
      (.tryGet memoryTokens "new" (run start steps).2) (by simp)
    exact hback.1 (some (Secret.token kept).encodeDocument) (run start steps).2 (by rfl)
  · refine (hruled.validate_fails (.credential (some long.username) (some long.password)) _ rfl).2 ?_
    have hlength : long.username.length = 512 := by
      rw [String.length_ofList, List.length_replicate]
    exact .inr (show 511 < long.username.length by omega)

end Strongbox
