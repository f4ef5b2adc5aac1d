import Strongbox.Proofs.Call
import Strongbox.Proofs.Native.Map
import Strongbox.Proofs.NativeKey
import Strongbox.Proofs.Secret.RoundTrip
import Strongbox.Proofs.SecretStore
/-! Stores that were opened for a kind of secret over a native store that keeps a map, and what each
of their calls does to that map. -/
namespace Strongbox

namespace SecretKind

def Content : SecretKind → Type
  | credential => Credential
  | token => Token
  | tokenPair => TokenPair

def format : (kind : SecretKind) → SecretFormat kind.Content
  | credential => Credential.xml
  | token => Token.xml
  | tokenPair => TokenPair.xml

/-- A secret of the kind among all secrets. -/
def secret : (kind : SecretKind) → kind.Content → Secret
  | credential => .credential
  | token => .token
  | tokenPair => .tokenPair

@[simp] theorem kind_secret (kind : SecretKind) (a : kind.Content) : (kind.secret a).kind = kind := by
  cases kind <;> rfl

theorem typeName_format (kind : SecretKind) : kind.format.typeName = kind.typeName := by
  cases kind <;> rfl

theorem serialize_format (kind : SecretKind) (a : kind.Content) :
    kind.format.serialize a = .ok (kind.secret a).encodeDocument := by
  cases kind <;> rfl

theorem decode_format (kind : SecretKind) (text : String) :
    Secret.decode kind text = kind.secret <$> kind.format.deserialize text := by
  cases kind <;> rfl

theorem isComponent_typeName (kind : SecretKind) : NativeKey.isComponent kind.typeName = true := by
  cases kind <;> decide

theorem isComponent_format (kind : SecretKind) : NativeKey.isComponent kind.format.typeName = true := by
  rw [typeName_format]
  exact kind.isComponent_typeName

theorem typeName_injective {kind kind' : SecretKind} (h : kind.typeName = kind'.typeName) :
    kind = kind' := by
  revert h
  cases kind <;> cases kind' <;> decide

end SecretKind

/-- Where a store keeps a secret: nothing else tells two secrets apart. -/
structure Place where
  space : String
  kind : SecretKind
  key : String
  deriving DecidableEq, Repr

/-- A store that could be opened. -/
structure Opened {σ : Type} (native : NativeStore σ) where
  space : String
  kind : SecretKind
  store : SecretStore σ kind.Content
  made : SecretStore.make native space kind.format = .ok store

namespace Opened

variable {σ : Type} {native : NativeStore σ} {shows : σ → BlobMap → Prop}

def place (s : Opened native) (key : String) : Place := ⟨s.space, s.kind, key⟩

def nativeKey (s : Opened native) (key : String) : NativeKey := s.store.nativeKey key

theorem native_store (s : Opened native) : s.store.native = native :=
  (SecretStore.make_eq_ok s.made).1

theorem format_store (s : Opened native) : s.store.format = s.kind.format :=
  (SecretStore.make_eq_ok s.made).2.2

theorem space_nativeKey (s : Opened native) (key : String) : (s.nativeKey key).space = s.space :=
  (SecretStore.make_eq_ok s.made).2.1

theorem typeName_nativeKey (s : Opened native) (key : String) :
    (s.nativeKey key).typeName = s.kind.typeName :=
  (congrArg SecretFormat.typeName s.format_store).trans s.kind.typeName_format

/-- Native keys are the same just where the places are. -/
theorem nativeKey_eq_iff (s s' : Opened native) (key key' : String) :
    s.nativeKey key = s'.nativeKey key' ↔ s.place key = s'.place key' := by
  constructor
  · intro h
    have hspace := congrArg NativeKey.space h
    have htype := congrArg NativeKey.typeName h
    have hkey : key = key' := congrArg NativeKey.key h
    rw [space_nativeKey, space_nativeKey] at hspace
    rw [typeName_nativeKey, typeName_nativeKey] at htype
    rw [place, hspace, SecretKind.typeName_injective htype, hkey, place]
  · intro h
    have hspace := congrArg Place.space h
    have hkind := congrArg Place.kind h
    refine NativeKey.ext ?_ ?_ (congrArg Place.key h)
    · rw [space_nativeKey, space_nativeKey]
      exact hspace
    · rw [typeName_nativeKey, typeName_nativeKey]
      exact congrArg SecretKind.typeName hkind

theorem get_store (s : Opened native) (key : String) (w : σ) :
    s.store.native.get (s.store.nativeKey key) w = native.get (s.nativeKey key) w := by
  rw [native_store]
  rfl

/-- What a store reads and changes is what its one native call reads and changes. -/
theorem tryAdd_eq (s : Opened native) (key : String) (a : s.kind.Content) :
    s.store.tryAdd key a = native.put (s.nativeKey key) (s.kind.secret a).encodeDocument := by
  funext w
  rw [SecretStore.tryAdd, format_store, SecretKind.serialize_format, native_store]
  rfl

theorem tryDelete_eq (s : Opened native) (key : String) :
    s.store.tryDelete key = native.delete (s.nativeKey key) := by
  rw [SecretStore.tryDelete, native_store]
  rfl

theorem after_tryGet (s : Opened native) (key : String) (w : σ) :
    Call.after (s.store.tryGet key w) = Call.after (native.get (s.nativeKey key) w) := by
  rw [SecretStore.tryGet, native_store, nativeKey]
  cases native.get (s.store.nativeKey key) w with
  | error e w' => rfl
  | ok found w' =>
      cases found with
      | none => rfl
      | some blob =>
          dsimp only
          split <;> rfl

theorem after_get (s : Opened native) (key : String) (w : σ) :
    (s.store.get key w).2 = Call.after (native.get (s.nativeKey key) w) := by
  rw [← s.after_tryGet]
  cases htry : s.store.tryGet key w with
  | ok found w' => rw [s.store.get_of_ok htry, Call.after_ok]
  | error e w' => rw [s.store.get_of_error htry, Call.after_error]

theorem after_add (s : Opened native) (key : String) (a : s.kind.Content) (w : σ) :
    (s.store.add key a w).2 =
      Call.after (native.put (s.nativeKey key) (s.kind.secret a).encodeDocument w) := by
  rw [← s.tryAdd_eq, SecretStore.add]
  cases s.store.tryAdd key a w <;> rfl

theorem after_delete (s : Opened native) (key : String) (w : σ) :
    (s.store.delete key w).2 = Call.after (native.delete (s.nativeKey key) w) := by
  rw [← s.tryDelete_eq, SecretStore.delete]
  cases s.store.tryDelete key w <;> rfl

/-- An add that answers `true` has written the document of the secret; any other wrote nothing. -/
theorem add_shows (h : native.Keeps shows) (s : Opened native) {w : σ} {m : BlobMap}
    (hw : shows w m) (key : String) (a : s.kind.Content) :
    shows (s.store.add key a w).2 (if (s.store.add key a w).1.value = true then
      Function.update m (s.nativeKey key) (some (s.kind.secret a).encodeDocument) else m) := by
  have hput := h.put hw (s.nativeKey key) (s.kind.secret a).encodeDocument
  rw [SecretStore.add, s.tryAdd_eq]
  cases hcall : native.put (s.nativeKey key) (s.kind.secret a).encodeDocument w with
  | ok _ w' =>
      rw [hcall] at hput
      exact hput
  | error e w' =>
      rw [hcall] at hput
      exact hput

/-- A delete that answers `true` has removed what was there, if anything was. -/
theorem delete_shows (h : native.Keeps shows) (s : Opened native) {w : σ} {m : BlobMap}
    (hw : shows w m) (key : String) :
    shows (s.store.delete key w).2 (if (s.store.delete key w).1.value = true then
      Function.update m (s.nativeKey key) none else m) := by
  have hdelete := h.delete hw (s.nativeKey key)
  rw [SecretStore.delete, s.tryDelete_eq]
  cases hcall : native.delete (s.nativeKey key) w with
  | ok existed w' =>
      rw [hcall] at hdelete
      exact hdelete.2
  | error e w' =>
      rw [hcall] at hdelete
      exact hdelete

/-- What a read makes of the blob that it finds. -/
def decoded (s : Opened native) : Option String → Except SecretError (Option s.kind.Content)
  | none => .ok none
  | some blob => some <$> s.kind.format.deserialize blob

theorem tryGet_of_found (s : Opened native) {key : String} {w w' : σ} {found : Option String}
    (hread : native.get (s.nativeKey key) w = .ok found w') :
    s.store.tryGet key w = match s.decoded found with
      | .ok a => .ok a w'
      | .error e => .error e w' := by
  rw [← s.get_store] at hread
  cases found with
  | none => rw [s.store.tryGet_of_absent hread, decoded]
  | some blob =>
      rw [decoded]
      cases hblob : s.kind.format.deserialize blob with
      | ok a =>
          rw [← s.format_store] at hblob
          exact s.store.tryGet_of_decoded hread hblob
      | error e =>
          rw [← s.format_store] at hblob
          exact s.store.tryGet_of_undecodable hread hblob

theorem tryGet_of_error (s : Opened native) {key : String} {w w' : σ} {e : SecretError}
    (hread : native.get (s.nativeKey key) w = .error e w') :
    s.store.tryGet key w = .error e w' :=
  s.store.tryGet_of_failed ((s.get_store key w).trans hread)

/-- A read that does not fail gives what the blob decodes to, and nothing if it does not decode. -/
theorem get_of_found (s : Opened native) {key : String} {w w' : σ} {found : Option String}
    (hread : native.get (s.nativeKey key) w = .ok found w') :
    (s.store.get key w).1.value.map s.kind.secret =
      found.bind (fun blob => (Secret.decode s.kind blob).toOption) := by
  rw [s.store.value_get, s.tryGet_of_found hread]
  cases found with
  | none => rfl
  | some blob =>
      rw [decoded, Option.bind_some, SecretKind.decode_format]
      cases s.kind.format.deserialize blob <;> rfl

/-- A read that fails looks like one that finds nothing. -/
theorem get_of_failed (s : Opened native) {key : String} {w w' : σ} {e : SecretError}
    (hread : native.get (s.nativeKey key) w = .error e w') :
    (s.store.get key w).1.value = none := by
  rw [s.store.value_get, s.tryGet_of_error hread]
  rfl

/-- Reading changes nothing, whether it succeeds or not. -/
theorem get_shows (h : native.Keeps shows) (s : Opened native) {w : σ} {m : BlobMap}
    (hw : shows w m) (key : String) : shows (s.store.get key w).2 m := by
  have hget := h.get hw (s.nativeKey key)
  rw [s.after_get]
  cases hread : native.get (s.nativeKey key) w with
  | ok found w' =>
      rw [hread] at hget
      exact hget.2
  | error e w' =>
      rw [hread] at hget
      exact hget

end Opened
end Strongbox
