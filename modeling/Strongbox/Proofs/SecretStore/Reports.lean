import Mathlib.Data.List.Forall2
import Strongbox.Proofs.Native.Memory
import Strongbox.Proofs.SecretStore.Opened
/-! What the contents of secrets have to do with the log: nothing. Two runs that add different secrets
of the same kinds at the same places report the same events and give callers the same answers, as far
as an answer is no secret itself. -/
namespace Strongbox

open Log

/-- What a call tells its caller, less the secret that it may hand out. -/
inductive Reply where
  | accepted (answer : Bool)
  | read (there : Bool)
  | tried (result : Except SecretError Bool)

/-- How a call failed, if it did. -/
def failureOf {ε σ α : Type} : EStateM.Result ε σ α → Option ε
  | .ok _ _ => none
  | .error e _ => some e

/-- A call through a store that could be opened, or something else that happens to the native store
and changes none of its blobs. -/
inductive Request {σ : Type} (native : NativeStore σ) (shows : σ → BlobMap → Prop) where
  | add (s : Opened native) (key : String) (a : s.kind.Content)
  | get (s : Opened native) (key : String)
  | tryGet (s : Opened native) (key : String)
  | delete (s : Opened native) (key : String)
  | outside (change : σ → σ) (harmless : ∀ {w m}, shows w m → shows (change w) m)

namespace Request

variable {σ : Type} {native : NativeStore σ} {shows : σ → BlobMap → Prop}

/-- Events and reply of a request, and the state after it. -/
def run (w : σ) : Request native shows → List (Logged Reply) × σ
  | .add s key a => ([(s.store.add key a w).1.map .accepted], (s.store.add key a w).2)
  | .get s key =>
    ([(s.store.get key w).1.map fun found => .read found.isSome], (s.store.get key w).2)
  | .tryGet s key => match s.store.tryGet key w with
    | .ok found w => ([⟨.tried (.ok found.isSome), []⟩], w)
    | .error e w => ([⟨.tried (.error e), []⟩], w)
  | .delete s key => ([(s.store.delete key w).1.map .accepted], (s.store.delete key w).2)
  | .outside change _ => ([], change w)

/-- How the native call of a request fails. -/
def nativeFailure (w : σ) : Request native shows → Option SecretError
  | .add s key a => failureOf (native.put (s.nativeKey key) (s.kind.secret a).encodeDocument w)
  | .get s key => failureOf (native.get (s.nativeKey key) w)
  | .tryGet s key => failureOf (native.get (s.nativeKey key) w)
  | .delete s key => failureOf (native.delete (s.nativeKey key) w)
  | .outside _ _ => none

def runAll (w : σ) : List (Request native shows) → List (Logged Reply) × σ
  | [] => ([], w)
  | request :: later =>
    let rest := runAll (request.run w).2 later
    ((request.run w).1 ++ rest.1, rest.2)

/-- Which native calls of a run fail, and how. -/
def nativeFailures (w : σ) : List (Request native shows) → List (Option SecretError)
  | [] => []
  | request :: later => request.nativeFailure w :: nativeFailures (request.run w).2 later

/-- The same request, but perhaps with another secret of the same kind. -/
inductive Alike : Request native shows → Request native shows → Prop
  | same (request : Request native shows) : Alike request request
  | added (s : Opened native) (key : String) (a a' : s.kind.Content) :
      Alike (.add s key a) (.add s key a')

end Request

/-- Two maps that differ only in what secrets of one kind are written under a key of that kind. -/
def Veiled (m m' : BlobMap) : Prop := ∀ key : NativeKey, m key = m' key ∨
  ∃ s s' : Secret, s.kind = s'.kind ∧ s.kind.typeName = key.typeName ∧
    m key = some s.encodeDocument ∧ m' key = some s'.encodeDocument

namespace Veiled

variable {m m' : BlobMap}

theorem refl (m : BlobMap) : Veiled m m := fun _ => .inl rfl

theorem isSome_eq (h : Veiled m m') (key : NativeKey) : (m key).isSome = (m' key).isSome := by
  rcases h key with hsame | ⟨s, s', -, -, hs, hs'⟩
  · rw [hsame]
  · rw [hs, hs']
    rfl

theorem add (h : Veiled m m') {key : NativeKey} {s s' : Secret} (hkind : s.kind = s'.kind)
    (hkey : s.kind.typeName = key.typeName) :
    Veiled (Function.update m key (some s.encodeDocument))
      (Function.update m' key (some s'.encodeDocument)) := by
  intro other
  by_cases hother : other = key
  · subst hother
    rw [Function.update_self, Function.update_self]
    exact .inr ⟨s, s', hkind, hkey, rfl, rfl⟩
  · rw [Function.update_of_ne hother, Function.update_of_ne hother]
    exact h other

theorem remove (h : Veiled m m') (key : NativeKey) :
    Veiled (Function.update m key none) (Function.update m' key none) := by
  intro other
  by_cases hother : other = key
  · subst hother
    rw [Function.update_self, Function.update_self]
    exact .inl rfl
  · rw [Function.update_of_ne hother, Function.update_of_ne hother]
    exact h other

end Veiled

namespace SecretKind

/-- A document of the kind is always decoded, to what is kept of the secret. -/
theorem deserialize_encodeDocument {kind : SecretKind} {s : Secret} (h : s.kind = kind) :
    ∃ a, kind.format.deserialize s.encodeDocument = .ok a ∧ kind.secret a = s.persisted := by
  have hdecode := s.decode_encodeDocument
  rw [h, decode_format] at hdecode
  cases hblob : kind.format.deserialize s.encodeDocument with
  | ok a =>
      rw [hblob] at hdecode
      exact ⟨a, rfl, Except.ok.inj hdecode⟩
  | error e =>
      rw [hblob] at hdecode
      cases hdecode

end SecretKind

namespace Opened

variable {σ : Type} {native : NativeStore σ}

/-- Whether a blob is decoded, and how it fails to be, is the same behind a veil. -/
theorem decoded_of_veiled (s : Opened native) {m m' : BlobMap} (h : Veiled m m') (key : String) :
    (s.decoded (m (s.nativeKey key))).map Option.isSome =
      (s.decoded (m' (s.nativeKey key))).map Option.isSome := by
  rcases h (s.nativeKey key) with hsame | ⟨secret, secret', hkind, hkey, hs, hs'⟩
  · rw [hsame]
  · rw [typeName_nativeKey] at hkey
    have hown := SecretKind.typeName_injective hkey
    obtain ⟨a, ha, -⟩ := SecretKind.deserialize_encodeDocument hown
    obtain ⟨a', ha', -⟩ := SecretKind.deserialize_encodeDocument (hkind.symm.trans hown)
    rw [hs, hs', decoded, decoded, ha, ha']
    rfl

end Opened

namespace Request

variable {σ : Type} {native : NativeStore σ} {shows : σ → BlobMap → Prop} {w w' : σ} {m m' : BlobMap}

/-- Where two calls fail in the same way, both give a value or both give one error. -/
theorem sameOutcome {ε α : Type} {r r' : EStateM.Result ε σ α} (h : failureOf r = failureOf r') :
    (∃ a w a' w', r = .ok a w ∧ r' = .ok a' w') ∨ ∃ e w w', r = .error e w ∧ r' = .error e w' := by
  cases r with
  | ok a w =>
      cases r' with
      | ok a' w' => exact .inl ⟨a, w, a', w', rfl, rfl⟩
      | error e' w' => cases h
  | error e w =>
      cases r' with
      | ok a' w' => cases h
      | error e' w' =>
          cases h
          exact .inr ⟨e, w, w', rfl, rfl⟩

/-- Two states that show maps which differ only behind a veil. -/
def Veils (shows : σ → BlobMap → Prop) (w w' : σ) : Prop :=
  ∃ m m', shows w m ∧ shows w' m' ∧ Veiled m m'

/-- What is seen of a read, and of the state after it only that. -/
def outcome {α : Type} : EStateM.Result SecretError σ (Option α) → Except SecretError Bool
  | .ok found _ => .ok found.isSome
  | .error e _ => .error e

theorem tryGet_alike (h : native.Keeps shows) (hw : shows w m) (hw' : shows w' m')
    (hveiled : Veiled m m') (s : Opened native) (key : String)
    (hfail : failureOf (native.get (s.nativeKey key) w) =
      failureOf (native.get (s.nativeKey key) w')) :
    outcome (s.store.tryGet key w) = outcome (s.store.tryGet key w') ∧
      Veils shows (Call.after (s.store.tryGet key w)) (Call.after (s.store.tryGet key w')) := by
  have hget := h.get hw (s.nativeKey key)
  have hget' := h.get hw' (s.nativeKey key)
  rcases sameOutcome hfail with ⟨found, w₁, found', w₁', hread, hread'⟩ |
    ⟨e, w₁, w₁', hread, hread'⟩
  · rw [hread] at hget
    rw [hread'] at hget'
    obtain ⟨rfl, hshows⟩ := hget
    obtain ⟨rfl, hshows'⟩ := hget'
    have hdecoded := s.decoded_of_veiled hveiled key
    rw [s.tryGet_of_found hread, s.tryGet_of_found hread']
    cases hblob : s.decoded (m (s.nativeKey key)) with
    | ok a =>
        cases hblob' : s.decoded (m' (s.nativeKey key)) with
        | ok a' =>
            rw [hblob, hblob'] at hdecoded
            exact ⟨hdecoded, m, m', hshows, hshows', hveiled⟩
        | error e' =>
            rw [hblob, hblob'] at hdecoded
            cases hdecoded
    | error e =>
        cases hblob' : s.decoded (m' (s.nativeKey key)) with
        | ok a' =>
            rw [hblob, hblob'] at hdecoded
            cases hdecoded
        | error e' =>
            rw [hblob, hblob'] at hdecoded
            cases hdecoded
            exact ⟨rfl, m, m', hshows, hshows', hveiled⟩
  · rw [hread] at hget
    rw [hread'] at hget'
    rw [s.tryGet_of_error hread, s.tryGet_of_error hread']
    exact ⟨rfl, m, m', hget, hget', hveiled⟩

/-- What `get` tells of a read, as far as it tells. -/
def readReport (s : Opened native) (key : String) : Except SecretError Bool → Logged Reply
  | .ok there => ⟨.read there, []⟩
  | .error e =>
    let span := s.store.spanOf "store.get" key
    ⟨.read false, [if e.isDataError then
        s.store.failure .warn "Stored secret could not be decoded, treating it as absent" key e span
      else s.store.failure .error "Failed to read secret" key e span]⟩

theorem run_get (s : Opened native) (key : String) (w : σ) :
    run w (.get s key : Request native shows) =
      ([readReport s key (outcome (s.store.tryGet key w))], Call.after (s.store.tryGet key w)) := by
  rw [run]
  cases htry : s.store.tryGet key w with
  | ok found w' =>
      rw [s.store.get_of_ok htry]
      rfl
  | error e w' =>
      rw [s.store.get_of_error htry]
      rfl

theorem run_tryGet (s : Opened native) (key : String) (w : σ) :
    run w (.tryGet s key : Request native shows) =
      ([⟨.tried (outcome (s.store.tryGet key w)), []⟩], Call.after (s.store.tryGet key w)) := by
  simp only [run]
  cases hread : s.store.tryGet key w with
  | ok found w' => rfl
  | error e w' => rfl

theorem add_alike (h : native.Keeps shows) (hw : shows w m) (hw' : shows w' m')
    (hveiled : Veiled m m') (s : Opened native) (key : String) (a a' : s.kind.Content)
    (hfail : nativeFailure w (.add s key a : Request native shows) =
      nativeFailure w' (.add s key a' : Request native shows)) :
    (run w (.add s key a : Request native shows)).1 =
        (run w' (.add s key a' : Request native shows)).1 ∧
      Veils shows (run w (.add s key a : Request native shows)).2
        (run w' (.add s key a' : Request native shows)).2 := by
  have hput := h.put hw (s.nativeKey key) (s.kind.secret a).encodeDocument
  have hput' := h.put hw' (s.nativeKey key) (s.kind.secret a').encodeDocument
  simp only [run, SecretStore.add, s.tryAdd_eq]
  rcases sameOutcome hfail with ⟨⟨⟩, w₁, ⟨⟩, w₁', hcall, hcall'⟩ | ⟨e, w₁, w₁', hcall, hcall'⟩
  · rw [hcall] at hput ⊢
    rw [hcall'] at hput' ⊢
    refine ⟨rfl, _, _, hput, hput', hveiled.add ?_ ?_⟩
    · rw [SecretKind.kind_secret, SecretKind.kind_secret]
    · rw [SecretKind.kind_secret, s.typeName_nativeKey]
  · rw [hcall] at hput ⊢
    rw [hcall'] at hput' ⊢
    exact ⟨rfl, m, m', hput, hput', hveiled⟩

theorem delete_alike (h : native.Keeps shows) (hw : shows w m) (hw' : shows w' m')
    (hveiled : Veiled m m') (s : Opened native) (key : String)
    (hfail : nativeFailure w (.delete s key : Request native shows) =
      nativeFailure w' (.delete s key : Request native shows)) :
    (run w (.delete s key : Request native shows)).1 =
        (run w' (.delete s key : Request native shows)).1 ∧
      Veils shows (run w (.delete s key : Request native shows)).2
        (run w' (.delete s key : Request native shows)).2 := by
  have hdelete := h.delete hw (s.nativeKey key)
  have hdelete' := h.delete hw' (s.nativeKey key)
  simp only [run, SecretStore.delete, s.tryDelete_eq]
  rcases sameOutcome hfail with ⟨existed, w₁, existed', w₁', hcall, hcall'⟩ |
    ⟨e, w₁, w₁', hcall, hcall'⟩
  · rw [hcall] at hdelete ⊢
    rw [hcall'] at hdelete' ⊢
    obtain ⟨rfl, hshows⟩ := hdelete
    obtain ⟨rfl, hshows'⟩ := hdelete'
    rw [hveiled.isSome_eq]
    exact ⟨rfl, _, _, hshows, hshows', hveiled.remove _⟩
  · rw [hcall] at hdelete ⊢
    rw [hcall'] at hdelete' ⊢
    exact ⟨rfl, m, m', hdelete, hdelete', hveiled⟩

/-- One step: alike requests over states alike behind the veil report the same and keep them so. -/
theorem run_alike (h : native.Keeps shows) (hveils : Veils shows w w')
    {request request' : Request native shows} (halike : Alike request request')
    (hfail : request.nativeFailure w = request'.nativeFailure w') :
    (request.run w).1 = (request'.run w').1 ∧
      Veils shows (request.run w).2 (request'.run w').2 := by
  obtain ⟨m, m', hw, hw', hveiled⟩ := hveils
  cases halike with
  | added s key a a' => exact add_alike h hw hw' hveiled s key a a' hfail
  | same =>
      cases request with
      | add s key a => exact add_alike h hw hw' hveiled s key a a hfail
      | get s key =>
          obtain ⟨hseen, hafter⟩ := tryGet_alike h hw hw' hveiled s key hfail
          rw [run_get, run_get, hseen]
          exact ⟨rfl, hafter⟩
      | tryGet s key =>
          obtain ⟨hseen, hafter⟩ := tryGet_alike h hw hw' hveiled s key hfail
          rw [run_tryGet, run_tryGet, hseen]
          exact ⟨rfl, hafter⟩
      | delete s key => exact delete_alike h hw hw' hveiled s key hfail
      | outside change harmless => exact ⟨rfl, m, m', harmless hw, harmless hw', hveiled⟩

theorem runAll_of_veils (h : native.Keeps shows) (hveils : Veils shows w w')
    {requests requests' : List (Request native shows)}
    (halike : List.Forall₂ Alike requests requests')
    (hfail : nativeFailures w requests = nativeFailures w' requests') :
    (runAll w requests).1 = (runAll w' requests').1 := by
  induction halike generalizing w w' with
  | nil => rfl
  | cons hfirst _ ih =>
      simp only [nativeFailures, List.cons.injEq] at hfail
      obtain ⟨hreport, hafter⟩ := run_alike h hveils hfirst hfail.1
      simp only [runAll, hreport, ih hafter hfail.2]

/-- Runs that differ only in the secrets that are added, and whose native calls fail alike, tell
their callers the same and report the same events. -/
theorem runAll_alike (h : native.Keeps shows) (hw : shows w m)
    {requests requests' : List (Request native shows)}
    (halike : List.Forall₂ Alike requests requests')
    (hfail : nativeFailures w requests = nativeFailures w requests') :
    (runAll w requests).1 = (runAll w requests').1 :=
  runAll_of_veils h ⟨m, m, hw, hw, .refl m⟩ halike hfail

theorem isComponent_test : NativeKey.isComponent "test" = true := by decide

/-- Credentials of a name space in memory. -/
def memoryCredentials : Opened (MemoryStore.native true) where
  space := "test"
  kind := .credential
  store := ⟨MemoryStore.native true, "test", Credential.xml, isComponent_test, by decide⟩
  made := by rfl

/-- A store in memory that is switched over between two calls. -/
def failing (on : Bool) : Request (MemoryStore.native true) MemoryStore.Shows :=
  .outside (fun w => { w with failing := on }) fun h => h

/-- A password more or less is not told, through a refused call and beside a blob that is junk. -/
theorem runAll_alike_in_memory :
    let start : MemoryStore := ⟨[(memoryCredentials.nativeKey "junk", "junk")], false⟩
    let requests (c : Credential) : List (Request (MemoryStore.native true) MemoryStore.Shows) :=
      [.add memoryCredentials "a" c, .get memoryCredentials "a", .get memoryCredentials "junk",
        failing true, .tryGet memoryCredentials "a", .add memoryCredentials "b" c, failing false,
        .delete memoryCredentials "a"]
    let short : Credential := ⟨"u", ""⟩
    let long : Credential := ⟨"<&>", "</Password>"⟩
    ((MemoryStore.native true).Keeps MemoryStore.Shows ∧
      start.Shows (fun key => start.lookup key) ∧
      List.Forall₂ Alike (requests short) (requests long) ∧
      nativeFailures start (requests short) = nativeFailures start (requests long)) ∧
    (runAll start (requests short)).1 = (runAll start (requests long)).1 := by
  intro start requests short long
  have hshows : start.Shows fun key => start.lookup key := fun _ => rfl
  have halike : List.Forall₂ Alike (requests short) (requests long) :=
    .cons (.added _ _ _ _) <| .cons (.same _) <| .cons (.same _) <| .cons (.same _) <|
      .cons (.same _) <| .cons (.added _ _ _ _) <| .cons (.same _) <| .cons (.same _) .nil
  have hfail : nativeFailures start (requests short) = nativeFailures start (requests long) := by
    decide +kernel
  exact ⟨⟨MemoryStore.keeps true, hshows, halike, hfail⟩,
    runAll_alike (MemoryStore.keeps true) hshows halike hfail⟩

end Request
end Strongbox
