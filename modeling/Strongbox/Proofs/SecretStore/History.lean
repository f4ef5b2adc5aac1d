import Strongbox.Proofs.Native.Memory
import Strongbox.Proofs.SecretStore.Opened
/-! Runs over any number of stores that share a native store. What callers were told is all that is
needed to say what a later read gives back. -/
namespace Strongbox

/-- What a caller is told. An accepted call took effect, any other did nothing. -/
inductive Outcome where
  | added (space key : String) (secret : Secret) (accepted : Bool)
  | read (place : Place) (found : Option Secret)
  | deleted (place : Place) (accepted : Bool)
  deriving DecidableEq, Repr

namespace Outcome

/-- What an outcome means for a place: a new secret, none any more, or nothing. -/
def effect? (place : Place) : Outcome → Option (Option Secret)
  | added space key secret accepted =>
    if accepted = true ∧ ⟨space, secret.kind, key⟩ = place then some (some secret) else none
  | read _ _ => none
  | deleted place' accepted => if accepted = true ∧ place' = place then some none else none

/-- The last effect on a place in a history, oldest outcome first. -/
def lastEffect? (place : Place) (history : List Outcome) : Option (Option Secret) :=
  history.reverse.findSome? (effect? place)

theorem lastEffect?_append (place : Place) (before after : List Outcome) :
    lastEffect? place (before ++ after) = (lastEffect? place after).or (lastEffect? place before) := by
  rw [lastEffect?, List.reverse_append, List.findSome?_append]
  rfl

theorem lastEffect?_singleton (place : Place) (outcome : Outcome) :
    lastEffect? place [outcome] = outcome.effect? place := by
  rw [lastEffect?, List.reverse_singleton, List.findSome?_singleton]

theorem kind_of_effect {place : Place} {outcome : Outcome} {secret : Secret}
    (h : outcome.effect? place = some (some secret)) : secret.kind = place.kind := by
  cases outcome with
  | read _ _ => cases h
  | deleted place' accepted =>
      simp only [effect?] at h
      split at h <;> cases h
  | added space key secret' accepted =>
      simp only [effect?] at h
      split at h
      · rename_i hplace
        cases h
        exact congrArg Place.kind hplace.2
      · cases h

theorem kind_of_lastEffect {place : Place} {history : List Outcome} {secret : Secret}
    (h : lastEffect? place history = some (some secret)) : secret.kind = place.kind := by
  obtain ⟨outcome, -, heffect⟩ := List.exists_of_findSome?_eq_some h
  exact kind_of_effect heffect

/-- Blob that an effect leaves behind. -/
def blobAfter : Option (Option Secret) → Option String → Option String
  | none, before => before
  | some none, _ => none
  | some (some secret), _ => some secret.encodeDocument

theorem blobAfter_or (later earlier : Option (Option Secret)) (before : Option String) :
    blobAfter (later.or earlier) before = blobAfter later (blobAfter earlier before) := by
  rcases later with - | - | secret <;> rfl

/-- Secret that a read finds at a place after a history, by the blob that was there before it. What
does not decode is absent. -/
def secretAfter (place : Place) (history : List Outcome) (before : Option String) : Option Secret :=
  match lastEffect? place history with
  | some effect => effect.map Secret.persisted
  | none => before.bind fun blob => (Secret.decode place.kind blob).toOption

theorem decode_blobAfter (place : Place) (history : List Outcome) (before : Option String) :
    (blobAfter (lastEffect? place history) before).bind
      (fun blob => (Secret.decode place.kind blob).toOption) = secretAfter place history before := by
  unfold secretAfter
  cases hlast : lastEffect? place history with
  | none => rfl
  | some effect =>
      cases effect with
      | none => rfl
      | some secret =>
          have hdecode : Secret.decode place.kind secret.encodeDocument = .ok secret.persisted := by
            rw [← kind_of_lastEffect hlast]
            exact secret.decode_encodeDocument
          simp only [blobAfter, Option.bind_some, hdecode]
          rfl

end Outcome

namespace SecretStore

open Outcome

variable {σ : Type} {native : NativeStore σ} {shows : σ → BlobMap → Prop}

/-- A call through a store, or something else that happens to the native store and changes none of
its blobs. -/
inductive Step (native : NativeStore σ) (shows : σ → BlobMap → Prop) where
  | add (s : Opened native) (key : String) (a : s.kind.Content)
  | get (s : Opened native) (key : String)
  | delete (s : Opened native) (key : String)
  | outside (change : σ → σ) (harmless : ∀ {w m}, shows w m → shows (change w) m)

/-- What is told of a step, and the state after it. -/
def Step.run (w : σ) : Step native shows → List Outcome × σ
  | .add s key a =>
    let (answer, w) := s.store.add key a w
    ([.added s.space key (s.kind.secret a) answer.value], w)
  | .get s key =>
    let (answer, w) := s.store.get key w
    ([.read (s.place key) (answer.value.map s.kind.secret)], w)
  | .delete s key =>
    let (answer, w) := s.store.delete key w
    ([.deleted (s.place key) answer.value], w)
  | .outside change _ => ([], change w)

def run (w : σ) : List (Step native shows) → List Outcome × σ
  | [] => ([], w)
  | step :: later =>
    let (first, w) := step.run w
    let (rest, w) := run w later
    (first ++ rest, w)

/-- A state shows the blobs that a history leaves of a map. -/
def Left (shows : σ → BlobMap → Prop) (native : NativeStore σ) (m : BlobMap)
    (history : List Outcome) (w : σ) : Prop :=
  ∃ m', shows w m' ∧ ∀ (s : Opened native) (key : String),
    m' (s.nativeKey key) = blobAfter (lastEffect? (s.place key) history) (m (s.nativeKey key))

/-- An accepted call changes the map at its own place; any other call changes nothing. -/
theorem update_eq_blobAfter (m : BlobMap) (s s' : Opened native) (key key' : String)
    (accepted : Bool) (effect : Option Secret) :
    (if accepted = true then Function.update m (s.nativeKey key) (blobAfter (some effect) none)
      else m) (s'.nativeKey key') =
      blobAfter (if accepted = true ∧ s.place key = s'.place key' then some effect else none)
        (m (s'.nativeKey key')) := by
  cases accepted with
  | false => simp [blobAfter]
  | true =>
      by_cases hplace : s.place key = s'.place key'
      · have hkey := (s.nativeKey_eq_iff s' key key').2 hplace
        rw [if_pos rfl, if_pos ⟨rfl, hplace⟩, hkey, Function.update_self]
        cases effect <;> rfl
      · have hkey : s'.nativeKey key' ≠ s.nativeKey key :=
          fun heq => hplace ((s.nativeKey_eq_iff s' key key').1 heq.symm)
        rw [if_pos rfl, if_neg fun hp => hplace hp.2, Function.update_of_ne hkey]
        rfl

theorem Step.left (h : native.Keeps shows) {w : σ} {m : BlobMap} (hw : shows w m)
    (step : Step native shows) : Left shows native m (step.run w).1 (step.run w).2 := by
  cases step with
  | add s key a =>
      refine ⟨_, s.add_shows h hw key a, fun s' key' => ?_⟩
      change _ = blobAfter (lastEffect? _ [.added s.space key (s.kind.secret a)
        (s.store.add key a w).1.value]) _
      rw [lastEffect?_singleton, effect?, SecretKind.kind_secret]
      exact update_eq_blobAfter m s s' key key' _ (some (s.kind.secret a))
  | get s key => exact ⟨m, s.get_shows h hw key, fun _ _ => rfl⟩
  | delete s key =>
      refine ⟨_, s.delete_shows h hw key, fun s' key' => ?_⟩
      change _ = blobAfter (lastEffect? _ [.deleted (s.place key)
        (s.store.delete key w).1.value]) _
      rw [lastEffect?_singleton, effect?]
      exact update_eq_blobAfter m s s' key key' _ none
  | outside change harmless => exact ⟨m, harmless hw, fun _ _ => rfl⟩

theorem run_left (h : native.Keeps shows) {w : σ} {m : BlobMap} (hw : shows w m)
    (steps : List (Step native shows)) : Left shows native m (run w steps).1 (run w steps).2 := by
  induction steps generalizing w m with
  | nil => exact ⟨m, hw, fun _ _ => rfl⟩
  | cons step later ih =>
      obtain ⟨m₁, hw₁, hfirst⟩ := step.left h hw
      obtain ⟨m₂, hw₂, hlater⟩ := ih hw₁
      refine ⟨m₂, hw₂, fun s key => ?_⟩
      -- An effect in the later part hides those of the first step.
      rw [hlater, hfirst, ← blobAfter_or, ← lastEffect?_append]
      rfl

/-- After any run, a read that the native store answers gives the secret of the last accepted add at
its place, nothing if an accepted delete came later, and otherwise what was there before the run. -/
theorem get_after_run (h : native.Keeps shows) {w : σ} {m : BlobMap} (hw : shows w m)
    (steps : List (Step native shows)) (s : Opened native) (key : String) {found : Option String}
    {w' : σ} (hread : native.get (s.nativeKey key) (run w steps).2 = .ok found w') :
    (s.store.get key (run w steps).2).1.value.map s.kind.secret =
      secretAfter (s.place key) (run w steps).1 (m (s.nativeKey key)) := by
  obtain ⟨m', hshows, hleft⟩ := run_left h hw steps
  have hfound := h.get hshows (s.nativeKey key)
  rw [hread] at hfound
  rw [s.get_of_found hread, hfound.1, hleft s key, ← decode_blobAfter]
  rfl

/-- Tokens of a name space in memory. -/
def memoryTokens : Opened (MemoryStore.native true) where
  space := "test"
  kind := .token
  store := ⟨MemoryStore.native true, "test", Token.xml, by decide, by decide⟩
  made := by rfl

/-- The switch of a store in memory, which may be thrown between any two calls. -/
def Step.failing (on : Bool) : Step (MemoryStore.native true) MemoryStore.Shows :=
  .outside (fun w => { w with failing := on }) fun h => h

/-- Junk is overwritten, a call in the wrong moment does nothing, and the case of the value stays. -/
theorem get_after_failed_add :
    let key := "a:b"
    let kept : Token := ⟨.access, "AbC", Uuid.nil, by decide⟩
    let lost : Token := ⟨.access, "other", Uuid.nil, by decide⟩
    let start : MemoryStore := ⟨[(memoryTokens.nativeKey key, "junk")], false⟩
    let steps := [.add memoryTokens key kept, .failing true, .add memoryTokens key lost,
      .delete memoryTokens key, .failing false]
    (MemoryStore.native true).Keeps MemoryStore.Shows ∧
      start.Shows (fun key => start.lookup key) ∧
      (MemoryStore.native true).get (memoryTokens.nativeKey key) (run start steps).2 =
        .ok (some (Secret.token kept).encodeDocument) (run start steps).2 ∧
      (memoryTokens.store.get key (run start steps).2).1.value.map Secret.token =
        some (.token kept) := by
  intro key kept lost start steps
  have hshows : start.Shows fun key => start.lookup key := fun _ => rfl
  have hread : (MemoryStore.native true).get (memoryTokens.nativeKey key) (run start steps).2 =
      .ok (some (Secret.token kept).encodeDocument) (run start steps).2 := by rfl
  exact ⟨MemoryStore.keeps true, hshows, hread,
    get_after_run (MemoryStore.keeps true) hshows steps memoryTokens key hread⟩

end SecretStore
end Strongbox
