import Strongbox.Proofs.Native.Blame
/-! What a store hides from its callers, its reports show: a call that fails leaves one event, which has the
cause, and no other call leaves one like it. -/
namespace Strongbox

open Log

namespace SecretError

/-- How the texts of a kind of errors begin. -/
def opening : SecretError → List Char
  | validation _ => ['V', 'a', 'l', 'i', 'd', 'a', 't', 'i']
  | serialization _ => ['S', 'e', 'r', 'i', 'a', 'l', 'i', 'z']
  | malformed _ => ['M', 'a', 'l', 'f', 'o', 'r', 'm', 'e']
  | unavailable _ => ['S', 'e', 'c', 'r', 'e', 't', ' ', 'b']
  | failed _ => ['S', 'e', 'c', 'r', 'e', 't', ' ', 's']

theorem take_labelled {label : String} {start : List Char} (h : label.toList.take 8 = start)
    (hlong : 8 ≤ label.toList.length) (reason : String) : (label ++ reason).toList.take 8 = start := by
  rw [String.toList_append, List.take_append_of_le_length hlong, h]

theorem take_message (e : SecretError) : e.message.toList.take 8 = e.opening := by
  cases e <;> dsimp only [opening] <;>
    exact take_labelled (by decide +kernel) (by decide +kernel) _

theorem message_injective {e e' : SecretError} (h : e.message = e'.message) : e = e' := by
  have hopening : e.opening = e'.opening := by
    rw [← take_message, ← take_message, h]
  cases e with
  | validation r =>
      cases e' with
      | validation r' => exact congrArg validation ((String.append_right_inj _).1 h)
      | _ => simp [opening] at hopening
  | serialization r =>
      cases e' with
      | serialization r' => exact congrArg serialization ((String.append_right_inj _).1 h)
      | _ => simp [opening] at hopening
  | malformed r =>
      cases e' with
      | malformed r' => exact congrArg malformed ((String.append_right_inj _).1 h)
      | _ => simp [opening] at hopening
  | unavailable r =>
      cases e' with
      | unavailable r' => exact congrArg unavailable ((String.append_right_inj _).1 h)
      | _ => simp [opening] at hopening
  | failed r =>
      cases e' with
      | failed r' => exact congrArg failed ((String.append_right_inj _).1 h)
      | _ => simp [opening] at hopening

/-- Data that cannot be used counts as absent and is worth a warning; a store that fails is an error. -/
def readLevel (e : SecretError) : Level := if e.isDataError then .warn else .error

end SecretError

/-! ### One call -/

/-- An event of a store, in a span of its own and with a certain field. -/
structure Noted (event : Event) (level : Level) (span name : String) (value : FieldValue) : Prop where
  level : event.level = level
  target : event.target = storeTarget
  span : event.span.map Span.name = some span
  field : event.fields.lookup name = some value

theorem Noted.error_unique {event : Event} {level level' : Level} {span span' : String}
    {e e' : SecretError} (h : Noted event level span "error" (.shown e.message))
    (h' : Noted event level' span' "error" (.shown e'.message)) : e = e' := by
  have hfield := Option.some.inj (h.field.symm.trans h'.field)
  exact SecretError.message_injective (FieldValue.shown.inj hfield)

namespace SecretStore

variable {σ α : Type}

/-- All that callers and the log are told of a call. -/
structure Observable (s : SecretStore σ α) (key : String) (w : σ) : Prop where
  /-- What could be read is handed out, and nothing is reported. -/
  read : ∀ found w', s.tryGet key w = .ok found w' → s.get key w = (⟨found, []⟩, w')
  unread : ∀ e w', s.tryGet key w = .error e w' → ∃ event,
    s.get key w = (⟨none, [event]⟩, w') ∧
      Noted event e.readLevel "store.get" "error" (.shown e.message)
  stored : ∀ a blob w', s.format.serialize a = .ok blob →
    s.native.put (s.nativeKey key) blob w = .ok () w' → ∃ event,
      s.add key a w = (⟨true, [event]⟩, w') ∧ Noted event .debug "store.add" "key" (.shown key)
  unwritten : ∀ a e, s.format.serialize a = .error e → ∃ event,
    s.add key a w = (⟨false, [event]⟩, w) ∧
      Noted event .error "store.add" "error" (.shown e.message)
  refused : ∀ a blob e w', s.format.serialize a = .ok blob →
    s.native.put (s.nativeKey key) blob w = .error e w' → ∃ event,
      s.add key a w = (⟨false, [event]⟩, w') ∧
        Noted event .error "store.add" "error" (.shown e.message)
  deleted : ∀ existed w', s.native.delete (s.nativeKey key) w = .ok existed w' → ∃ event,
    s.delete key w = (⟨true, [event]⟩, w') ∧
      Noted event .debug "store.delete" "existed" (.flag existed)
  kept : ∀ e w', s.native.delete (s.nativeKey key) w = .error e w' → ∃ event,
    s.delete key w = (⟨false, [event]⟩, w') ∧
      Noted event .error "store.delete" "error" (.shown e.message)

theorem noted_failure (s : SecretStore σ α) (level : Level) (message key : String) (e : SecretError)
    (span : Span) :
    Noted (s.failure level message key e span) level span.name "error" (.shown e.message) :=
  ⟨rfl, rfl, rfl, rfl⟩

theorem noted_unread (s : SecretStore σ α) (key : String) (e : SecretError) :
    Noted (s.unread key e) e.readLevel "store.get" "error" (.shown e.message) := by
  unfold unread SecretError.readLevel
  split
  · exact s.noted_failure _ _ _ _ _
  · exact s.noted_failure _ _ _ _ _

theorem observable (s : SecretStore σ α) (key : String) (w : σ) : s.Observable key w where
  read _ _ h := s.get_of_ok h
  unread e _ h := ⟨s.unread key e, s.get_of_error h, s.noted_unread key e⟩
  stored a blob w' hblob hput := by
    have htry : s.tryAdd key a w = .ok () w' := by rw [tryAdd, hblob, ← hput]
    rw [add, htry]
    exact ⟨_, rfl, rfl, rfl, rfl, rfl⟩
  unwritten a e hblob := by
    have htry : s.tryAdd key a w = .error e w := by rw [tryAdd, hblob]
    rw [add, htry]
    exact ⟨_, rfl, s.noted_failure _ _ _ _ _⟩
  refused a blob e w' hblob hput := by
    have htry : s.tryAdd key a w = .error e w' := by rw [tryAdd, hblob, ← hput]
    rw [add, htry]
    exact ⟨_, rfl, s.noted_failure _ _ _ _ _⟩
  deleted existed w' h := by
    have htry : s.tryDelete key w = .ok existed w' := h
    rw [delete, htry]
    exact ⟨_, rfl, rfl, rfl, rfl, rfl⟩
  kept e w' h := by
    have htry : s.tryDelete key w = .error e w' := h
    rw [delete, htry]
    exact ⟨_, rfl, s.noted_failure _ _ _ _ _⟩

/-- What stands behind the answer of a read. -/
inductive Cause where
  | found
  | absent
  | undecodable
  | failing
  deriving DecidableEq, Repr

/-- The cause as the native store and the format have it. -/
def causeOf (s : SecretStore σ α) (key : String) (w : σ) : Cause :=
  match s.native.get (s.nativeKey key) w with
  | .error _ _ => .failing
  | .ok none _ => .absent
  | .ok (some blob) _ => match s.format.deserialize blob with
    | .ok _ => .found
    | .error _ => .undecodable

/-- The cause as it is told, by the answer and the level of the event. -/
def diagnosis (told : Logged (Option α)) : Cause :=
  match told with
  | ⟨some _, _⟩ => .found
  | ⟨none, []⟩ => .absent
  | ⟨none, event :: _⟩ => if event.level = .warn then .undecodable else .failing

theorem diagnosis_of_error {s : SecretStore σ α} {key : String} {w w' : σ} {e : SecretError}
    (h : s.tryGet key w = .error e w') :
    diagnosis (s.get key w).1 = if e.isDataError then .undecodable else .failing := by
  obtain ⟨event, hget, hnoted⟩ := (s.observable key w).unread e w' h
  rw [hget, diagnosis, hnoted.level, SecretError.readLevel]
  cases e.isDataError <;> rfl

/-- Where native store and format blame whom they should, the cause is told as it is. -/
theorem diagnosis_get {s : SecretStore σ α} (hnative : s.native.BlamesItself)
    (hformat : s.format.BlamesText) (key : String) (w : σ) :
    diagnosis (s.get key w).1 = s.causeOf key w := by
  unfold causeOf
  cases hread : s.native.get (s.nativeKey key) w with
  | error e w' =>
      rw [diagnosis_of_error (s.tryGet_of_failed hread), if_neg (by simp [hnative _ _ _ _ hread])]
  | ok found w' =>
      cases found with
      | none =>
          rw [(s.observable key w).read _ _ (s.tryGet_of_absent hread)]
          rfl
      | some blob =>
          cases hblob : s.format.deserialize blob with
          | ok a =>
              rw [(s.observable key w).read _ _ (s.tryGet_of_decoded hread hblob)]
              simp only [diagnosis, hblob]
          | error e =>
              rw [diagnosis_of_error (s.tryGet_of_undecodable hread hblob), if_pos (hformat _ _ hblob)]
              simp only [hblob]

end SecretStore
end Strongbox
