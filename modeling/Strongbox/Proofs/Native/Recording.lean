import Strongbox.Proofs.SecretStore
/-! Native stores with a record of what they were asked. Whatever is done through a store that is recorded
comes to the same as without the record, so the record tells which native calls it takes. -/
namespace Strongbox

open Log

/-- A call of a native store. -/
inductive NativeCall where
  | put (key : NativeKey) (blob : String)
  | get (key : NativeKey)
  | delete (key : NativeKey)
  deriving DecidableEq, Repr

namespace Call

variable {ε σ τ α : Type}

/-- The same result, but for the state that is left. -/
def mapState (f : σ → τ) : EStateM.Result ε σ α → EStateM.Result ε τ α
  | .ok a w => .ok a (f w)
  | .error e w => .error e (f w)

end Call

variable {σ α : Type}

/-- The call is written down first, so that the record has it even if it fails. -/
def StoreCall.recordedAs (asked : NativeCall) (call : StoreCall σ α) :
    StoreCall (σ × List NativeCall) α := fun w =>
  call.onPart Prod.fst (fun part whole => (part, whole.2)) (w.1, w.2 ++ [asked])

theorem StoreCall.recordedAs_apply (asked : NativeCall) (call : StoreCall σ α) (w : σ)
    (made : List NativeCall) :
    call.recordedAs asked (w, made) = Call.mapState (·, made ++ [asked]) (call w) := by
  unfold recordedAs onPart
  cases call w with
  | ok a w' => rfl
  | error e w' => rfl

/-- The same store with a record of its calls, the oldest first. -/
def NativeStore.recorded (native : NativeStore σ) : NativeStore (σ × List NativeCall) where
  name := native.name
  secure := native.secure
  put key blob := (native.put key blob).recordedAs (.put key blob)
  get key := (native.get key).recordedAs (.get key)
  delete key := (native.delete key).recordedAs (.delete key)

namespace SecretStore

def recorded (s : SecretStore σ α) : SecretStore (σ × List NativeCall) α :=
  ⟨s.native.recorded, s.space, s.format, s.space_component, s.type_component⟩

/-- A secret that has no written form is not brought before the native store. -/
def putsOf (s : SecretStore σ α) (key : String) (a : α) : List NativeCall :=
  match s.format.serialize a with
  | .ok blob => [.put (s.nativeKey key) blob]
  | .error _ => []

variable (s : SecretStore σ α) (key : String) (w : σ) (made : List NativeCall)

theorem tryGet_recorded : s.recorded.tryGet key (w, made) =
    Call.mapState (·, made ++ [.get (s.nativeKey key)]) (s.tryGet key w) := by
  have hget : s.recorded.native.get (s.recorded.nativeKey key) (w, made) =
      Call.mapState (·, made ++ [.get (s.nativeKey key)]) (s.native.get (s.nativeKey key) w) :=
    StoreCall.recordedAs_apply _ _ w made
  have hformat : s.recorded.format = s.format := rfl
  rw [tryGet, hget, hformat, tryGet]
  cases s.native.get (s.nativeKey key) w with
  | error e w' => rfl
  | ok found w' =>
      cases found with
      | none => rfl
      | some blob =>
          dsimp only [Call.mapState]
          cases s.format.deserialize blob <;> rfl

theorem tryAdd_recorded (a : α) : s.recorded.tryAdd key a (w, made) =
    Call.mapState (·, made ++ s.putsOf key a) (s.tryAdd key a w) := by
  have hformat : s.recorded.format = s.format := rfl
  rw [tryAdd, hformat, tryAdd, putsOf]
  cases s.format.serialize a with
  | error e =>
      rw [List.append_nil]
      rfl
  | ok blob => exact StoreCall.recordedAs_apply _ _ w made

theorem tryDelete_recorded : s.recorded.tryDelete key (w, made) =
    Call.mapState (·, made ++ [.delete (s.nativeKey key)]) (s.tryDelete key w) :=
  StoreCall.recordedAs_apply _ _ w made

/-- A read asks the native store once. -/
theorem get_recorded : s.recorded.get key (w, made) =
    ((s.get key w).1, (s.get key w).2, made ++ [.get (s.nativeKey key)]) := by
  have hrecorded := s.tryGet_recorded key w made
  cases htry : s.tryGet key w with
  | ok found w' =>
      rw [htry] at hrecorded
      rw [s.recorded.get_of_ok hrecorded, s.get_of_ok htry]
  | error e w' =>
      rw [htry] at hrecorded
      rw [s.recorded.get_of_error hrecorded, s.get_of_error htry]
      rfl

theorem add_recorded (a : α) : s.recorded.add key a (w, made) =
    ((s.add key a w).1, (s.add key a w).2, made ++ s.putsOf key a) := by
  rw [add, tryAdd_recorded, add]
  cases s.tryAdd key a w with
  | ok _ w' => rfl
  | error e w' => rfl

theorem delete_recorded : s.recorded.delete key (w, made) =
    ((s.delete key w).1, (s.delete key w).2, made ++ [.delete (s.nativeKey key)]) := by
  rw [delete, tryDelete_recorded, delete]
  cases s.tryDelete key w with
  | ok existed w' => rfl
  | error e w' => rfl

end SecretStore
end Strongbox
