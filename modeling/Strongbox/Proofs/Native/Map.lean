import Mathlib.Logic.Function.Basic
import Strongbox.Native.Store
/-! What it means that a native store is a map from keys to blobs, when its calls may fail and when
they may not, and what follows for sequences of calls. -/
namespace Strongbox

/-- Blobs by native key. -/
abbrev BlobMap := NativeKey → Option String

namespace NativeStore

/-- A call that a native store may be given. -/
inductive Call where
  | put (key : NativeKey) (blob : String)
  | get (key : NativeKey)
  | delete (key : NativeKey)
  deriving DecidableEq, Repr

/-- What a call that does not fail tells its caller. -/
inductive Answer where
  | done
  | found (blob : Option String)
  | existed (there : Bool)
  deriving DecidableEq, Repr

variable {σ : Type}

def answer (native : NativeStore σ) : Call → StoreCall σ Answer
  | .put key blob => do
    native.put key blob
    return .done
  | .get key => do return .found (← native.get key)
  | .delete key => do return .existed (← native.delete key)

/-- Answers of calls made one after the other, each in the state that the one before it left. -/
def answers (native : NativeStore σ) : σ → List Call → List (Except SecretError Answer)
  | _, [] => []
  | w, call :: later => match native.answer call w with
    | .ok a w => .ok a :: native.answers w later
    | .error e w => .error e :: native.answers w later

/-- The same, when something else happens to the state before each call. -/
def answersAmid (native : NativeStore σ) :
    σ → List ((σ → σ) × Call) → List (Except SecretError Answer)
  | _, [] => []
  | w, (change, call) :: later => match native.answer call (change w) with
    | .ok a w => .ok a :: native.answersAmid w later
    | .error e w => .error e :: native.answersAmid w later

end NativeStore

namespace BlobMap

open NativeStore (Call Answer)

def empty : BlobMap := fun _ => none

/-- What a map answers to a call, and the map afterwards. -/
def answer (m : BlobMap) : Call → Answer × BlobMap
  | .put key blob => (.done, Function.update m key (some blob))
  | .get key => (.found (m key), m)
  | .delete key => (.existed (m key).isSome, Function.update m key none)

def answers : BlobMap → List Call → List Answer
  | _, [] => []
  | m, call :: later => (answer m call).1 :: answers (answer m call).2 later

end BlobMap

namespace NativeStore

variable {σ : Type} {native : NativeStore σ} {shows : σ → BlobMap → Prop}

/-- The states of a store show maps: a call that succeeds does to the map what it says, a call that
fails leaves it as it was. -/
structure Keeps (native : NativeStore σ) (shows : σ → BlobMap → Prop) : Prop where
  put : ∀ {w m}, shows w m → ∀ key blob, match native.put key blob w with
    | .ok () w' => shows w' (Function.update m key (some blob))
    | .error _ w' => shows w' m
  get : ∀ {w m}, shows w m → ∀ key, match native.get key w with
    | .ok found w' => found = m key ∧ shows w' m
    | .error _ w' => shows w' m
  delete : ∀ {w m}, shows w m → ∀ key, match native.delete key w with
    | .ok existed w' => existed = (m key).isSome ∧ shows w' (Function.update m key none)
    | .error _ w' => shows w' m

/-- In the states that show a map no call fails. -/
structure Serves (native : NativeStore σ) (shows : σ → BlobMap → Prop) : Prop where
  answered : ∀ {w m}, shows w m → ∀ call, ∃ w', native.answer call w = .ok (m.answer call).1 w' ∧
    shows w' (m.answer call).2

theorem Serves.answers (h : native.Serves shows) {w : σ} {m : BlobMap} (hw : shows w m)
    (calls : List Call) : native.answers w calls = (m.answers calls).map .ok := by
  induction calls generalizing w m with
  | nil => rfl
  | cons call later ih =>
      obtain ⟨w', hanswer, hw'⟩ := h.answered hw call
      rw [NativeStore.answers, hanswer, BlobMap.answers, List.map_cons]
      exact congrArg _ (ih hw')

theorem Serves.answersAmid (h : native.Serves shows) {w : σ} {m : BlobMap} (hw : shows w m)
    {steps : List ((σ → σ) × Call)}
    (hspared : ∀ step ∈ steps, ∀ {w m}, shows w m → shows (step.1 w) m) :
    native.answersAmid w steps = (m.answers (steps.map Prod.snd)).map .ok := by
  induction steps generalizing w m with
  | nil => rfl
  | cons step later ih =>
      obtain ⟨change, call⟩ := step
      have hchanged := hspared (change, call) List.mem_cons_self hw
      obtain ⟨w', hanswer, hw'⟩ := h.answered hchanged call
      simp only [NativeStore.answersAmid, hanswer, List.map_cons, BlobMap.answers]
      exact congrArg _ (ih hw' fun step hstep => hspared step (List.mem_cons_of_mem _ hstep))

theorem answer_put_of_ok {key : NativeKey} {blob : String} {w w' : σ}
    (h : native.put key blob w = .ok () w') : native.answer (.put key blob) w = .ok .done w' := by
  simp only [answer, bind, EStateM.bind, h]
  rfl

theorem answer_get_of_ok {key : NativeKey} {found : Option String} {w w' : σ}
    (h : native.get key w = .ok found w') : native.answer (.get key) w = .ok (.found found) w' := by
  simp only [answer, bind, EStateM.bind, h]
  rfl

theorem answer_delete_of_ok {key : NativeKey} {existed : Bool} {w w' : σ}
    (h : native.delete key w = .ok existed w') :
    native.answer (.delete key) w = .ok (.existed existed) w' := by
  simp only [answer, bind, EStateM.bind, h]
  rfl

end NativeStore
end Strongbox
