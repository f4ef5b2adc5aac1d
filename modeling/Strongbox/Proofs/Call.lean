/-! Calls one after the other: what the success of both says of each, and what two calls have in common
that end in the same way. -/
namespace Strongbox.Call

variable {ε σ α β : Type} {w w' : σ}

/-- What a call leaves, whether it succeeds or fails. -/
def after (result : EStateM.Result ε σ α) : σ :=
  match result with
  | .ok _ w => w
  | .error _ w => w

@[simp] theorem after_ok (a : α) (w : σ) : after (.ok a w : EStateM.Result ε σ α) = w := rfl

@[simp] theorem after_error (e : ε) (w : σ) : after (.error e w : EStateM.Result ε σ α) = w := rfl

theorem bind_eq_ok {call : EStateM ε σ α} {next : α → EStateM ε σ β} {b : β}
    (h : (call >>= next) w = .ok b w') : ∃ a w₁, call w = .ok a w₁ ∧ next a w₁ = .ok b w' := by
  cases hcall : call w with
  | error e w₁ =>
      simp only [bind, EStateM.bind, hcall] at h
      cases h
  | ok a w₁ =>
      simp only [bind, EStateM.bind, hcall] at h
      exact ⟨a, w₁, rfl, h⟩

theorem bind_of_ok {call : EStateM ε σ α} {a : α} {w₁ : σ} (h : call w = .ok a w₁)
    (next : α → EStateM ε σ β) : (call >>= next) w = next a w₁ := by
  simp only [bind, EStateM.bind, h]

theorem bind_of_error {call : EStateM ε σ α} {e : ε} {w₁ : σ} (h : call w = .error e w₁)
    (next : α → EStateM ε σ β) : (call >>= next) w = .error e w₁ := by
  simp only [bind, EStateM.bind, h]

theorem get_bind (next : σ → EStateM ε σ β) :
    ((EStateM.get : EStateM ε σ σ) >>= next) w = next w w := rfl

/-- What a call answers, if it succeeds. -/
def answer? (result : EStateM.Result ε σ α) : Option α :=
  match result with
  | .ok a _ => some a
  | .error _ _ => none

theorem eq_ok_of_answer? {result : EStateM.Result ε σ α} {a : α} (h : answer? result = some a) :
    result = .ok a (after result) := by
  cases result with
  | ok a' w =>
      cases h
      rfl
  | error e w => cases h

/-- What a call finds and what it leaves, whether it succeeds or fails, stand in a relation. -/
def Moves (R : σ → σ → Prop) (call : EStateM ε σ α) : Prop := ∀ w, R w (after (call w))

theorem Moves.bind {R : σ → σ → Prop} (htrans : ∀ {w₁ w₂ w₃}, R w₁ w₂ → R w₂ w₃ → R w₁ w₃)
    {call : EStateM ε σ α} {next : α → EStateM ε σ β} (h : Moves R call) (hnext : ∀ a, Moves R (next a)) :
    Moves R (call >>= next) := by
  intro w
  have hafter := h w
  cases hcall : call w with
  | error e w₁ =>
      rw [hcall] at hafter
      rw [bind_of_error hcall]
      exact hafter
  | ok a w₁ =>
      rw [hcall] at hafter
      rw [bind_of_ok hcall]
      exact htrans hafter (hnext a w₁)

/-- A call that only looks. -/
def Looks (call : EStateM ε σ α) : Prop := ∀ w, after (call w) = w

theorem looks_pure (a : α) : Looks (pure a : EStateM ε σ α) := fun _ => rfl

theorem looks_throw (e : ε) : Looks (throw e : EStateM ε σ α) := fun _ => rfl

theorem looks_get : Looks (EStateM.get : EStateM ε σ σ) := fun _ => rfl

theorem Looks.bind {call : EStateM ε σ α} {next : α → EStateM ε σ β} (h : Looks call)
    (hnext : ∀ a, Looks (next a)) : Looks (call >>= next) :=
  Moves.bind (R := fun w w' => w' = w) (fun h h' => h'.trans h) h hnext

/-- Two calls that end in the same way: with answers that are related, or with one failure. The states
that they leave are related in any case. -/
inductive Agree (R : α → β → Prop) (S : σ → σ → Prop) :
    EStateM.Result ε σ α → EStateM.Result ε σ β → Prop
  | ok {a : α} {b : β} {w w' : σ} (answers : R a b) (states : S w w') : Agree R S (.ok a w) (.ok b w')
  | error (e : ε) {w w' : σ} (states : S w w') : Agree R S (.error e w) (.error e w')

namespace Agree

variable {γ δ : Type} {R : α → β → Prop} {R' : γ → δ → Prop} {S S' : σ → σ → Prop}

/-- The second calls may relate states in another way, if the first do not keep theirs after a failure. -/
theorem bindInto {call : EStateM ε σ α} {call' : EStateM ε σ β} {next : α → EStateM ε σ γ}
    {next' : β → EStateM ε σ δ} (h : Agree R S (call w) (call' w'))
    (hstates : ∀ w w', S w w' → S' w w')
    (hnext : ∀ a b w w', R a b → S w w' → Agree R' S' (next a w) (next' b w')) :
    Agree R' S' ((call >>= next) w) ((call' >>= next') w') := by
  generalize hcall : call w = result at h
  generalize hcall' : call' w' = result' at h
  cases h with
  | ok answers states =>
      rw [bind_of_ok hcall, bind_of_ok hcall']
      exact hnext _ _ _ _ answers states
  | error e states =>
      rw [bind_of_error hcall, bind_of_error hcall']
      exact .error e (hstates _ _ states)

theorem bind {call : EStateM ε σ α} {call' : EStateM ε σ β} {next : α → EStateM ε σ γ}
    {next' : β → EStateM ε σ δ} (h : Agree R S (call w) (call' w'))
    (hnext : ∀ a b w w', R a b → S w w' → Agree R' S (next a w) (next' b w')) :
    Agree R' S ((call >>= next) w) ((call' >>= next') w') :=
  h.bindInto (fun _ _ hw => hw) hnext

theorem weaken {r : EStateM.Result ε σ α} {r' : EStateM.Result ε σ β} (h : Agree R S r r')
    (hstates : ∀ w w', S w w' → S' w w') : Agree R S' r r' := by
  cases h with
  | ok answers states => exact .ok answers (hstates _ _ states)
  | error e states => exact .error e (hstates _ _ states)

theorem after {r : EStateM.Result ε σ α} {r' : EStateM.Result ε σ β} (h : Agree R S r r') :
    S (Call.after r) (Call.after r') := by
  cases h with
  | ok answers states => exact states
  | error e states => exact states

end Agree

end Strongbox.Call
