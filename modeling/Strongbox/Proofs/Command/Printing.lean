import Strongbox.Proofs.Command.Contract
/-! What commands are put together from, and what they print. Each of them prints once, when its work is
done, and never an empty text; a command that fails has printed nothing. -/
namespace Strongbox.Command

open Log

/-! ### Texts -/

theorem append_ne_empty_right {s t : String} (h : t ≠ "") : s ++ t ≠ "" :=
  fun heq => h (String.append_eq_empty_iff.1 heq).2

theorem append_ne_empty_left {s t : String} (h : s ≠ "") : s ++ t ≠ "" :=
  fun heq => h (String.append_eq_empty_iff.1 heq).1

theorem renderJson_ne_empty (fields : List (String × Field)) : renderJson fields ≠ "" := by
  simp [renderJson]

theorem renderTable_ne_empty (width : Nat) (line : String × String) (lines : List (String × String)) :
    renderTable width (line :: lines) ≠ "" := by
  rw [renderTable, List.map_cons, String.join_cons]
  exact append_ne_empty_left (append_ne_empty_right (by decide))

theorem renderSecret_ne_empty (format : Format) (reveal : Bool) (key : String) (s : Secret) :
    renderSecret format reveal key s ≠ "" := by
  cases format with
  | table => exact renderTable_ne_empty _ _ _
  | json => exact renderJson_ne_empty _

theorem Status.render_ne_empty (s : Status) (format : Format) : s.render format ≠ "" := by
  cases format with
  | table => exact append_ne_empty_left (by decide)
  | json => exact renderJson_ne_empty _

theorem renderSettings_ne_empty (d : SettingsDirectory) (s : Settings) (fallback : String) :
    renderSettings d s fallback ≠ "" :=
  renderTable_ne_empty _ _ _

/-! ### Commands -/

variable {α : Type}

/-- Steps that print nothing, by what they are put together from. -/
inductive Tacit : {α : Type} → Run α → Prop
  | pure {α : Type} (a : α) : Tacit (pure a)
  | throw {α : Type} (failure : Failure) : Tacit (throw failure : Run α)
  | readBackends : Tacit readBackends
  | note {α : Type} (l : Logged α) : Tacit (note l)
  | onDisk {α : Type} (call : Disk → Logged α × Disk) : Tacit (onDisk call)
  | onStore {α : Type} (call : Backends Unit → Logged α × Backends Unit) : Tacit (onStore call)
  | bind {α β : Type} {step : Run α} {next : α → Run β} (h : Tacit step) (hnext : ∀ a, Tacit (next a)) :
    Tacit (step >>= next)

namespace Tacit

theorem orFail {ε : Type} (failure : ε → Failure) (answer : Except ε α) : Tacit (orFail failure answer) := by
  cases answer with
  | ok a => exact pure a
  | error e => exact throw (failure e)

theorem warn (store : SecretStore (Backends Unit) α) : Tacit (warn store) := by
  unfold Command.warn
  split
  · exact pure ()
  · exact note _

theorem openStore (p : Provider Unit) (format : SecretFormat α) : Tacit (openStore p format) :=
  bind readBackends fun _ => bind (note _) fun answer => orFail _ answer

theorem loadProvider (e : Environment) (i : Invocation) : Tacit (loadProvider e i) := by
  refine bind (bind (orFail _ _) fun d => bind (onDisk d.load) fun answer => orFail _ answer) fun s => ?_
  exact bind (orFail _ _) fun p => pure _

theorem reach (e : Environment) (i : Invocation) (kind : SecretKind) : Tacit (reach e i kind) :=
  bind (loadProvider e i) fun p => openStore p kind.format

end Tacit

/-- Tacit steps, and a text or a failure in the end. -/
inductive Composed : Run Unit → Prop
  | print {text : String} (h : text ≠ "") : Composed (print text)
  | throw (failure : Failure) : Composed (throw failure)
  | bind {α : Type} {step : Run α} {next : α → Run Unit} (h : Tacit step)
    (hnext : ∀ a, Composed (next a)) : Composed (step >>= next)

namespace Composed

theorem addTo (store : SecretStore (Backends Unit) α) (kind : SecretKind) (key : String) (a : α) :
    Composed (addTo store kind key a) := by
  refine bind (.onStore _) fun added => ?_
  cases added with
  | true => exact print (append_ne_empty_right (by decide))
  | false => exact throw _

variable (e : Environment) (i : Invocation)

theorem showStatus (format : Format) : Composed (showStatus e i format) := by
  refine bind (.loadProvider e i) fun p => bind .readBackends fun _ => bind (.note _) fun detected => ?_
  exact bind .readBackends fun _ => bind (.note _) fun chosen => print (Status.render_ne_empty _ format)

theorem showSecret (kind : SecretKind) (key : String) (format : Format) (reveal : Bool) :
    Composed (showSecret e i kind key format reveal) := by
  rw [showSecret_eq]
  refine bind (.reach e i kind) fun store => bind (.onStore _) fun found => ?_
  cases found with
  | some a => exact print (renderSecret_ne_empty format reveal key _)
  | none => exact throw _

theorem storeSecret (key : String) (proposal : Proposal) : Composed (storeSecret e i key proposal) := by
  rw [storeSecret_eq]
  refine bind (.loadProvider e i) fun p => bind (.orFail _ _) fun s => bind (.openStore p _) fun store => ?_
  exact bind (.warn store) fun _ => addTo store _ key _

theorem deleteSecret (kind : SecretKind) (key : String) : Composed (deleteSecret e i kind key) := by
  rw [deleteSecret_eq]
  refine bind (.reach e i kind) fun store => bind (.onStore _) fun deleted => ?_
  cases deleted with
  | true => exact print (append_ne_empty_right (by decide))
  | false => exact throw _

theorem showSettings : Composed (showSettings e i) := by
  refine bind (.orFail _ _) fun d => bind (.onDisk d.load) fun answer => bind (.orFail _ answer) fun s => ?_
  exact bind (.orFail _ _) fun fallback => print (renderSettings_ne_empty d s fallback)

theorem initSettings (space fallback : Option String) (force : Bool) :
    Composed (initSettings e i space fallback force) := by
  refine bind (.orFail _ _) fun d => bind .readBackends fun b => ?_
  have hsave : ∀ s, Composed (do
      Command.orFail Failure.ofSettings (← Command.onDisk (d.save s))
      Command.print s!"Wrote {d.file}\n") :=
    fun s => bind (.onDisk _) fun answer => bind (.orFail _ answer) fun _ =>
      print (append_ne_empty_right (by decide))
  dsimp only
  split
  · exact bind (.throw _) fun _ => hsave _
  · exact hsave _

theorem perform : Composed (perform e i) := by
  unfold Command.perform
  cases i.action with
  | status format => exact showStatus e i format
  | get kind key format reveal => exact showSecret e i kind key format reveal
  | set key proposal => exact storeSecret e i key proposal
  | delete kind key => exact deleteSecret e i kind key
  | showSettings => exact showSettings e i
  | initSettings space fallback force => exact initSettings e i space fallback force

end Composed

/-! ### What commands have printed -/

theorem Tacit.output {step : Run α} (h : Tacit step) (w : Process) :
    (Call.after (step w)).output = w.output := by
  induction h generalizing w with
  | pure | throw | readBackends | note | onDisk | onStore => rfl
  | @bind _ _ step next _ _ ih ihnext =>
      have hfirst := ih w
      cases hstep : step w with
      | error failure w₁ =>
          rw [hstep] at hfirst
          rw [Call.bind_of_error hstep]
          exact hfirst
      | ok a w₁ =>
          rw [hstep] at hfirst
          rw [Call.bind_of_ok hstep]
          exact (ihnext a w₁).trans hfirst

/-- What a command has printed when it ends: a text if it succeeded, and nothing if it failed. -/
def Spoken (before : Process) : EStateM.Result Failure Process Unit → Prop
  | .ok _ after => ∃ text, text ≠ "" ∧ after.output = before.output ++ text
  | .error _ after => after.output = before.output

theorem Composed.spoken {step : Run Unit} (h : Composed step) (w : Process) : Spoken w (step w) := by
  induction h generalizing w with
  | print h => exact ⟨_, h, rfl⟩
  | throw failure => rfl
  | @bind _ step next h _ ih =>
      have htacit := h.output w
      cases hstep : step w with
      | error failure w₁ =>
          rw [hstep] at htacit
          rw [Call.bind_of_error hstep]
          exact htacit
      | ok a w₁ =>
          rw [hstep] at htacit
          have hspoken := ih a w₁
          rw [Call.bind_of_ok hstep]
          unfold Spoken at hspoken ⊢
          rw [show w₁.output = w.output from htacit] at hspoken
          exact hspoken

end Strongbox.Command
