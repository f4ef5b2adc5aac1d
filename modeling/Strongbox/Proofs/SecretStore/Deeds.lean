import Mathlib.Data.List.Forall2
import Strongbox.Proofs.Native.Recording
import Strongbox.Proofs.SecretStore.Observability
import Strongbox.Proofs.SecretStore.Reports
/-! Any number of calls, through stores of any formats over any native stores. Whoever has the answers and
the events of a run, in the order in which they come, knows what became of each of its calls; and no call
takes more than one native call. -/
namespace Strongbox

open Log

/-- What became of a call, with the error if it failed. -/
inductive Fate where
  | found
  | absent
  | undecodable (e : SecretError)
  | failed (e : SecretError)
  | stored
  | deleted (existed : Bool)
  deriving DecidableEq, Repr

def Fate.ofReadError (e : SecretError) : Fate := if e.isDataError then undecodable e else failed e

/-- A call through any store that shares the state, or something else that happens to the state. -/
inductive Deed (σ : Type) : Type 1 where
  | get {α : Type} (s : SecretStore σ α) (key : String)
  | add {α : Type} (s : SecretStore σ α) (key : String) (a : α)
  | delete {α : Type} (s : SecretStore σ α) (key : String)
  | outside (change : σ → σ)

namespace Deed

variable {σ σ' : Type}

/-- What is told of a deed, and the state after it. -/
def run (w : σ) : Deed σ → List (Logged Reply) × σ
  | .get s key => ([(s.get key w).1.map fun found => .read found.isSome], (s.get key w).2)
  | .add s key a => ([(s.add key a w).1.map .accepted], (s.add key a w).2)
  | .delete s key => ([(s.delete key w).1.map .accepted], (s.delete key w).2)
  | .outside change => ([], change w)

/-- What becomes of a deed, by what the native store and the format make of it. -/
def fate (w : σ) : Deed σ → List Fate
  | .get s key => match s.native.get (s.nativeKey key) w with
    | .error e _ => [.ofReadError e]
    | .ok none _ => [.absent]
    | .ok (some blob) _ => match s.format.deserialize blob with
      | .ok _ => [.found]
      | .error e => [.ofReadError e]
  | .add s key a => match s.format.serialize a with
    | .error e => [.failed e]
    | .ok blob => match s.native.put (s.nativeKey key) blob w with
      | .ok () _ => [.stored]
      | .error e _ => [.failed e]
  | .delete s key => match s.native.delete (s.nativeKey key) w with
    | .ok existed _ => [.deleted existed]
    | .error e _ => [.failed e]
  | .outside _ => []

/-- The native calls that a deed takes. -/
def asks : Deed σ → List NativeCall
  | .get s key => [.get (s.nativeKey key)]
  | .add s key a => s.putsOf key a
  | .delete s key => [.delete (s.nativeKey key)]
  | .outside _ => []

def recorded : Deed σ → Deed (σ × List NativeCall)
  | .get s key => .get s.recorded key
  | .add s key a => .add s.recorded key a
  | .delete s key => .delete s.recorded key
  | .outside change => .outside (Prod.map change id)

def runAll (w : σ) : List (Deed σ) → List (Logged Reply) × σ
  | [] => ([], w)
  | deed :: later =>
    let rest := runAll (deed.run w).2 later
    ((deed.run w).1 ++ rest.1, rest.2)

def fates (w : σ) : List (Deed σ) → List Fate
  | [] => []
  | deed :: later => deed.fate w ++ fates (deed.run w).2 later

/-- Events and answer of a call in the order in which they come. -/
def sightings (told : Logged Reply) : List (Event ⊕ Reply) :=
  told.events.map .inl ++ [.inr told.value]

/-- All that is seen of a run: one line of events and answers. -/
def trace (w : σ) (deeds : List (Deed σ)) : List (Event ⊕ Reply) :=
  (runAll w deeds).1.flatMap sightings

/-! ### One native call at most -/

theorem length_asks_le (deed : Deed σ) : deed.asks.length ≤ 1 := by
  cases deed with
  | get s key => exact Nat.le_refl 1
  | add s key a =>
      simp only [asks, SecretStore.putsOf]
      split
      · exact Nat.le_refl 1
      · exact Nat.zero_le 1
  | delete s key => exact Nat.le_refl 1
  | outside change => exact Nat.zero_le 1

theorem run_recorded (w : σ) (made : List NativeCall) (deed : Deed σ) :
    deed.recorded.run (w, made) = ((deed.run w).1, (deed.run w).2, made ++ deed.asks) := by
  cases deed with
  | get s key => simp only [recorded, run, asks, s.get_recorded]
  | add s key a => simp only [recorded, run, asks, s.add_recorded]
  | delete s key => simp only [recorded, run, asks, s.delete_recorded]
  | outside change => simp only [recorded, run, asks, List.append_nil, Prod.map, id]

theorem runAll_recorded (w : σ) (made : List NativeCall) (deeds : List (Deed σ)) :
    runAll (w, made) (deeds.map recorded) =
      ((runAll w deeds).1, (runAll w deeds).2, made ++ deeds.flatMap asks) := by
  induction deeds generalizing w made with
  | nil => simp only [List.map_nil, runAll, List.flatMap_nil, List.append_nil]
  | cons deed later ih =>
      simp only [List.map_cons, runAll, run_recorded, ih, List.flatMap_cons, List.append_assoc]

/-! ### From what is seen to what became -/

/-- A line of events and answers falls into calls in one way. -/
theorem sightings_injective {told told' : Logged Reply} {later later' : List (Event ⊕ Reply)}
    (h : sightings told ++ later = sightings told' ++ later') : told = told' ∧ later = later' := by
  obtain ⟨value, events⟩ := told
  obtain ⟨value', events'⟩ := told'
  simp only [sightings, List.append_assoc, List.singleton_append] at h
  induction events generalizing events' with
  | nil =>
      cases events' with
      | nil =>
          cases h
          exact ⟨rfl, rfl⟩
      | cons event' events' => cases h
  | cons event events ih =>
      cases events' with
      | nil => cases h
      | cons event' events' =>
          simp only [List.map_cons, List.cons_append, List.cons.injEq, Sum.inl.injEq] at h
          obtain ⟨rfl, hrest⟩ := h
          obtain ⟨heq, hlater⟩ := ih events' hrest
          cases heq
          exact ⟨rfl, hlater⟩

theorem flatMap_sightings_injective {reports reports' : List (Logged Reply)}
    (h : reports.flatMap sightings = reports'.flatMap sightings) : reports = reports' := by
  induction reports generalizing reports' with
  | nil =>
      cases reports' with
      | nil => rfl
      | cons told' later' =>
          simp only [List.flatMap_nil, List.flatMap_cons, sightings] at h
          simp at h
  | cons told later ih =>
      cases reports' with
      | nil =>
          simp only [List.flatMap_nil, List.flatMap_cons, sightings] at h
          simp at h
      | cons told' later' =>
          rw [List.flatMap_cons, List.flatMap_cons] at h
          obtain ⟨rfl, hlater⟩ := sightings_injective h
          rw [ih hlater]

/-- What is told of a call that has met a fate. -/
inductive Tells : Logged Reply → Fate → Prop
  | found : Tells ⟨.read true, []⟩ .found
  | absent : Tells ⟨.read false, []⟩ .absent
  | undecodable {event : Event} {e : SecretError}
      (h : Noted event .warn "store.get" "error" (.shown e.message)) :
      Tells ⟨.read false, [event]⟩ (.undecodable e)
  | unread {event : Event} {e : SecretError}
      (h : Noted event .error "store.get" "error" (.shown e.message)) :
      Tells ⟨.read false, [event]⟩ (.failed e)
  | stored {event : Event} {key : String} (h : Noted event .debug "store.add" "key" (.shown key)) :
      Tells ⟨.accepted true, [event]⟩ .stored
  | deleted {event : Event} {existed : Bool}
      (h : Noted event .debug "store.delete" "existed" (.flag existed)) :
      Tells ⟨.accepted true, [event]⟩ (.deleted existed)
  | refused {event : Event} {e : SecretError} {span : String}
      (h : Noted event .error span "error" (.shown e.message)) :
      Tells ⟨.accepted false, [event]⟩ (.failed e)

theorem Tells.ofReadError {event : Event} {e : SecretError}
    (h : Noted event e.readLevel "store.get" "error" (.shown e.message)) :
    Tells ⟨.read false, [event]⟩ (.ofReadError e) := by
  cases hdata : e.isDataError with
  | true =>
      rw [SecretError.readLevel, if_pos hdata] at h
      rw [Fate.ofReadError, if_pos hdata]
      exact .undecodable h
  | false =>
      rw [SecretError.readLevel, if_neg (by simp [hdata])] at h
      rw [Fate.ofReadError, if_neg (by simp [hdata])]
      exact .unread h

/-- A report tells one fate: the levels, the spans and the text of the error leave no choice. -/
theorem Tells.unique {told : Logged Reply} {fate fate' : Fate} (h : Tells told fate)
    (h' : Tells told fate') : fate = fate' := by
  cases h with
  | found => cases h' with
    | found => rfl
  | absent => cases h' with
    | absent => rfl
  | undecodable h => cases h' with
    | undecodable h' => rw [h.error_unique h']
    | unread h' => cases h.level.symm.trans h'.level
  | unread h => cases h' with
    | undecodable h' => cases h.level.symm.trans h'.level
    | unread h' => rw [h.error_unique h']
  | stored h => cases h' with
    | stored h' => rfl
    | deleted h' => exact absurd (h.span.symm.trans h'.span) (by decide)
  | deleted h => cases h' with
    | stored h' => exact absurd (h.span.symm.trans h'.span) (by decide)
    | deleted h' => cases h.field.symm.trans h'.field; rfl
  | refused h => cases h' with
    | refused h' => rw [h.error_unique h']

/-- One step: the report of a call tells its fate. -/
theorem tells_run (w : σ) (deed : Deed σ) : List.Forall₂ Tells (deed.run w).1 (deed.fate w) := by
  cases deed with
  | get s key =>
      have hunread : ∀ e w', s.tryGet key w = .error e w' →
          List.Forall₂ Tells ((Deed.get s key).run w).1 [.ofReadError e] := by
        intro e w' htry
        obtain ⟨event, hget, hnoted⟩ := (s.observable key w).unread e w' htry
        rw [run, hget]
        exact .cons (.ofReadError hnoted) .nil
      rw [fate]
      cases hread : s.native.get (s.nativeKey key) w with
      | error e w' => exact hunread e w' (s.tryGet_of_failed hread)
      | ok found w' =>
          cases found with
          | none =>
              rw [run, (s.observable key w).read _ _ (s.tryGet_of_absent hread)]
              exact .cons .absent .nil
          | some blob =>
              dsimp only
              cases hblob : s.format.deserialize blob with
              | error e => exact hunread e w' (s.tryGet_of_undecodable hread hblob)
              | ok a =>
                  rw [run, (s.observable key w).read _ _ (s.tryGet_of_decoded hread hblob)]
                  exact .cons .found .nil
  | add s key a =>
      simp only [run, fate]
      cases hblob : s.format.serialize a with
      | error e =>
          obtain ⟨event, hadd, hnoted⟩ := (s.observable key w).unwritten a e hblob
          rw [hadd]
          exact .cons (.refused hnoted) .nil
      | ok blob =>
          dsimp only
          cases hput : s.native.put (s.nativeKey key) blob w with
          | ok _ w' =>
              obtain ⟨event, hadd, hnoted⟩ := (s.observable key w).stored a blob w' hblob hput
              rw [hadd]
              exact .cons (.stored hnoted) .nil
          | error e w' =>
              obtain ⟨event, hadd, hnoted⟩ := (s.observable key w).refused a blob e w' hblob hput
              rw [hadd]
              exact .cons (.refused hnoted) .nil
  | delete s key =>
      simp only [run, fate]
      cases hcall : s.native.delete (s.nativeKey key) w with
      | ok existed w' =>
          obtain ⟨event, hdelete, hnoted⟩ := (s.observable key w).deleted existed w' hcall
          rw [hdelete]
          exact .cons (.deleted hnoted) .nil
      | error e w' =>
          obtain ⟨event, hdelete, hnoted⟩ := (s.observable key w).kept e w' hcall
          rw [hdelete]
          exact .cons (.refused hnoted) .nil
  | outside change => exact .nil

theorem tells_runAll (w : σ) (deeds : List (Deed σ)) :
    List.Forall₂ Tells (runAll w deeds).1 (fates w deeds) := by
  induction deeds generalizing w with
  | nil => exact .nil
  | cons deed later ih => exact List.rel_append (deed.tells_run w) (ih (deed.run w).2)

theorem fates_unique {reports : List (Logged Reply)} {fates fates' : List Fate}
    (h : List.Forall₂ Tells reports fates) (h' : List.Forall₂ Tells reports fates') : fates = fates' := by
  induction h generalizing fates' with
  | nil =>
      cases h'
      rfl
  | cons hfirst _ ih =>
      cases h' with
      | cons hfirst' hlater' => rw [hfirst.unique hfirst', ih hlater']

/-- Runs that look the same are the same, as far as what became of their calls. -/
theorem fates_eq_of_trace_eq (w : σ) (w' : σ') (deeds : List (Deed σ)) (deeds' : List (Deed σ'))
    (h : trace w deeds = trace w' deeds') : fates w deeds = fates w' deeds' := by
  have hreports := flatMap_sightings_injective h
  have htells := tells_runAll w deeds
  rw [hreports] at htells
  exact fates_unique htells (tells_runAll w' deeds')

/-- Every failure shows, nothing else looks like one, and no call takes more than one native call. By the
answers and the events of any calls, absent, undecodable and failed are told apart. Between the last two the
error decides; for the stores and formats there are, that is who is to blame. -/
theorem told_apart :
    (∀ {σ α : Type} (s : SecretStore σ α) (key : String) (w : σ), s.Observable key w ∧
      (s.native.BlamesItself → s.format.BlamesText →
        SecretStore.diagnosis (s.get key w).1 = s.causeOf key w)) ∧
    ((∀ secure, (MemoryStore.native secure).BlamesItself) ∧
      (∀ path, (FileStore.native path).BlamesItself) ∧ (∀ p, (Keyring.native p).BlamesItself) ∧
      ∀ kind : SecretKind, kind.format.BlamesText) ∧
    (∀ {σ σ' : Type} (w : σ) (w' : σ') (deeds : List (Deed σ)) (deeds' : List (Deed σ')),
      trace w deeds = trace w' deeds' → fates w deeds = fates w' deeds') ∧
    ∀ {σ : Type} (w : σ) (made : List NativeCall) (deeds : List (Deed σ)),
      runAll (w, made) (deeds.map recorded) =
          ((runAll w deeds).1, (runAll w deeds).2, made ++ deeds.flatMap asks) ∧
        ∀ deed ∈ deeds, deed.asks.length ≤ 1 :=
  ⟨fun s key w => ⟨s.observable key w,
      fun hnative hformat => SecretStore.diagnosis_get hnative hformat key w⟩,
    ⟨MemoryStore.blamesItself, FileStore.blamesItself, Keyring.blamesItself, SecretKind.blamesText⟩,
    fates_eq_of_trace_eq,
    fun w made deeds => ⟨runAll_recorded w made deeds, fun deed _ => deed.length_asks_le⟩⟩

open Request (memoryCredentials) in
/-- Of two reads of what cannot be decoded, it shows which one met a store that failed. -/
theorem told_apart_in_memory :
    let read : Deed MemoryStore := .get memoryCredentials.store "mail"
    let failing (on : Bool) : Deed MemoryStore := .outside fun w => { w with failing := on }
    let start : MemoryStore := ⟨[(memoryCredentials.nativeKey "mail", "junk")], false⟩
    trace start [read, failing true, read] ≠ trace start [failing true, read, failing false, read] := by
  intro read failing start h
  have hfates := told_apart.2.2.1 _ _ _ _ h
  revert hfates
  decide +kernel

end Deed
end Strongbox
