import Strongbox.Proofs.FileStore.Elsewhere
import Strongbox.Proofs.Provider.Must
/-! What gets into the plain file of a provider. Secure stores may come and go between any two calls;
the file changes only where a caller that allows for it changes a secret while no store is found. -/
namespace Strongbox

open Log

theorem StoreCall.after_onPart {σ τ α : Type} (part : τ → σ) (set : σ → τ → τ) (call : StoreCall σ α)
    (t : τ) : Call.after (call.onPart part set t) = set (Call.after (call (part t))) t := by
  unfold StoreCall.onPart
  cases call (part t) <;> rfl

/-- What a caller does with the store that it was given. -/
inductive Operation (kind : SecretKind) where
  | get (key : String)
  | add (key : String) (a : kind.Content)
  | delete (key : String)

/-- What the caller learns. -/
inductive VisitOutcome where
  | refused (e : SecretError)
  | selected
  | read (found : Option Secret)
  | accepted (answer : Bool)
  deriving DecidableEq, Repr

namespace Operation

variable {σ : Type} {kind : SecretKind}

def run (s : SecretStore σ kind.Content) (w : σ) : Operation kind → VisitOutcome × σ
  | get key => (.read ((s.get key w).1.value.map kind.secret), (s.get key w).2)
  | add key a => (.accepted (s.add key a w).1.value, (s.add key a w).2)
  | delete key => (.accepted (s.delete key w).1.value, (s.delete key w).2)

/-- What one call of a native store leaves. -/
def left (native : NativeStore σ) (nativeKey : String → NativeKey) (w : σ) : Operation kind → σ
  | get key => Call.after (native.get (nativeKey key) w)
  | add key a => Call.after (native.put (nativeKey key) (kind.secret a).encodeDocument w)
  | delete key => Call.after (native.delete (nativeKey key) w)

theorem run_left {native : NativeStore σ} (s : Opened native) (w : σ) (operation : Operation s.kind) :
    (operation.run s.store w).2 = operation.left native s.nativeKey w := by
  cases operation with
  | get key => exact s.after_get key w
  | add key a => exact s.after_add key a w
  | delete key => exact s.after_delete key w

end Operation

/-- One selection and what is done with the store. The detector may answer anything, each time anew. -/
structure Visit (ρ : Type) where
  level : SecurityLevel
  kind : SecretKind
  answer : Logged (Except SecretError (NativeStore (Backends ρ)))
  operation : Option (Operation kind)

/-- What happened at a visit. -/
structure Moment (ρ : Type) where
  before : Backends ρ
  visit : Visit ρ
  outcome : VisitOutcome
  after : Backends ρ

namespace Provider

variable {ρ : Type}

/-- The provider at a time when its detector gives an answer. -/
def finding (p : Provider ρ) (answer : Logged (Except SecretError (NativeStore (Backends ρ)))) :
    Provider ρ :=
  { p with detect := fun _ _ _ => answer }

def visit (p : Provider ρ) (b : Backends ρ) (v : Visit ρ) : VisitOutcome × Backends ρ :=
  match ((p.finding v.answer).store v.level v.kind.format b).value with
  | .error e => (.refused e, b)
  | .ok s => match v.operation with
    | none => (.selected, b)
    | some operation => operation.run s b

def trace (p : Provider ρ) (b : Backends ρ) : List (Visit ρ) → List (Moment ρ)
  | [] => []
  | v :: later => ⟨b, v, (p.visit b v).1, (p.visit b v).2⟩ :: p.trace (p.visit b v).2 later

/-- Native key of a secret in the name space of the provider. -/
def nativeKey (p : Provider ρ) (kind : SecretKind) (key : String) : NativeKey :=
  ⟨p.space, kind.typeName, key, p.space_component, kind.isComponent_typeName⟩

/-- The operation changes what is in the plain file: it adds, or it deletes what is there. -/
def Changes (p : Provider ρ) (disk : Disk) {kind : SecretKind} : Operation kind → Prop
  | .get _ => False
  | .add _ _ => True
  | .delete key => ∃ d, FileStore.Holds p.fallback disk d ∧
      (d.get? (p.nativeKey kind key).service (p.nativeKey kind key).key).isSome

/-- The visit was one to a store over a certain native store: nothing was done, or one of its calls. -/
def ActsOn (p : Provider ρ) (m : Moment ρ) (native : NativeStore (Backends ρ)) : Prop :=
  ∃ s, SecretStore.make native p.space m.visit.kind.format = .ok s ∧
    match m.visit.operation with
    | none => m.outcome = .selected ∧ m.after = m.before
    | some operation => (m.outcome, m.after) = operation.run s m.before ∧
        m.after = operation.left native (p.nativeKey m.visit.kind) m.before

/-- What holds at every visit. -/
structure Contained (p : Provider ρ) (m : Moment ρ) : Prop where
  file : m.after.disk.nodeAt? p.fallback ≠ m.before.disk.nodeAt? p.fallback →
    m.visit.level = .optional ∧ (∃ e, m.visit.answer.value = .error e) ∧
      ∃ operation, m.visit.operation = some operation ∧ p.Changes m.before.disk operation
  must : m.visit.level = .must → ∀ e, m.visit.answer.value = .error e →
    (∃ reason, m.outcome = .refused (.unavailable reason)) ∧ m.after = m.before
  found : ∀ native, m.visit.answer.value = .ok native → p.ActsOn m native
  bare : m.visit.operation = none → m.after = m.before

/-- Calls that leave what is at a path, and make no link. -/
def Spared (path : String) (b b' : Backends ρ) : Prop :=
  b'.disk.Sound ∧ b'.disk.nodeAt? path = b.disk.nodeAt? path

/-- A native store that is no file store on a path: none of its calls changes what is there. -/
structure Avoids (path : String) (native : NativeStore (Backends ρ)) : Prop where
  put : ∀ {b : Backends ρ}, b.disk.Sound → ∀ key blob, Spared path b (Call.after (native.put key blob b))
  get : ∀ {b : Backends ρ}, b.disk.Sound → ∀ key, Spared path b (Call.after (native.get key b))
  delete : ∀ {b : Backends ρ}, b.disk.Sound → ∀ key, Spared path b (Call.after (native.delete key b))

variable {p : Provider ρ} {b : Backends ρ} {v : Visit ρ} {native : NativeStore (Backends ρ)}

theorem Avoids.left {path : String} (h : Avoids path native) (hsound : b.disk.Sound) {kind : SecretKind}
    (nativeKey : String → NativeKey) (operation : Operation kind) :
    Spared path b (operation.left native nativeKey b) := by
  cases operation with
  | get key => exact h.get hsound _
  | add key a => exact h.put hsound _ _
  | delete key => exact h.delete hsound _

/-- A store that is kept anywhere but on the disk. -/
theorem avoids_within {σ : Type} {part : Backends ρ → σ} {set : σ → Backends ρ → Backends ρ}
    (hdisk : ∀ s b, (set s b).disk = b.disk) (path : String) (native : NativeStore σ) :
    Avoids path (native.within part set) := by
  have hspared : ∀ {α : Type} {b : Backends ρ} (call : StoreCall σ α), b.disk.Sound →
      Spared path b (Call.after (call.onPart part set b)) := by
    intro α b call hsound
    rw [StoreCall.after_onPart, Spared, hdisk]
    exact ⟨hsound, rfl⟩
  exact ⟨fun hsound _ _ => hspared _ hsound, fun hsound _ => hspared _ hsound,
    fun hsound _ => hspared _ hsound⟩

theorem avoids_secret (path : String) (k : KeyringPlatform) :
    Avoids path (Backends.secret k : NativeStore (Backends ρ)) := by
  unfold Backends.secret
  refine avoids_within ?_ path (Keyring.native k)
  exact fun _ _ => rfl

/-- A store in another file of the working directory, with another temporary file. -/
theorem avoids_file {path other : String} (hpath : FileStore.IsName path)
    (hbeside : FileStore.IsName (FileStore.temporary path)) (hother : FileStore.IsName other)
    (hne : other ≠ path) (hne' : other ≠ FileStore.temporary path) :
    Avoids other (Backends.file path : NativeStore (Backends ρ)) := by
  have hplace : ∀ disk, FileStore.Other path other disk := fun disk =>
    ⟨hpath.elsewhere hother hne disk, hbeside.elsewhere hother hne' disk⟩
  refine ⟨fun {b} hsound key blob => ?_, fun {b} hsound key => ?_, fun {b} hsound key => ?_⟩
  · have hevolves := FileStore.put_evolves hsound path key blob
    simp only [Backends.file, NativeStore.within, FileStore.native, Spared, StoreCall.after_onPart]
    exact ⟨hevolves.sound hsound,
      FileStore.put_elsewhere hsound (hpath.housed b.disk) (hplace b.disk) key blob⟩
  · have huntouched := FileStore.get_untouched path key b.disk
    simp only [Backends.file, NativeStore.within, FileStore.native, Spared, StoreCall.after_onPart]
    exact ⟨hsound.untouched huntouched, huntouched.nodeAt? other⟩
  · have hevolves := FileStore.delete_evolves hsound path key
    simp only [Backends.file, NativeStore.within, FileStore.native, Spared, StoreCall.after_onPart]
    exact ⟨hevolves.sound hsound,
      FileStore.delete_elsewhere hsound (hpath.housed b.disk) (hplace b.disk) key⟩

/-! ### One visit -/

/-- The moment of a visit. -/
def moment (p : Provider ρ) (b : Backends ρ) (v : Visit ρ) : Moment ρ :=
  ⟨b, v, (p.visit b v).1, (p.visit b v).2⟩

theorem nativeKey_opened (p : Provider ρ) (s : Opened native) (h : s.space = p.space) (key : String) :
    s.nativeKey key = p.nativeKey s.kind key :=
  NativeKey.ext ((s.space_nativeKey key).trans h) (s.typeName_nativeKey key) rfl

theorem visit_of_selected (h : ((p.finding v.answer).select v.level b).value = .ok native) :
    p.ActsOn (p.moment b v) native := by
  obtain ⟨s, hmake, -⟩ :=
    SecretStore.make_of_components native p.space_component v.kind.isComponent_format
  have hstore : ((p.finding v.answer).store v.level v.kind.format b).value = .ok s := by
    simp only [store, Logged.map, h]
    exact hmake
  have hkey : s.nativeKey = p.nativeKey v.kind :=
    funext (nativeKey_opened p ⟨p.space, v.kind, s, hmake⟩ rfl)
  refine ⟨s, hmake, ?_⟩
  simp only [moment, visit, hstore]
  cases v.operation with
  | none => exact ⟨rfl, rfl⟩
  | some operation =>
      refine ⟨rfl, ?_⟩
      rw [← hkey]
      exact operation.run_left ⟨p.space, v.kind, s, hmake⟩ b

theorem visit_of_refused {e : SecretError}
    (h : ((p.finding v.answer).select v.level b).value = .error e) :
    p.visit b v = (.refused e, b) := by
  rw [visit, store_of_refused h]

theorem select_optional_of_missing {e : SecretError}
    (h : (p.detect p.platform p.space b).value = .error e) :
    (p.select .optional b).value = .ok (Backends.file p.fallback) := by
  simp only [select, Logged.inside, Logged.andThen, h]
  rfl

theorem ActsOn.after_bare {m : Moment ρ} (h : p.ActsOn m native) (hbare : m.visit.operation = none) :
    m.after = m.before := by
  obtain ⟨s, -, hacts⟩ := h
  rw [hbare] at hacts
  exact hacts.2

theorem ActsOn.after_operation {m : Moment ρ} (h : p.ActsOn m native)
    {operation : Operation m.visit.kind} (hoperation : m.visit.operation = some operation) :
    m.after = operation.left native (p.nativeKey m.visit.kind) m.before := by
  obtain ⟨s, -, hacts⟩ := h
  rw [hoperation] at hacts
  exact hacts.2

/-- The store in the plain file changes the file only by adding, or by deleting what is there. -/
theorem left_file (hsound : b.disk.Sound) {kind : SecretKind} (operation : Operation kind) :
    (operation.left (Backends.file p.fallback) (p.nativeKey kind) b).disk.Sound ∧
      ((operation.left (Backends.file p.fallback) (p.nativeKey kind) b).disk.nodeAt? p.fallback ≠
        b.disk.nodeAt? p.fallback → p.Changes b.disk operation) := by
  cases operation with
  | get key =>
      have huntouched := FileStore.get_untouched p.fallback (p.nativeKey kind key) b.disk
      simp only [Operation.left, Backends.file, NativeStore.within, FileStore.native,
        StoreCall.after_onPart]
      exact ⟨hsound.untouched huntouched, fun hne => hne (huntouched.nodeAt? _)⟩
  | add key a =>
      have hevolves := FileStore.put_evolves hsound p.fallback (p.nativeKey kind key)
        (kind.secret a).encodeDocument
      simp only [Operation.left, Backends.file, NativeStore.within, FileStore.native,
        StoreCall.after_onPart]
      exact ⟨hevolves.sound hsound, fun _ => trivial⟩
  | delete key =>
      have hcases := FileStore.delete_cases hsound p.fallback (p.nativeKey kind key)
      simp only [Operation.left, Backends.file, NativeStore.within, FileStore.native,
        StoreCall.after_onPart]
      cases hcall : FileStore.delete p.fallback (p.nativeKey kind key) b.disk with
      | ok existed disk' =>
          rw [hcall] at hcases
          cases existed with
          | true =>
              obtain ⟨d, hholds, hentry, hevolves, -⟩ := hcases
              exact ⟨hevolves.sound hsound, fun _ => ⟨d, hholds, hentry⟩⟩
          | false => exact ⟨hsound.untouched hcases.1, fun hne => absurd (hcases.1.nodeAt? _) hne⟩
      | error e disk' =>
          rw [hcall] at hcases
          exact ⟨hcases.2.evolves.sound hsound, fun hne => absurd hcases.2.file hne⟩

theorem contained_of_found (hsound : b.disk.Sound) (hfound : v.answer.value = .ok native)
    (havoids : Avoids p.fallback native) :
    (p.moment b v).after.disk.Sound ∧ p.Contained (p.moment b v) := by
  have hacts : p.ActsOn (p.moment b v) native := visit_of_selected (select_of_found hfound v.level)
  have hspared : Spared p.fallback b (p.moment b v).after := by
    cases hoperation : v.operation with
    | none =>
        rw [hacts.after_bare hoperation]
        exact ⟨hsound, rfl⟩
    | some operation =>
        rw [hacts.after_operation hoperation]
        exact havoids.left hsound _ operation
  refine ⟨hspared.1, fun hne => absurd hspared.2 hne, fun _ e he => ?_, fun native' hnative' => ?_,
    hacts.after_bare⟩
  · exact absurd (hfound.symm.trans he) (by simp)
  · cases hfound.symm.trans hnative'
    exact hacts

theorem contained_of_missing {e : SecretError} (hsound : b.disk.Sound)
    (hmissing : v.answer.value = .error e) :
    (p.moment b v).after.disk.Sound ∧ p.Contained (p.moment b v) := by
  have hfound : ∀ native, (p.moment b v).visit.answer.value = .ok native →
      p.ActsOn (p.moment b v) native := fun _ hnative =>
    absurd (hmissing.symm.trans hnative) (by simp)
  cases hlevel : v.level with
  | must =>
      obtain ⟨reason, hselect⟩ := select_must_of_missing (p := p.finding v.answer) (b := b) hmissing
      have hrefused := visit_of_refused (hlevel.symm ▸ hselect)
      have hafter : (p.moment b v).after = b := congrArg Prod.snd hrefused
      refine ⟨?_, fun hne => absurd (by rw [hafter]; rfl) hne,
        fun _ _ _ => ⟨⟨reason, congrArg Prod.fst hrefused⟩, hafter⟩, hfound, fun _ => hafter⟩
      rw [hafter]
      exact hsound
  | optional =>
      have hselect := select_optional_of_missing (p := p.finding v.answer) (b := b) hmissing
      have hacts : p.ActsOn (p.moment b v) (Backends.file p.fallback) :=
        visit_of_selected (hlevel.symm ▸ hselect)
      have hmust : (p.moment b v).visit.level = .must → ∀ e, (p.moment b v).visit.answer.value = .error e →
          (∃ reason, (p.moment b v).outcome = .refused (.unavailable reason)) ∧
            (p.moment b v).after = (p.moment b v).before :=
        fun hmust => absurd (hlevel.symm.trans hmust) (by simp)
      cases hoperation : v.operation with
      | none =>
          have hafter := hacts.after_bare hoperation
          refine ⟨?_, fun hne => absurd (by rw [hafter]) hne, hmust, hfound, fun _ => hafter⟩
          rw [hafter]
          exact hsound
      | some operation =>
          obtain ⟨hsound', hchanges⟩ := left_file (p := p) hsound operation
          have hafter := hacts.after_operation hoperation
          refine ⟨?_, fun hne => ⟨hlevel, ⟨e, hmissing⟩, operation, hoperation, hchanges ?_⟩, hmust,
            hfound, hacts.after_bare⟩
          · rw [hafter]
            exact hsound'
          · rwa [hafter] at hne

/-! ### Whole runs -/

/-- Whatever the detector answers from call to call, only callers that allow for the plain file get
anything into it or out of it, and only while no store is found. -/
theorem contained_of_mem_trace (hsound : b.disk.Sound) {visits : List (Visit ρ)}
    (havoids : ∀ v ∈ visits, ∀ native, v.answer.value = .ok native → Avoids p.fallback native) :
    ∀ m ∈ p.trace b visits, p.Contained m := by
  induction visits generalizing b with
  | nil =>
      intro m hm
      cases hm
  | cons v later ih =>
      have hfirst : (p.moment b v).after.disk.Sound ∧ p.Contained (p.moment b v) := by
        cases hanswer : v.answer.value with
        | ok native =>
            exact contained_of_found hsound hanswer (havoids v List.mem_cons_self native hanswer)
        | error e => exact contained_of_missing hsound hanswer
      intro m hm
      rcases List.mem_cons.1 hm with rfl | hm
      · exact hfirst.2
      · exact ih hfirst.1 (fun v' hv' => havoids v' (List.mem_cons_of_mem v hv')) m hm

/-- The keyring goes away and comes back while credentials are added, read and deleted, and once a store
in another file is found instead. -/
theorem contained_without_keyring :
    let b : Backends MemoryStore := ⟨⟨[], [], [], 0⟩, .empty, .empty⟩
    let there : Logged (Except SecretError (NativeStore (Backends MemoryStore))) :=
      ⟨.ok (Backends.secret .secretService), []⟩
    let besides : Logged (Except SecretError (NativeStore (Backends MemoryStore))) :=
      ⟨.ok (Backends.file "other.json"), []⟩
    let gone : Logged (Except SecretError (NativeStore (Backends MemoryStore))) :=
      ⟨.error (.unavailable "locked"), []⟩
    let secret : Credential := ⟨"user", "password"⟩
    let visits : List (Visit MemoryStore) :=
      [⟨.must, .credential, gone, some (.add "a" secret)⟩, ⟨.optional, .credential, gone, none⟩,
        ⟨.optional, .credential, gone, some (.add "a" secret)⟩,
        ⟨.must, .credential, there, some (.add "b" secret)⟩,
        ⟨.optional, .credential, besides, some (.add "b" secret)⟩,
        ⟨.optional, .credential, there, some (.delete "a")⟩,
        ⟨.optional, .credential, gone, some (.get "b")⟩]
    (b.disk.Sound ∧ ∀ v ∈ visits, ∀ native, v.answer.value = .ok native →
      Avoids ofPlainMemory.fallback native) ∧
    ∀ m ∈ ofPlainMemory.trace b visits, ofPlainMemory.Contained m := by
  intro b there besides gone secret visits
  have hsound : b.disk.Sound := Disk.sound_blank []
  have havoids : ∀ v ∈ visits, ∀ native, v.answer.value = .ok native →
      Avoids ofPlainMemory.fallback native := by
    intro v hv native hnative
    have hanswer : v.answer = there ∨ v.answer = besides ∨ v.answer = gone := by
      simp only [visits, List.mem_cons, List.not_mem_nil, or_false] at hv
      rcases hv with rfl | rfl | rfl | rfl | rfl | rfl | rfl <;> simp
    rcases hanswer with hanswer | hanswer | hanswer
    · rw [hanswer] at hnative
      cases hnative
      exact avoids_secret _ _
    · rw [hanswer] at hnative
      cases hnative
      exact avoids_file (by decide +kernel) (by decide +kernel) (by decide +kernel)
        (by decide +kernel) (by decide +kernel)
    · rw [hanswer] at hnative
      cases hnative
  exact ⟨⟨hsound, havoids⟩, contained_of_mem_trace hsound havoids⟩

end Provider
end Strongbox
