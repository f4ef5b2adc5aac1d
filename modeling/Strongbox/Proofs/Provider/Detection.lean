import Strongbox.Proofs.Native.Keyring
import Strongbox.Proofs.NativeKey.Rendering
import Strongbox.Provider
/-! What finding the keyring depends on. One item of it is looked up to see whether it answers; nothing is
changed, and nothing else that the keyring holds matters. But a keyring that answers that the bytes of the
item are no text is taken for one that does not answer. -/
namespace Strongbox

namespace Keyring

variable {k k' : Keyring} {space : String}

/-- A keyring that is there: lookups are not refused, whatever they find. -/
structure Answers (k : Keyring) : Prop where
  build : k.faults.build = none
  get : k.faults.get = none

/-- Item that is looked up to see whether a keyring answers. -/
def probed (space : String) : String × String := (space ++ ":Probe", probeKey)

/-- Nothing but a text is found under the item. -/
def legible (k : Keyring) (item : String × String) : Bool :=
  (k.find? item).all fun bytes => (String.fromUTF8? bytes).isSome

/-! ### Looking -/

theorem looks_refuseIf (fault : KeyringFaults → Option KeyringError) : Call.Looks (refuseIf fault) := by
  intro k
  unfold refuseIf
  cases fault k.faults <;> rfl

theorem looks_buildEntry (key : NativeKey) : Call.Looks (buildEntry key) :=
  (looks_refuseIf _).bind fun _ => Call.looks_pure _

theorem looks_getPassword (item : String × String) : Call.Looks (getPassword item) := by
  refine (looks_refuseIf _).bind fun _ => Call.looks_get.bind fun k => ?_
  cases k.find? item with
  | none => exact Call.looks_throw _
  | some bytes =>
      dsimp only
      cases String.fromUTF8? bytes with
      | none => exact Call.looks_throw _
      | some text => exact Call.looks_pure _

/-! ### Probing -/

theorem itemOf_probe {key : NativeKey} (h : NativeKey.make space "Probe" probeKey = .ok key) :
    itemOf key = probed space := by
  obtain ⟨rfl, htype, hkey⟩ := NativeKey.make_eq_ok_iff.1 h
  rw [itemOf, NativeKey.service, htype, hkey, String.append_assoc]
  rfl

/-- Of a keyring that answers, a probe sees only whether that item is a text. -/
theorem probe_of_answers (hspace : NativeKey.isComponent space = true) (hk : k.Answers)
    {p : KeyringPlatform} (hp : KeyringPlatform.ofBuild = some p) :
    probe p space k = if k.legible (probed space) then ⟨.ok (), [detected p]⟩
      else ⟨.error (.unavailable
        s!"{p.displayName} did not respond: {KeyringError.badEncoding.message}"), []⟩ := by
  obtain ⟨key, hkey⟩ := (NativeKey.exists_make_iff space "Probe" probeKey).2 ⟨hspace, by decide⟩
  have hget := getPassword_of_willing hk.get (probed space)
  unfold probe legible
  rw [if_neg (not_not_intro hp), hkey]
  simp only [explained, buildEntry_of_willing hk.build key, itemOf_probe hkey]
  cases hfind : k.find? (probed space) with
  | none =>
      rw [hfind] at hget
      simp only [hget]
      rfl
  | some bytes =>
      rw [hfind] at hget
      cases htext : String.fromUTF8? bytes with
      | none =>
          simp only [htext] at hget
          simp only [hget, Option.all_some, htext]
          rfl
      | some text =>
          simp only [htext] at hget
          simp only [hget, Option.all_some, htext]
          rfl

theorem probe_value_iff (hspace : NativeKey.isComponent space = true) (hk : k.Answers)
    {p : KeyringPlatform} (hp : KeyringPlatform.ofBuild = some p) :
    (probe p space k).value = .ok () ↔ k.legible (probed space) = true := by
  rw [probe_of_answers hspace hk hp]
  cases k.legible (probed space) with
  | true => exact ⟨fun _ => rfl, fun _ => rfl⟩
  | false => exact ⟨fun h => (nomatch h), fun h => (nomatch h)⟩

/-- The keyring of another build is not even asked. -/
theorem probe_of_other {p : KeyringPlatform} (hp : KeyringPlatform.ofBuild ≠ some p) (space : String)
    (k k' : Keyring) : k.probe p space = k'.probe p space := by
  unfold probe
  rw [if_pos hp, if_pos hp]

end Keyring

/-! ### Detecting and selecting -/

/-- Nobody who looks for the keyring tells two keyrings apart: not by what is found, nor by what is
logged on the way. -/
structure DetectedAlike (space : String) (k k' : Keyring) : Prop where
  probe : ∀ p, KeyringPlatform.ofBuild = some p → k.probe p space = k'.probe p space
  detect : ∀ {ρ : Type} (session : Option String) (platform : Platform) (disk : Disk) (rest : ρ),
    Detector.keyring session platform space ⟨disk, k, rest⟩ =
      Detector.keyring session platform space ⟨disk, k', rest⟩
  select : ∀ {ρ : Type} (p : Provider ρ) (session : Option String), p.space = space →
    p.detect = Detector.keyring session → ∀ level disk rest,
      p.select level ⟨disk, k, rest⟩ = p.select level ⟨disk, k', rest⟩

variable {space : String} {k k' : Keyring}

theorem Detector.keyring_congr {ρ : Type}
    (h : ∀ p, KeyringPlatform.ofBuild = some p → k.probe p space = k'.probe p space)
    (session : Option String) (platform : Platform) (disk : Disk) (rest : ρ) :
    Detector.keyring session platform space ⟨disk, k, rest⟩ =
      Detector.keyring session platform space ⟨disk, k', rest⟩ := by
  unfold Detector.keyring
  cases platform.keyring? with
  | none => rfl
  | some p =>
      have hprobe : k.probe p space = k'.probe p space := by
        by_cases hp : KeyringPlatform.ofBuild = some p
        · exact h p hp
        · exact Keyring.probe_of_other hp space k k'
      simp only [hprobe]

theorem detectedAlike_of_probe
    (h : ∀ p, KeyringPlatform.ofBuild = some p → k.probe p space = k'.probe p space) :
    DetectedAlike space k k' where
  probe := h
  detect := Detector.keyring_congr h
  select := by
    rintro ρ p session rfl hdetect level disk rest
    unfold Provider.select
    rw [hdetect, Detector.keyring_congr h]

/-- Of two keyrings that answer, finding shows no more than whether one item is a text, and it changes
nothing in them. -/
theorem detectedAlike_iff (hspace : NativeKey.isComponent space = true) (hk : k.Answers)
    (hk' : k'.Answers) :
    (DetectedAlike space k k' ↔
      k.legible (Keyring.probed space) = k'.legible (Keyring.probed space)) ∧
    (∀ p, KeyringPlatform.ofBuild = some p →
      ((k.probe p space).value = .ok () ↔ k.legible (Keyring.probed space) = true)) ∧
    ∀ key, Call.after ((Keyring.buildEntry key >>= Keyring.getPassword) k) = k := by
  refine ⟨⟨fun halike => ?_, fun hlegible => ?_⟩, ?_, ?_⟩
  · have hvalue := Keyring.probe_value_iff hspace hk (p := .secretService) rfl
    have hvalue' := Keyring.probe_value_iff hspace hk' (p := .secretService) rfl
    rw [halike.probe _ rfl] at hvalue
    exact Bool.eq_iff_iff.2 (hvalue.symm.trans hvalue')
  · refine detectedAlike_of_probe fun p hp => ?_
    rw [Keyring.probe_of_answers hspace hk hp, Keyring.probe_of_answers hspace hk' hp, hlegible]
  · exact fun p hp => Keyring.probe_value_iff hspace hk hp
  · exact fun key => ((Keyring.looks_buildEntry key).bind Keyring.looks_getPassword) k

/-- A keyring in which another program has put a text under the item, and bytes elsewhere. -/
def occupied : Keyring where
  items := [(Keyring.probed "test", "here".toUTF8), (("test:Credential", "mail"), ⟨#[0xff]⟩)]
  faults := ⟨none, none, none, none⟩

theorem detectedAlike_occupied : DetectedAlike "test" .empty occupied :=
  (detectedAlike_iff (by decide) ⟨rfl, rfl⟩ ⟨rfl, rfl⟩).1.2 (by decide +kernel)

/-- A keyring in which the bytes under the item are no text. -/
def garbled : Keyring where
  items := [(Keyring.probed "test", ⟨#[0xff]⟩)]
  faults := ⟨none, none, none, none⟩

/-- A keyring that answers is taken for one that does not. -/
theorem not_detectedAlike : ¬ ∀ space k k', NativeKey.isComponent space = true →
    Keyring.Answers k → Keyring.Answers k' → DetectedAlike space k k' := by
  intro h
  have hprobe := (h "test" .empty garbled (by decide) ⟨rfl, rfl⟩ ⟨rfl, rfl⟩).probe _ rfl
  have hfound : (Keyring.empty.probe .secretService "test").value.isOk = true := by
    decide +kernel
  have hlost : (garbled.probe .secretService "test").value.isOk = false := by
    decide +kernel
  rw [hprobe, hlost] at hfound
  cases hfound

end Strongbox
