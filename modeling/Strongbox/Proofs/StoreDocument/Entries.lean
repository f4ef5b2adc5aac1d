import Strongbox.Proofs.SortedMap
import Strongbox.StoreDocument
/-! A document as a map from service and key to blob: what inserting and erasing do to its lookups,
and to which services are in it. -/
namespace Strongbox.StoreDocument

theorem ext {d d' : StoreDocument} (hversion : d.version = d'.version)
    (hentries : d.entries = d'.entries) : d = d' := by
  cases d
  cases d'
  cases hversion
  cases hentries
  rfl

@[simp] theorem get?_empty (service key : String) : empty.get? service key = none := rfl

@[simp] theorem version_erase (d : StoreDocument) (service key : String) :
    (d.erase service key).version = d.version := by
  unfold erase
  split <;> rfl

theorem get?_insert (d : StoreDocument) (service key blob service' key' : String) :
    (d.insert service key blob).get? service' key' =
      if service' = service ∧ key' = key then some blob else d.get? service' key' := by
  by_cases hs : service' = service
  · subst hs
    cases h : d.entries.get? service' <;>
      by_cases hk : key' = key <;> simp [get?, insert, SortedMap.get?_insert, h, hk]
  · simp [get?, insert, SortedMap.get?_insert, hs]

theorem get?_erase (d : StoreDocument) (service key service' key' : String) :
    (d.erase service key).get? service' key' =
      if service' = service ∧ key' = key then none else d.get? service' key' := by
  cases h : d.entries.get? service with
  | none =>
      by_cases hs : service' = service
      · subst hs
        simp [get?, erase, h]
      · simp [erase, h, hs]
  | some inner =>
      have hinner := inner.get?_erase key' key
      by_cases hempty : (inner.erase key).isEmpty = true
      · by_cases hs : service' = service
        · subst hs
          have hnone := SortedMap.get?_of_isEmpty hempty key'
          rw [hinner] at hnone
          by_cases hk : key' = key <;> simp_all [get?, erase, SortedMap.get?_erase]
        · simp [get?, erase, h, hempty, SortedMap.get?_erase, hs]
      · by_cases hs : service' = service
        · subst hs
          simp [get?, erase, h, hempty, SortedMap.get?_insert, hinner]
        · simp [get?, erase, h, hempty, SortedMap.get?_insert, hs]

/-! ### Services -/

theorem entries_insert (d : StoreDocument) (service key blob service' : String) :
    (d.insert service key blob).entries.get? service' =
      if service' = service then some (((d.entries.get? service).getD .empty).insert key blob)
      else d.entries.get? service' :=
  d.entries.get?_insert service' service _

/-- What is left of a service, if anything is. -/
def kept (inner : SortedMap String) : Option (SortedMap String) :=
  if inner.isEmpty then none else some inner

theorem getD_kept (inner : SortedMap String) : (kept inner).getD .empty = inner := by
  unfold kept
  split
  · exact (SortedMap.eq_empty_of_isEmpty ‹_›).symm
  · rfl

theorem bind_kept (inner : SortedMap String) (key : String) :
    (kept inner).bind (·.get? key) = inner.get? key := by
  unfold kept
  split
  · exact (SortedMap.get?_of_isEmpty ‹_› key).symm
  · rfl

theorem isEmpty_of_kept {old inner : SortedMap String} (h : kept old = some inner) :
    inner.isEmpty = false := by
  unfold kept at h
  split at h
  · cases h
  · cases h
    exact Bool.eq_false_iff.2 ‹_›

theorem kept_of_get? {inner : SortedMap String} {key : String} (h : (inner.get? key).isSome) :
    kept inner = some inner := by
  rw [kept, SortedMap.isEmpty_of_get? h]
  rfl

theorem entries_erase (d : StoreDocument) (service key service' : String) :
    (d.erase service key).entries.get? service' =
      if service' = service then (d.entries.get? service).bind fun inner => kept (inner.erase key)
      else d.entries.get? service' := by
  unfold erase
  cases h : d.entries.get? service with
  | none =>
      by_cases hs : service' = service
      · rw [if_pos hs, hs, h]
        rfl
      · rw [if_neg hs]
  | some inner =>
      simp only [Option.bind_some, kept]
      cases (inner.erase key).isEmpty with
      | true =>
          simp only [if_true]
          exact d.entries.get?_erase service' service
      | false =>
          simp only [Bool.false_eq_true, if_false]
          exact d.entries.get?_insert service' service _

theorem isSome_entries {d : StoreDocument} {service key : String} (h : (d.get? service key).isSome) :
    (d.entries.get? service).isSome := by
  unfold get? at h
  cases hentry : d.entries.get? service with
  | none =>
      rw [hentry] at h
      cases h
  | some inner => rfl

/-- One document is the other with one binding set or, without a blob, removed. A service that was
touched is there as long as it has a key; every other one is there as it was. -/
structure Rebound (d d' : StoreDocument) (service key : String) (blob : Option String) : Prop where
  bindings : ∀ service' key', d'.get? service' key' =
    if service' = service ∧ key' = key then blob else d.get? service' key'
  touched : (d'.entries.get? service).isSome ↔ ∃ key', (d'.get? service key').isSome
  others : ∀ service', service' ≠ service → d'.entries.get? service' = d.entries.get? service'

theorem rebound_insert (d : StoreDocument) (service key blob : String) :
    Rebound d (d.insert service key blob) service key (some blob) where
  bindings := get?_insert d service key blob
  touched := by
    refine ⟨fun _ => ⟨key, ?_⟩, fun ⟨key', h⟩ => isSome_entries h⟩
    rw [get?_insert, if_pos ⟨rfl, rfl⟩]
    rfl
  others := fun service' hne => (entries_insert d service key blob service').trans (if_neg hne)

theorem rebound_erase (d : StoreDocument) (service key : String) :
    Rebound d (d.erase service key) service key none where
  bindings := get?_erase d service key
  touched := by
    refine ⟨fun h => ?_, fun ⟨key', h⟩ => isSome_entries h⟩
    obtain ⟨inner, hinner⟩ := Option.isSome_iff_exists.1 h
    have hkept := hinner
    rw [entries_erase, if_pos rfl] at hkept
    obtain ⟨old, -, hkept⟩ := Option.bind_eq_some_iff.1 hkept
    have hsome : ¬ ∀ key', inner.get? key' = none := by
      intro hnone
      have hfull := isEmpty_of_kept hkept
      rw [SortedMap.isEmpty_iff.2 hnone] at hfull
      cases hfull
    obtain ⟨key', hkey'⟩ := Classical.not_forall.1 hsome
    refine ⟨key', ?_⟩
    rw [get?, hinner]
    exact Option.isSome_iff_ne_none.2 hkey'
  others := fun service' hne => (entries_erase d service key service').trans (if_neg hne)

end Strongbox.StoreDocument
