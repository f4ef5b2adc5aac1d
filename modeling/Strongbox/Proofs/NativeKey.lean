import Strongbox.NativeKey
/-! Native keys are told apart by what a store writes for them, whatever their logical keys hold. -/
namespace Strongbox.NativeKey

theorem separator_not_mem {s : String} (h : isComponent s = true) : separator ∉ s.toList := by
  simp only [isComponent, Bool.and_eq_true, Bool.not_eq_true', List.contains_eq_mem,
    decide_eq_false_iff_not] at h
  exact h.2

theorem checkComponent_of_isComponent {value : String} (field : String)
    (h : isComponent value = true) : checkComponent field value = .ok () := by
  simp only [isComponent, Bool.and_eq_true, Bool.not_eq_true'] at h
  rw [checkComponent, h.1, h.2]
  rfl

theorem cut_append {before after : List Char} (h : separator ∉ before) :
    cut (before ++ separator :: after) = some (before, after) := by
  induction before with
  | nil => rw [List.nil_append, cut, if_pos rfl]
  | cons c before ih =>
      simp only [List.mem_cons, not_or] at h
      rw [List.cons_append, cut, if_neg (Ne.symm h.1), ih h.2]
      rfl

theorem toList_service (k : NativeKey) :
    k.service.toList = k.space.toList ++ separator :: k.typeName.toList := by
  simp [service, separator]

theorem cut_service (k : NativeKey) :
    cut k.service.toList = some (k.space.toList, k.typeName.toList) := by
  rw [toList_service, cut_append (separator_not_mem k.space_component)]

theorem ext {k k' : NativeKey} (hspace : k.space = k'.space) (htype : k.typeName = k'.typeName)
    (hkey : k.key = k'.key) : k = k' := by
  cases k
  cases k'
  cases hspace
  cases htype
  cases hkey
  rfl

/-- Service and user tell keys apart, since the service parts in one way only. -/
theorem eq_of_service {k k' : NativeKey} (hservice : k.service = k'.service)
    (hkey : k.key = k'.key) : k = k' := by
  have hcut := k.cut_service
  rw [hservice, k'.cut_service] at hcut
  simp only [Option.some.injEq, Prod.mk.injEq] at hcut
  exact ext (String.toList_injective hcut.1.symm) (String.toList_injective hcut.2.symm) hkey

theorem service_key_iff (k k' : NativeKey) : k.service = k'.service ∧ k.key = k'.key ↔ k = k' :=
  ⟨fun h => eq_of_service h.1 h.2, fun h => h ▸ ⟨rfl, rfl⟩⟩

end Strongbox.NativeKey
