import Strongbox.SortedMap
/-! What each update of a sorted map does to its lookups, that the lookups tell what the map is, and
that inserting the bindings of a map one after the other makes the map again. -/
namespace Strongbox.SortedMap

variable {α : Type}

theorem ext {m n : SortedMap α} (h : m.toList = n.toList) : m = n := by
  cases m
  cases n
  cases h
  rfl

theorem lookup_insertInto (j k : String) (v : α) (l : List (String × α)) :
    lookup j (insertInto k v l) = if j = k then some v else lookup j l := by
  induction l with
  | nil => rfl
  | cons p l ih =>
      obtain ⟨k', v'⟩ := p
      unfold insertInto
      split
      · rfl
      split
      · rename_i heq
        subst heq
        by_cases h : j = k <;> simp [lookup, h]
      · rename_i hne
        by_cases h : j = k'
        · have hjk : ¬ j = k := fun heq => hne (heq.symm.trans h)
          simp only [lookup, if_pos h, if_neg hjk]
        · simp only [lookup, if_neg h, ih]

theorem lookup_eraseFrom (j k : String) (l : List (String × α)) :
    lookup j (eraseFrom k l) = if j = k then none else lookup j l := by
  induction l with
  | nil => by_cases h : j = k <;> simp [eraseFrom, lookup, h]
  | cons p l ih =>
      obtain ⟨k', v'⟩ := p
      unfold eraseFrom at ih ⊢
      by_cases hk : k' = k
      · rw [List.filter_cons_of_neg (by simp [hk]), ih, lookup, hk]
        by_cases h : j = k <;> simp [h]
      · rw [List.filter_cons_of_pos (by simp [hk]), lookup, ih, lookup]
        by_cases h : j = k'
        · have hjk : ¬ j = k := fun heq => hk (h.symm.trans heq)
          simp only [if_pos h, if_neg hjk]
        · simp only [if_neg h]

@[simp] theorem get?_empty (j : String) : (empty : SortedMap α).get? j = none := rfl

theorem get?_insert (m : SortedMap α) (j k : String) (v : α) :
    (m.insert k v).get? j = if j = k then some v else m.get? j :=
  lookup_insertInto j k v m.toList

theorem get?_erase (m : SortedMap α) (j k : String) :
    (m.erase k).get? j = if j = k then none else m.get? j :=
  lookup_eraseFrom j k m.toList

theorem get?_of_isEmpty {m : SortedMap α} (h : m.isEmpty = true) (j : String) : m.get? j = none := by
  rw [get?, List.isEmpty_iff.1 h]
  rfl

theorem insertInto_append {k : String} {v : α} {l : List (String × α)} (h : ∀ p ∈ l, p.1 < k) :
    insertInto k v l = l ++ [(k, v)] := by
  induction l with
  | nil => rfl
  | cons p l ih =>
      obtain ⟨k', v'⟩ := p
      have hlt : k' < k := h (k', v') List.mem_cons_self
      have hrest := ih fun q hq => h q (List.mem_cons_of_mem _ hq)
      have hne : ¬ k = k' := fun heq => String.lt_irrefl k (heq ▸ hlt)
      rw [insertInto, if_neg (String.lt_asymm hlt), if_neg hne, hrest, List.cons_append]

/-- Bindings that come in ascending order go to the end one by one. -/
theorem foldl_insert_toList (m : SortedMap α) {later : List (String × α)}
    (h : (m.toList ++ later).Pairwise (·.1 < ·.1)) :
    (later.foldl (fun n p => n.insert p.1 p.2) m).toList = m.toList ++ later := by
  induction later generalizing m with
  | nil => rw [List.foldl_nil, List.append_nil]
  | cons p later ih =>
      have hend : (m.insert p.1 p.2).toList = m.toList ++ [p] :=
        insertInto_append fun q hq => (List.pairwise_append.1 h).2.2 q hq p List.mem_cons_self
      rw [List.foldl_cons, ih, hend, List.append_assoc, List.singleton_append]
      rwa [hend, List.append_assoc, List.singleton_append]

theorem foldl_insert_empty (m : SortedMap α) :
    m.toList.foldl (fun n p => n.insert p.1 p.2) empty = m :=
  ext (foldl_insert_toList empty m.sorted)

/-! ### Maps by their lookups -/

theorem lookup_of_lt {k : String} {l : List (String × α)} (h : ∀ p ∈ l, k < p.1) :
    lookup k l = none := by
  induction l with
  | nil => rfl
  | cons p l ih =>
      have hne : ¬ k = p.1 := fun heq => String.lt_irrefl k (heq ▸ h p List.mem_cons_self)
      rw [lookup, if_neg hne]
      exact ih fun q hq => h q (List.mem_cons_of_mem _ hq)

/-- The first binding of a list is missed in one whose keys all come later. -/
theorem lookup_cons_ne {k : String} {v : α} {l l' : List (String × α)} (h : ∀ p ∈ l', k < p.1) :
    lookup k ((k, v) :: l) ≠ lookup k l' := by
  rw [lookup_of_lt h, lookup, if_pos rfl]
  exact Option.some_ne_none v

theorem eq_of_lookup {l l' : List (String × α)} (hsorted : l.Pairwise (·.1 < ·.1))
    (hsorted' : l'.Pairwise (·.1 < ·.1)) (h : ∀ k, lookup k l = lookup k l') : l = l' := by
  induction l generalizing l' with
  | nil =>
      cases l' with
      | nil => rfl
      | cons p l' => exact absurd (h p.1).symm (lookup_cons_ne fun _ hmem => nomatch hmem)
  | cons p l ih =>
      obtain ⟨k, v⟩ := p
      obtain ⟨hhead, htail⟩ := List.pairwise_cons.1 hsorted
      cases l' with
      | nil => exact absurd (h k) (lookup_cons_ne fun _ hmem => nomatch hmem)
      | cons p' l' =>
          obtain ⟨k', v'⟩ := p'
          obtain ⟨hhead', htail'⟩ := List.pairwise_cons.1 hsorted'
          -- The heads have one key, since the smaller of two would be missed in the other list.
          have hnot : ¬ k < k' := by
            intro hlt
            refine lookup_cons_ne (fun p hp => ?_) (h k)
            rcases List.mem_cons.1 hp with rfl | hp
            · exact hlt
            · exact String.lt_trans hlt (hhead' p hp)
          have hnot' : ¬ k' < k := by
            intro hlt
            refine lookup_cons_ne (fun p hp => ?_) (h k').symm
            rcases List.mem_cons.1 hp with rfl | hp
            · exact hlt
            · exact String.lt_trans hlt (hhead p hp)
          obtain rfl : k = k' :=
            Decidable.byContradiction fun hne => hnot' (lt_of_not_lt_of_ne hnot hne)
          have hvalue := h k
          rw [lookup, lookup, if_pos rfl, if_pos rfl] at hvalue
          cases hvalue
          refine congrArg _ (ih htail htail' fun j => ?_)
          by_cases hj : j = k
          · rw [hj, lookup_of_lt hhead, lookup_of_lt hhead']
          · have hrest := h j
            rwa [lookup, lookup, if_neg hj, if_neg hj] at hrest

theorem ext_get? {m n : SortedMap α} (h : ∀ k, m.get? k = n.get? k) : m = n :=
  ext (eq_of_lookup m.sorted n.sorted h)

theorem isEmpty_iff {m : SortedMap α} : m.isEmpty = true ↔ ∀ k, m.get? k = none := by
  refine ⟨get?_of_isEmpty, fun h => ?_⟩
  obtain rfl : m = empty := ext_get? h
  rfl

theorem eq_empty_of_isEmpty {m : SortedMap α} (h : m.isEmpty = true) : m = empty :=
  ext_get? (get?_of_isEmpty h)

theorem isEmpty_of_get? {m : SortedMap α} {k : String} (h : (m.get? k).isSome) :
    m.isEmpty = false := by
  rw [Bool.eq_false_iff]
  intro hempty
  rw [get?_of_isEmpty hempty] at h
  cases h

/-! ### Updates of two keys -/

variable {j k : String}

theorem insert_comm (m : SortedMap α) (h : j ≠ k) (v w : α) :
    (m.insert j v).insert k w = (m.insert k w).insert j v := by
  refine ext_get? fun i => ?_
  simp only [get?_insert]
  by_cases hi : i = j
  · rw [if_pos hi, if_pos hi, if_neg (hi ▸ h)]
  · rw [if_neg hi, if_neg hi]

theorem erase_comm (m : SortedMap α) (j k : String) : (m.erase j).erase k = (m.erase k).erase j := by
  refine ext_get? fun i => ?_
  simp only [get?_erase]
  by_cases hi : i = j
  · rw [if_pos hi, if_pos hi, ite_self]
  · rw [if_neg hi, if_neg hi]

theorem erase_insert_comm (m : SortedMap α) (h : j ≠ k) (v : α) :
    (m.insert j v).erase k = (m.erase k).insert j v := by
  refine ext_get? fun i => ?_
  simp only [get?_erase, get?_insert]
  by_cases hi : i = j
  · rw [if_pos hi, if_pos hi, if_neg (hi ▸ h)]
  · rw [if_neg hi, if_neg hi]

end Strongbox.SortedMap
