/-! Maps from texts, kept in ascending order of their keys, each key once. Two maps with the same
bindings are equal, so what is written from one does not depend on the order of its updates. -/
namespace Strongbox

structure SortedMap (α : Type) where
  toList : List (String × α)
  sorted : toList.Pairwise (·.1 < ·.1)

namespace SortedMap

variable {α : Type}

def empty : SortedMap α := ⟨[], .nil⟩

def isEmpty (m : SortedMap α) : Bool := m.toList.isEmpty

def lookup (k : String) : List (String × α) → Option α
  | [] => none
  | (k', v) :: rest => if k = k' then some v else lookup k rest

def get? (m : SortedMap α) (k : String) : Option α := lookup k m.toList

def insertInto (k : String) (v : α) : List (String × α) → List (String × α)
  | [] => [(k, v)]
  | (k', v') :: rest =>
    if k < k' then (k, v) :: (k', v') :: rest
    else if k = k' then (k, v) :: rest
    else (k', v') :: insertInto k v rest

def eraseFrom (k : String) (l : List (String × α)) : List (String × α) :=
  l.filter (·.1 != k)

theorem mem_insertInto {k : String} {v : α} {l : List (String × α)} {p : String × α}
    (h : p ∈ insertInto k v l) : p = (k, v) ∨ p ∈ l := by
  induction l with
  | nil => simpa [insertInto] using h
  | cons q rest ih =>
    obtain ⟨k', v'⟩ := q
    unfold insertInto at h
    split at h
    · simpa using h
    · split at h
      · simp only [List.mem_cons] at h ⊢
        exact h.imp id .inr
      · simp only [List.mem_cons] at h ⊢
        rcases h with h | h
        · exact .inr (.inl h)
        · exact (ih h).imp id .inr

theorem lt_of_not_lt_of_ne {a b : String} (h : ¬ a < b) (hne : a ≠ b) : b < a :=
  Decidable.byContradiction fun h' => hne (String.le_antisymm (String.not_lt.1 h') (String.not_lt.1 h))

theorem sorted_insertInto {k : String} {v : α} {l : List (String × α)}
    (h : l.Pairwise (·.1 < ·.1)) : (insertInto k v l).Pairwise (·.1 < ·.1) := by
  induction l with
  | nil => simp [insertInto]
  | cons q rest ih =>
    obtain ⟨k', v'⟩ := q
    obtain ⟨hhead, htail⟩ := List.pairwise_cons.1 h
    unfold insertInto
    split
    · rename_i hlt
      refine List.pairwise_cons.2 ⟨fun p hp => ?_, h⟩
      rcases List.mem_cons.1 hp with rfl | hp
      · exact hlt
      · exact String.lt_trans hlt (hhead p hp)
    · split
      · rename_i heq
        subst heq
        exact List.pairwise_cons.2 ⟨hhead, htail⟩
      · rename_i hlt hne
        refine List.pairwise_cons.2 ⟨fun p hp => ?_, ih htail⟩
        rcases mem_insertInto hp with rfl | hp
        · exact lt_of_not_lt_of_ne hlt hne
        · exact hhead p hp

def insert (m : SortedMap α) (k : String) (v : α) : SortedMap α :=
  ⟨insertInto k v m.toList, sorted_insertInto m.sorted⟩

def erase (m : SortedMap α) (k : String) : SortedMap α :=
  ⟨eraseFrom k m.toList, m.sorted.filter _⟩

/-- The last binding of a key counts. -/
def ofList (l : List (String × α)) : SortedMap α :=
  l.foldl (fun m (k, v) => m.insert k v) empty

end SortedMap
end Strongbox
