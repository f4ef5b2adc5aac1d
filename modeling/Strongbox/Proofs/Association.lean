/-! Lists of bindings that are updated by dropping a key and putting it first again, and the changes of
such a list that no look-up can see. -/
namespace Strongbox.Association

variable {κ α : Type} [BEq κ] [LawfulBEq κ]

/-- Value of the first binding of a key. -/
def first? {κ α : Type} [BEq κ] (key : κ) (l : List (κ × α)) : Option α := (l.find? (·.1 == key)).map (·.2)

theorem first?_without [DecidableEq κ] (j k : κ) (l : List (κ × α)) :
    first? j (l.filter (·.1 != k)) = if j = k then none else first? j l := by
  induction l with
  | nil => simp [first?]
  | cons p l ih =>
      unfold first? at ih ⊢
      by_cases hp : p.1 = k
      · rw [List.filter_cons_of_neg (by simp [hp]), ih]
        by_cases hj : j = k
        · simp [hj]
        · have hne : ¬ p.1 = j := fun heq => hj (heq.symm.trans hp)
          simp [hj, hne]
      · rw [List.filter_cons_of_pos (by simp [hp])]
        by_cases hj : p.1 = j
        · have hne : ¬ j = k := fun heq => hp (hj.trans heq)
          simp [hj, hne]
        · rw [List.find?_cons_of_neg (by simp [hj]), List.find?_cons_of_neg (by simp [hj]), ih]

theorem first?_rebind [DecidableEq κ] (j k : κ) (a : α) (l : List (κ × α)) :
    first? j ((k, a) :: l.filter (·.1 != k)) = if j = k then some a else first? j l := by
  by_cases h : j = k
  · simp [first?, h]
  · have hrest := first?_without j k l
    rw [if_neg h] at hrest ⊢
    rw [← hrest, first?, List.find?_cons_of_neg (by simpa using Ne.symm h)]
    rfl

/-! ### Changes that do not show -/

omit [LawfulBEq κ] in
theorem first?_append (key : κ) (l l' : List (κ × α)) :
    first? key (l ++ l') = (first? key l).or (first? key l') := by
  simp only [first?, List.find?_append, Option.map_or]

theorem first?_cons_of_ne {key : κ} {p : κ × α} (h : p.1 ≠ key) (l : List (κ × α)) :
    first? key (p :: l) = first? key l := by
  simp [first?, h]

theorem isSome_first? {key : κ} {l : List (κ × α)} (h : key ∈ l.map (·.1)) :
    (first? key l).isSome = true := by
  obtain ⟨p, hp, rfl⟩ := List.mem_map.1 h
  rw [first?, Option.isSome_map, List.find?_isSome]
  exact ⟨p, hp, by simp⟩

/-- The same bindings for whoever asks for known keys only. -/
inductive Rearranged (known : List κ) : List (κ × α) → List (κ × α) → Prop
  | refl (l : List (κ × α)) : Rearranged known l l
  | symm {l l' : List (κ × α)} (h : Rearranged known l l') : Rearranged known l' l
  | trans {l₁ l₂ l₃ : List (κ × α)} (h : Rearranged known l₁ l₂) (h' : Rearranged known l₂ l₃) :
      Rearranged known l₁ l₃
  | foreign {p : κ × α} (before after : List (κ × α)) (h : p.1 ∉ known) :
      Rearranged known (before ++ after) (before ++ p :: after)
  | repeated {p : κ × α} (before after : List (κ × α)) (h : p.1 ∈ before.map (·.1)) :
      Rearranged known (before ++ after) (before ++ p :: after)
  | swapped {p q : κ × α} (before after : List (κ × α)) (h : p.1 ≠ q.1) :
      Rearranged known (before ++ p :: q :: after) (before ++ q :: p :: after)

theorem Rearranged.first?_eq {known : List κ} {l l' : List (κ × α)} (h : Rearranged known l l')
    {key : κ} (hkey : key ∈ known) : first? key l' = first? key l := by
  induction h with
  | refl l => rfl
  | symm h ih => exact ih.symm
  | trans h h' ih ih' => exact ih'.trans ih
  | @foreign p before after h =>
      have hne : p.1 ≠ key := fun heq => h (heq ▸ hkey)
      rw [first?_append, first?_append, first?_cons_of_ne hne]
  | @repeated p before after h =>
      rw [first?_append, first?_append]
      by_cases heq : p.1 = key
      · obtain ⟨a, ha⟩ := Option.isSome_iff_exists.1 (isSome_first? (heq ▸ h))
        rw [ha, Option.some_or, Option.some_or]
      · rw [first?_cons_of_ne heq]
  | @swapped p q before after h =>
      rw [first?_append, first?_append]
      congr 1
      by_cases heq : p.1 = key
      · have hq : q.1 ≠ key := fun hq => h (heq.trans hq.symm)
        rw [first?_cons_of_ne hq]
        simp [first?, heq]
      · rw [first?_cons_of_ne heq]
        by_cases hq : q.1 = key
        · simp [first?, hq]
        · rw [first?_cons_of_ne hq, first?_cons_of_ne hq, first?_cons_of_ne heq]

end Strongbox.Association
