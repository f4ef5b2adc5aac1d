import Strongbox.Proofs.NativeKey
/-! The written form of a key is read back, and nothing else is: what a reader makes of any text at all.
Only the first two separators part a text, so the logical key may hold any number of them. -/
namespace Strongbox.NativeKey

/-! ### Keys that are made -/

theorem make_eq_ok_iff {space typeName key : String} {k : NativeKey} :
    make space typeName key = .ok k ↔ k.space = space ∧ k.typeName = typeName ∧ k.key = key := by
  constructor
  · intro h
    unfold make at h
    split at h
    · cases h
    · split at h
      · cases h
      · cases h
        exact ⟨rfl, rfl, rfl⟩
  · rintro ⟨rfl, rfl, rfl⟩
    have hspace := checkComponent_of_isComponent "namespace" k.space_component
    have htype := checkComponent_of_isComponent "type name" k.type_component
    unfold make
    split
    · rename_i e he
      cases hspace.symm.trans he
    · split
      · rename_i e he
        cases htype.symm.trans he
      · rfl

theorem exists_make_iff (space typeName key : String) :
    (∃ k, make space typeName key = .ok k) ↔
      isComponent space = true ∧ isComponent typeName = true := by
  constructor
  · rintro ⟨k, hk⟩
    obtain ⟨rfl, rfl, rfl⟩ := make_eq_ok_iff.1 hk
    exact ⟨k.space_component, k.type_component⟩
  · rintro ⟨hspace, htype⟩
    exact ⟨⟨space, typeName, key, hspace, htype⟩, make_eq_ok_iff.2 ⟨rfl, rfl, rfl⟩⟩

theorem toOption_make_eq_some_iff {space typeName key : String} {k : NativeKey} :
    (make space typeName key).toOption = some k ↔
      k.space = space ∧ k.typeName = typeName ∧ k.key = key := by
  rw [← make_eq_ok_iff]
  cases make space typeName key <;> simp [Except.toOption]

theorem toOption_make_eq_none_iff {space typeName key : String} :
    (make space typeName key).toOption = none ↔
      ¬ (isComponent space = true ∧ isComponent typeName = true) := by
  rw [← exists_make_iff space typeName key]
  cases make space typeName key <;> simp [Except.toOption]

/-! ### Cutting -/

theorem cut_eq_none_iff {cs : List Char} : cut cs = none ↔ separator ∉ cs := by
  induction cs with
  | nil => simp [cut]
  | cons c cs ih =>
      rw [cut, List.mem_cons, not_or]
      by_cases hc : c = separator
      · simp [hc]
      · rw [if_neg hc, Option.map_eq_none_iff, ih]
        exact ⟨fun h => ⟨Ne.symm hc, h⟩, And.right⟩

theorem cut_eq_some_iff {cs before after : List Char} :
    cut cs = some (before, after) ↔ cs = before ++ separator :: after ∧ separator ∉ before := by
  constructor
  · intro h
    induction cs generalizing before with
    | nil => cases h
    | cons c cs ih =>
        rw [cut] at h
        by_cases hc : c = separator
        · rw [if_pos hc] at h
          cases h
          exact ⟨by rw [hc, List.nil_append], List.not_mem_nil⟩
        · rw [if_neg hc] at h
          obtain ⟨⟨before, rest⟩, hcut, hpair⟩ := Option.map_eq_some_iff.1 h
          cases hpair
          obtain ⟨rfl, hbefore⟩ := ih hcut
          refine ⟨rfl, ?_⟩
          rw [List.mem_cons, not_or]
          exact ⟨Ne.symm hc, hbefore⟩
  · rintro ⟨rfl, hbefore⟩
    exact cut_append hbefore

/-! ### Reading -/

theorem toList_targetName (k : NativeKey) :
    k.targetName.toList =
      k.space.toList ++ separator :: (k.typeName.toList ++ separator :: k.key.toList) := by
  rw [targetName, String.toList_append, String.toList_append, toList_service]
  simp [separator]

theorem parse_targetName (k : NativeKey) : parse k.targetName = some k := by
  rw [parse, toList_targetName, cut_append (separator_not_mem k.space_component)]
  simp only [Option.bind_eq_bind, Option.bind_some]
  rw [cut_append (separator_not_mem k.type_component)]
  simp only [Option.bind_some, String.ofList_toList]
  exact toOption_make_eq_some_iff.2 ⟨rfl, rfl, rfl⟩

theorem targetName_of_parse {s : String} {k : NativeKey} (h : parse s = some k) :
    k.targetName = s := by
  obtain ⟨⟨space, rest⟩, hfirst, h⟩ := Option.bind_eq_some_iff.1 h
  obtain ⟨⟨typeName, key⟩, hsecond, h⟩ := Option.bind_eq_some_iff.1 h
  obtain ⟨hspace, htype, hkey⟩ := toOption_make_eq_some_iff.1 h
  obtain ⟨hs, -⟩ := cut_eq_some_iff.1 hfirst
  obtain ⟨rfl, -⟩ := cut_eq_some_iff.1 hsecond
  refine String.toList_injective ?_
  rw [toList_targetName, hspace, htype, hkey, hs]
  simp only [String.toList_ofList]

theorem parse_eq_some_iff {s : String} {k : NativeKey} : parse s = some k ↔ k.targetName = s :=
  ⟨targetName_of_parse, fun h => h ▸ parse_targetName k⟩

/-- What stands between the separators of a text. -/
def parts (s : String) : List String := (s.toList.splitOn separator).map String.ofList

theorem parse_eq_none_iff {s : String} : parse s = none ↔
    s.toList.count separator < 2 ∨ ∃ part ∈ (parts s).take 2, Text.isBlank part = true := by
  cases hfirst : cut s.toList with
  | none =>
      have hcount := List.count_eq_zero.2 (cut_eq_none_iff.1 hfirst)
      refine iff_of_true ?_ (.inl (by omega))
      rw [parse, hfirst]
      rfl
  | some pair =>
      obtain ⟨space, rest⟩ := pair
      obtain ⟨hs, hspace⟩ := cut_eq_some_iff.1 hfirst
      have hzero := List.count_eq_zero.2 hspace
      cases hsecond : cut rest with
      | none =>
          have hcount := List.count_eq_zero.2 (cut_eq_none_iff.1 hsecond)
          refine iff_of_true ?_ (.inl ?_)
          · simp only [parse, hfirst, Option.bind_eq_bind, Option.bind_some, hsecond]
            rfl
          · rw [hs, List.count_append, List.count_cons_self]
            omega
      | some pair' =>
          obtain ⟨typeName, key⟩ := pair'
          obtain ⟨rfl, htype⟩ := cut_eq_some_iff.1 hsecond
          have hcount : ¬ s.toList.count separator < 2 := by
            rw [hs, List.count_append, List.count_cons_self, List.count_append,
              List.count_cons_self]
            omega
          have hparts : (parts s).take 2 = [String.ofList space, String.ofList typeName] := by
            rw [parts, hs, List.splitOn_append_cons_self_of_not_mem hspace,
              List.splitOn_append_cons_self_of_not_mem htype]
            rfl
          have hcomponent : ∀ {cs : List Char}, separator ∉ cs →
              isComponent (String.ofList cs) = !Text.isBlank (String.ofList cs) := by
            intro cs hcs
            simp [isComponent, hcs]
          rw [or_iff_right hcount, hparts]
          simp only [parse, hfirst, Option.bind_eq_bind, Option.bind_some, hsecond]
          rw [toOption_make_eq_none_iff, hcomponent hspace, hcomponent htype]
          simp only [List.mem_cons, List.not_mem_nil, or_false, exists_eq_or_imp, exists_eq_left]
          cases Text.isBlank (String.ofList space) <;>
            cases Text.isBlank (String.ofList typeName) <;> simp

theorem targetName_injective {k k' : NativeKey} (h : k.targetName = k'.targetName) : k = k' := by
  have hparse := k.parse_targetName
  rw [h, k'.parse_targetName] at hparse
  exact (Option.some.inj hparse).symm

/-- Keys and their written forms stand for each other: every text is the written form of one key or
is refused, and a key is refused just for a name space or a type that is no component. -/
theorem parse_targetName_bijective :
    (∀ space typeName key, (∃ k, make space typeName key = .ok k) ↔
      isComponent space = true ∧ isComponent typeName = true) ∧
    (∀ space typeName key k, make space typeName key = .ok k ↔
      k.space = space ∧ k.typeName = typeName ∧ k.key = key) ∧
    (∀ s k, parse s = some k ↔ k.targetName = s) ∧
    (∀ s, parse s = none ↔ s.toList.count separator < 2 ∨
      ∃ part ∈ (parts s).take 2, Text.isBlank part = true) ∧
    (∀ k k' : NativeKey, k.targetName = k'.targetName ↔
      k.space = k'.space ∧ k.typeName = k'.typeName ∧ k.key = k'.key) ∧
    ∀ k k' : NativeKey, k.service = k'.service ∧ k.key = k'.key ↔
      k.space = k'.space ∧ k.typeName = k'.typeName ∧ k.key = k'.key := by
  have hsame : ∀ k k' : NativeKey,
      k = k' ↔ k.space = k'.space ∧ k.typeName = k'.typeName ∧ k.key = k'.key :=
    fun k k' => ⟨fun h => h ▸ ⟨rfl, rfl, rfl⟩, fun h => ext h.1 h.2.1 h.2.2⟩
  refine ⟨exists_make_iff, fun _ _ _ _ => make_eq_ok_iff, fun _ _ => parse_eq_some_iff,
    fun _ => parse_eq_none_iff, fun k k' => ?_, fun k k' => ?_⟩
  · rw [← hsame]
    exact ⟨targetName_injective, fun h => h ▸ rfl⟩
  · rw [← hsame]
    exact service_key_iff k k'

/-- A key full of separators. -/
example : parse "app:Token::a:" = some ⟨"app", "Token", ":a:", by decide, by decide⟩ := by
  decide +kernel

end Strongbox.NativeKey
