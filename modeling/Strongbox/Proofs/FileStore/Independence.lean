import Strongbox.Proofs.FileStore.Change
/-! Changes of different keys do not interact: what each of them is answered and whether it writes do not
depend on the other, and the document that both leave does not depend on which came first. This holds
within one service as well, where a put makes the service and a delete may take it away. -/
namespace Strongbox.FileStore.Change

open NativeStore (Answer)

variable {c c' : Change} {d d' : StoreDocument}

/-- What the call is answered that finds the document. -/
def reply : Change → StoreDocument → Answer
  | put _ _, _ => .done
  | delete key, d => .existed (d.get? key.service key.key).isSome

/-- The document once the change is made. -/
def apply (c : Change) (d : StoreDocument) : StoreDocument := (c.rewrite d).getD d

/-- What the change makes of the blobs of its service. -/
def within : Change → Option (SortedMap String) → Option (SortedMap String)
  | put key blob, inner => some ((inner.getD .empty).insert key.key blob)
  | delete key, inner =>
    if (inner.bind (·.get? key.key)).isSome then
      inner.bind fun inner => StoreDocument.kept (inner.erase key.key)
    else inner

theorem apply_of_some (h : c.rewrite d = some d') : c.apply d = d' := by
  rw [apply, h]
  rfl

theorem apply_of_none (h : c.rewrite d = none) : c.apply d = d := by
  rw [apply, h]
  rfl

theorem apply_delete {key : NativeKey} (h : (d.get? key.service key.key).isSome = true) :
    (delete key).apply d = d.erase key.service key.key :=
  apply_of_some (if_pos h)

theorem apply_delete_of_absent {key : NativeKey} (h : ¬ (d.get? key.service key.key).isSome = true) :
    (delete key).apply d = d :=
  apply_of_none (if_neg h)

theorem entries_apply_self (c : Change) (d : StoreDocument) :
    (c.apply d).entries.get? c.key.service = c.within (d.entries.get? c.key.service) := by
  cases c with
  | put key blob => exact (StoreDocument.entries_insert _ _ _ _ _).trans (if_pos rfl)
  | delete key =>
      by_cases hthere : (d.get? key.service key.key).isSome = true
      · rw [apply_delete hthere]
        refine ((StoreDocument.entries_erase _ _ _ _).trans (if_pos rfl)).trans ?_
        exact (if_pos hthere).symm
      · rw [apply_delete_of_absent hthere]
        exact (if_neg hthere).symm

theorem entries_apply_other {service : String} (h : service ≠ c.key.service) (d : StoreDocument) :
    (c.apply d).entries.get? service = d.entries.get? service := by
  cases c with
  | put key blob => exact (StoreDocument.entries_insert _ _ _ _ _).trans (if_neg h)
  | delete key =>
      by_cases hthere : (d.get? key.service key.key).isSome = true
      · rw [apply_delete hthere]
        exact (StoreDocument.entries_erase _ _ _ _).trans (if_neg h)
      · rw [apply_delete_of_absent hthere]

theorem version_apply (c : Change) (d : StoreDocument) :
    (c.apply d).version = match c with
      | put _ _ => StoreDocument.currentVersion
      | delete _ => d.version := by
  cases c with
  | put key blob => rfl
  | delete key =>
      by_cases hthere : (d.get? key.service key.key).isSome = true
      · rw [apply_delete hthere, StoreDocument.version_erase]
      · rw [apply_delete_of_absent hthere]

/-- The entries of other keys stay. -/
theorem get?_apply {key : NativeKey} (h : key ≠ c.key) (d : StoreDocument) :
    (c.apply d).get? key.service key.key = d.get? key.service key.key := by
  cases hrewrite : c.rewrite d with
  | none => rw [apply_of_none hrewrite]
  | some d' =>
      rw [apply_of_some hrewrite]
      exact get?_of_rewrite h hrewrite

theorem reply_apply (h : c.key ≠ c'.key) (d : StoreDocument) : c.reply (c'.apply d) = c.reply d := by
  cases c with
  | put key blob => rfl
  | delete key => exact congrArg (fun blob => Answer.existed blob.isSome) (get?_apply h d)

/-- Whether a call writes depends on the entry of its key alone. -/
theorem isSome_rewrite_apply (h : c.key ≠ c'.key) (d : StoreDocument) :
    (c.rewrite (c'.apply d)).isSome = (c.rewrite d).isSome := by
  cases c with
  | put key blob => rfl
  | delete key =>
      have hsame : (c'.apply d).get? key.service key.key = d.get? key.service key.key :=
        get?_apply h d
      simp only [rewrite, hsame]
      split <;> rfl

section

variable {key key' : NativeKey} {inner : SortedMap String}

theorem within_of_get? (h : (inner.get? key.key).isSome = true) :
    (delete key).within (some inner) = StoreDocument.kept (inner.erase key.key) :=
  if_pos h

theorem within_of_absent (inner : Option (SortedMap String))
    (h : ¬ (inner.bind (·.get? key.key)).isSome = true) : (delete key).within inner = inner :=
  if_neg h

/-- A put keeps its service, so a delete that comes after it does not take it away. -/
theorem within_put_delete (h : key.key ≠ key'.key) (blob : String)
    (inner : Option (SortedMap String)) : (put key blob).within ((delete key').within inner) =
      (delete key').within ((put key blob).within inner) := by
  have hother : ∀ inner : SortedMap String,
      (inner.insert key.key blob).get? key'.key = inner.get? key'.key := by
    intro inner
    rw [SortedMap.get?_insert, if_neg (Ne.symm h)]
  cases inner with
  | none =>
      have habsent : ¬ ((SortedMap.empty.insert key.key blob).get? key'.key).isSome = true := by
        rw [hother]
        exact Bool.false_ne_true
      exact (within_of_absent (some _) habsent).symm
  | some inner =>
      by_cases hthere : (inner.get? key'.key).isSome = true
      · have hthere' : ((inner.insert key.key blob).get? key'.key).isSome = true := by
          rwa [hother]
        have hkept : (((inner.insert key.key blob).erase key'.key).get? key.key).isSome = true := by
          rw [SortedMap.get?_erase, if_neg h, SortedMap.get?_insert, if_pos rfl]
          rfl
        rw [within_of_get? hthere]
        refine Eq.trans ?_ (within_of_get? hthere').symm
        rw [StoreDocument.kept_of_get? hkept, SortedMap.erase_insert_comm _ h]
        exact congrArg (fun inner => some (inner.insert key.key blob)) (StoreDocument.getD_kept _)
      · have habsent : ¬ ((inner.insert key.key blob).get? key'.key).isSome = true := by
          rwa [hother]
        rw [within_of_absent (some inner) hthere]
        exact (within_of_absent (some _) habsent).symm

/-- A service that another key is in outlives a delete. -/
theorem within_delete_of_get? (h : key.key ≠ key'.key) (hthere : (inner.get? key.key).isSome = true)
    (hthere' : (inner.get? key'.key).isSome = true) :
    (delete key).within ((delete key').within (some inner)) =
      StoreDocument.kept ((inner.erase key'.key).erase key.key) := by
  have hother : ((inner.erase key'.key).get? key.key).isSome = true := by
    rwa [SortedMap.get?_erase, if_neg h]
  rw [within_of_get? hthere', StoreDocument.kept_of_get? hother, within_of_get? hother]

/-- What a delete does not find it does not find after another one. -/
theorem within_delete_of_absent (h : key.key ≠ key'.key) (inner : Option (SortedMap String))
    (habsent : ¬ (inner.bind (·.get? key.key)).isSome = true) :
    (delete key).within ((delete key').within inner) = (delete key').within inner := by
  refine within_of_absent _ fun hthere => habsent ?_
  by_cases hthere' : (inner.bind (·.get? key'.key)).isSome = true
  · cases inner with
    | none => cases hthere'
    | some inner =>
        rwa [within_of_get? hthere', StoreDocument.bind_kept, SortedMap.get?_erase, if_neg h] at hthere
  · rwa [within_of_absent inner hthere'] at hthere

theorem within_delete_delete (h : key.key ≠ key'.key) (inner : Option (SortedMap String)) :
    (delete key).within ((delete key').within inner) =
      (delete key').within ((delete key).within inner) := by
  by_cases hthere : (inner.bind (·.get? key.key)).isSome = true
  · by_cases hthere' : (inner.bind (·.get? key'.key)).isSome = true
    · cases inner with
      | none => rfl
      | some inner =>
          rw [within_delete_of_get? h hthere hthere', SortedMap.erase_comm,
            within_delete_of_get? (Ne.symm h) hthere' hthere]
    · rw [within_delete_of_absent (Ne.symm h) inner hthere', within_of_absent inner hthere']
  · rw [within_delete_of_absent h inner hthere, within_of_absent inner hthere]

end

theorem within_comm (h : c.key.key ≠ c'.key.key) (inner : Option (SortedMap String)) :
    c.within (c'.within inner) = c'.within (c.within inner) := by
  cases c with
  | put key blob =>
      cases c' with
      | put key' blob' => exact congrArg some (SortedMap.insert_comm _ (Ne.symm h) blob' blob)
      | delete key' => exact within_put_delete h blob inner
  | delete key =>
      cases c' with
      | put key' blob' => exact (within_put_delete (Ne.symm h) blob' inner).symm
      | delete key' => exact within_delete_delete h inner

/-- Two changes leave one document, whichever of them comes first. -/
theorem apply_comm (h : c.key ≠ c'.key) (d : StoreDocument) :
    c.apply (c'.apply d) = c'.apply (c.apply d) := by
  have hversion : (c.apply (c'.apply d)).version = (c'.apply (c.apply d)).version := by
    simp only [version_apply]
    cases c <;> cases c' <;> rfl
  have hentries : (c.apply (c'.apply d)).entries = (c'.apply (c.apply d)).entries := by
    refine SortedMap.ext_get? fun service => ?_
    by_cases hservice : service = c.key.service
    · by_cases hservice' : service = c'.key.service
      · have hsame : c'.key.service = c.key.service := hservice'.symm.trans hservice
        have hkey : c.key.key ≠ c'.key.key :=
          fun hkey => h ((NativeKey.service_key_iff _ _).1 ⟨hsame.symm, hkey⟩)
        rw [hservice, entries_apply_self, ← hsame, entries_apply_self, entries_apply_self, hsame,
          entries_apply_self]
        exact within_comm hkey _
      · rw [entries_apply_other hservice', hservice, entries_apply_self, entries_apply_self,
          entries_apply_other (hservice ▸ hservice')]
    · by_cases hservice' : service = c'.key.service
      · rw [entries_apply_other hservice, hservice', entries_apply_self, entries_apply_self,
          entries_apply_other (hservice' ▸ hservice)]
      · simp only [entries_apply_other hservice, entries_apply_other hservice']
  exact StoreDocument.ext hversion hentries

end Strongbox.FileStore.Change
